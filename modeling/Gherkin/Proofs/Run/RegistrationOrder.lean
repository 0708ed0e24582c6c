import Gherkin.Proofs.Feature.Renaming
import Gherkin.Proofs.Run.Reports
import Gherkin.Proofs.Step.Registration
import Gherkin.Run.Executor

/-!
# The order of registration

Steps can be registered in any order, and it makes no difference to anything but the positions at
which they stand: texts are matched alike, features are accepted or rejected alike, and runs tell
and write the same (`Registry.order_of_registration`).

That no pattern takes precedence over another is carried here from looking up, over reading, to
running: a step that was found at another position is run with the same handler (`invoke_rename`),
so a block of steps reports the same, and so does a run of blocks.
-/

namespace Gherkin

/-- The block with the definitions of its steps at other positions. -/
def Block.rename (σ : Nat → Nat) (b : Block) : Block :=
  { b with background := b.background.map (Step.rename σ), steps := b.steps.map (Step.rename σ) }

/-- The event with all definitions in it at other positions. -/
def Event.rename {W : Type} (σ : Nat → Nat) : Event W → Event W
  | .started f => .started (f.rename σ)
  | .linted f => .linted (f.rename σ)
  | .parsingFailed r => .parsingFailed r
  | .scenarioStarted name => .scenarioStarted name
  | .step s background status logs invocation =>
    .step (s.rename σ) background status logs invocation
  | .scenarioFinished name passed => .scenarioFinished name passed
  | .finished s => .finished s

/-! ## Blocks of a renamed feature -/

namespace Segments

/-- The segments with all definitions at other positions. -/
def rename (σ : Nat → Nat) (p : Segments) : Segments :=
  { lead := p.lead.map (Item.rename σ)
    scenarios := p.scenarios.map fun s => (s.1, s.2.map (Item.rename σ)) }

theorem ofItems_rename (σ : Nat → Nat) (items : List Item) :
    ofItems (items.map (Item.rename σ)) = (ofItems items).rename σ := by
  induction items with
  | nil => rfl
  | cons item rest ih =>
    have hscenario : (item.rename σ).scenario? = item.scenario? := by
      cases item <;> rfl
    cases hitem : item.scenario? with
    | none =>
      rw [List.map_cons, ofItems_of_none hitem, ofItems_of_none (hscenario.trans hitem), ih]
      rfl
    | some m =>
      rw [List.map_cons, ofItems_of_some hitem, ofItems_of_some (hscenario.trans hitem), ih]
      rfl

theorem blocks_rename (σ : Nat → Nat) (background : List Step) (p : Segments) :
    (p.rename σ).blocks (background.map (Step.rename σ))
      = (p.blocks background).map (Block.rename σ) := by
  have hscenario (s : Marker × List Item) :
      Block.ofScenario (background.map (Step.rename σ)) (s.1, s.2.map (Item.rename σ))
        = (Block.ofScenario background s).rename σ := by
    unfold Block.ofScenario Block.rename
    dsimp only
    rw [Item.filterMap_step?_rename]
  have hscenarios : (p.rename σ).scenarios.map (Block.ofScenario (background.map (Step.rename σ)))
      = (p.scenarios.map (Block.ofScenario background)).map (Block.rename σ) := by
    unfold rename
    rw [List.map_map, List.map_map]
    exact List.map_congr_left fun s _ => hscenario s
  have hlead : (p.rename σ).lead.filterMap Item.step?
      = (p.lead.filterMap Item.step?).map (Step.rename σ) := Item.filterMap_step?_rename σ p.lead
  unfold blocks
  dsimp only
  rw [hlead, hscenarios, List.map_append]
  -- steps before the first scenario make a block in both or in neither
  cases p.lead.filterMap Item.step? <;> rfl

end Segments

/-- A renamed feature has the blocks of the feature, renamed. -/
theorem Feature.blocks_rename (σ : Nat → Nat) (f : Feature) :
    (f.rename σ).blocks = f.blocks.map (Block.rename σ) := by
  have hbackground : (f.rename σ).backgroundSteps = f.backgroundSteps.map (Step.rename σ) := by
    unfold backgroundSteps rename
    cases f.background <;> rfl
  have hsegments : (f.rename σ).segments = f.segments.rename σ := Segments.ofItems_rename σ f.items
  unfold blocks
  rw [hbackground, hsegments, Segments.blocks_rename]

namespace Course

variable {W : Type} {reg reg' : Registry W} {σ : Equiv.Perm Nat} {fresh : Nat → W} {o : Options}

/-! ## Runs of a renamed feature -/

/-- A step that was found at another position is run with the same handler. -/
theorem invoke_rename (h : Registry.Reordered σ reg reg') (s : Step) (world : W) :
    invoke reg' (s.rename σ) world = invoke reg s world := by
  have hdefinition : reg'.definitions[(s.rename σ).found.handler]?
      = reg.definitions[s.found.handler]? := h s.found.handler
  unfold invoke
  rw [hdefinition]
  rfl

theorem reports_rename (h : Registry.Reordered σ reg reg') (world : W) (failed : Bool)
    (steps : List Step) :
    reports reg' world failed (steps.map (Step.rename σ)) = reports reg world failed steps := by
  induction steps generalizing world failed with
  | nil => rfl
  | cons s rest ih =>
    cases failed with
    | true => exact congrArg (StepReport.skipped :: ·) (ih world true)
    | false =>
      rw [List.map_cons, reports, reports, invoke_rename h]
      exact congrArg (_ :: ·) (ih _ _)

/-- A block tells the same of its steps at other positions. -/
theorem runBlock_rename (h : Registry.Reordered σ reg reg') (world : W) (b : Block) :
    runBlock reg' world (b.rename σ)
      = { runBlock reg world b with
          events := (runBlock reg world b).events.map (Event.rename σ) } := by
  have hreports : (b.rename σ).reports reg' world = b.reports reg world := by
    unfold Block.reports Block.rename
    rw [← List.map_append, reports_rename h]
  have hsequence : (b.rename σ).sequence = b.sequence.map fun s => (s.1, s.2.rename σ) := by
    unfold Block.sequence Block.rename
    rw [List.map_append, List.map_map, List.map_map, List.map_map, List.map_map]
    rfl
  have hevents (rs : List (StepReport W)) :
      List.zipWith (fun s r => r.event s) (b.rename σ).sequence rs
        = (List.zipWith (fun s r => StepReport.event s r) b.sequence rs).map (Event.rename σ) := by
    rw [hsequence, List.zipWith_map_left, List.map_zipWith]
    rfl
  rw [runBlock_eq, runBlock_eq, hreports]
  show BlockOutcome.mk (_ ++ List.zipWith _ (b.rename σ).sequence (b.reports reg world) ++ _) _ _
    = _
  rw [hevents, List.map_append, List.map_append]
  rfl

/-- **A feature runs alike with its definitions at other positions.** -/
theorem run_rename (h : Registry.Reordered σ reg reg') (contexts : Nat) (f : Feature) :
    run reg' fresh o contexts (f.rename σ)
      = { run reg fresh o contexts f with
          events := (run reg fresh o contexts f).events.map (Event.rename σ) } := by
  have hname (b : Block) : (b.rename σ).name = b.name := rfl
  rw [run_eq_runBlocks, run_eq_runBlocks, f.blocks_rename,
    runBlocks_map hname (runBlock_rename h)]
  rfl

end Course

namespace Executor

variable {W : Type} {reg' : Registry W} {σ : Equiv.Perm Nat}

theorem runFeature_rename (e : Executor W) (h : Registry.Reordered σ e.registry reg')
    (contexts : Nat) (text : Text) :
    ({ e with registry := reg' } : Executor W).runFeature contexts text
      = { e.runFeature contexts text with
          events := (e.runFeature contexts text).events.map (Event.rename σ) } := by
  unfold runFeature
  dsimp only
  rw [Feature.read_rename h]
  cases Feature.read e.registry text with
  | error rejection => rfl
  | ok f =>
    show (if e.lint then _ else _) = _
    dsimp only
    split
    next => rfl
    next =>
      rw [Course.run_rename h]
      rfl

/-- A text runs alike with the steps registered in another order. -/
theorem runText_rename (e : Executor W) (h : Registry.Reordered σ e.registry reg')
    (contexts : Nat) (text : Text) :
    ({ e with registry := reg' } : Executor W).runText contexts text
      = { e.runText contexts text with
          events := (e.runText contexts text).events.map (Event.rename σ) } := by
  unfold runText
  dsimp only
  rw [e.runFeature_rename h, List.map_append]
  rfl

end Executor

/-- Nothing is written of where definitions are registered. -/
theorem Console.render_rename {W : Type} (c : Console) (σ : Nat → Nat) (events : List (Event W)) :
    c.render (events.map (Event.rename σ)) = c.render events := by
  refine c.render_map (fun event => ?_) events
  cases event <;> rfl

/-- **The order of registration never matters.** Steps that can be registered one after another can
be registered in any other order, and then everything is as before but for the positions of the
definitions: every text is matched with the same one definition or not matched for the same fault,
every feature is read as the same or rejected with the same fault and the same listing, and
whatever an executor is to run, it tells the same, writes the same, and comes to the same. -/
theorem Registry.order_of_registration {W : Type} {before after : Registry W}
    {steps steps' : List (Registration W)} (hperm : steps.Perm steps')
    (hregister : before.registerAll steps = .ok after) :
    ∃ (after' : Registry W) (σ : Equiv.Perm Nat),
      before.registerAll steps' = .ok after' ∧ Reordered σ after after' ∧
      (∀ text, after'.find text = (after.find text).map (Match.rename σ)) ∧
      (∀ text, Feature.read after' text = (Feature.read after text).map (Feature.rename σ)) ∧
      ∀ (e : Executor W) (contexts : Nat) (text : Text),
        let ran := ({ e with registry := after } : Executor W).runText contexts text
        let ran' := ({ e with registry := after' } : Executor W).runText contexts text
        ran'.events = ran.events.map (Event.rename σ) ∧
          e.console.render ran'.events = e.console.render ran.events ∧
          ran'.result = ran.result ∧ ran'.contexts = ran.contexts := by
  obtain ⟨after', hregister', hdefinitions⟩ := exists_registerAll_of_perm hperm hregister
  obtain ⟨σ, hσ⟩ := exists_perm_getElem? hdefinitions
  have h : Reordered σ after after' := hσ
  refine ⟨after', σ, hregister', h, h.find, Feature.read_rename h, ?_⟩
  intro e contexts text ran ran'
  have hran : ran' = { ran with events := ran.events.map (Event.rename σ) } :=
    Executor.runText_rename { e with registry := after } h contexts text
  rw [hran]
  exact ⟨rfl, e.console.render_rename σ ran.events, rfl, rfl⟩

/-- Two steps registered in both orders: a text that only the one for every text matches is found at
the one position and at the other, and features are read alike. -/
theorem Registry.order_of_registration_sample :
    ∃ (after after' : Registry Unit) (σ : Equiv.Perm Nat),
      ({} : Registry Unit).registerAll [Sample.everyText, Sample.emptyText] = .ok after ∧
      ({} : Registry Unit).registerAll [Sample.emptyText, Sample.everyText] = .ok after' ∧
      (∃ m, after.find "press".toList = .ok m ∧ m.handler = 0 ∧
        after'.find "press".toList = .ok (m.rename σ) ∧ σ 0 = 1) ∧
      ∀ text, Feature.read after' text = (Feature.read after text).map (Feature.rename σ) := by
  let found (steps : List (Registration Unit)) : Option Nat :=
    (({} : Registry Unit).registerAll steps).toOption.bind fun reg =>
      (reg.find "press".toList).toOption.map Match.handler
  have hof {steps : List (Registration Unit)} {reg : Registry Unit}
      (h : ({} : Registry Unit).registerAll steps = .ok reg) :
      found steps = (reg.find "press".toList).toOption.map Match.handler := by
    unfold found
    rw [h]
    rfl
  have hfound : found [Sample.everyText, Sample.emptyText] = some 0 := by decide +kernel
  have hfound' : found [Sample.emptyText, Sample.everyText] = some 1 := by decide +kernel
  cases hregister : ({} : Registry Unit).registerAll [Sample.everyText, Sample.emptyText] with
  | error fault =>
    simp only [found, hregister] at hfound
    exact absurd hfound (by simp [Except.toOption])
  | ok after =>
    obtain ⟨after', σ, hregister', -, hfind, hread, -⟩ :=
      order_of_registration (List.Perm.swap Sample.emptyText Sample.everyText []) hregister
    have hhandler : (after.find "press".toList).toOption.map Match.handler = some 0 :=
      (hof hregister).symm.trans hfound
    have hhandler' : (after'.find "press".toList).toOption.map Match.handler = some 1 :=
      (hof hregister').symm.trans hfound'
    rw [hfind] at hhandler'
    cases hm : after.find "press".toList with
    | error fault =>
      rw [hm] at hhandler
      exact absurd hhandler (by simp [Except.toOption])
    | ok m =>
      rw [hm] at hhandler hhandler'
      have hzero : m.handler = 0 := Option.some.inj hhandler
      have hone : σ m.handler = 1 := Option.some.inj hhandler'
      rw [hzero] at hone
      exact ⟨after, after', σ, rfl, hregister',
        ⟨m, hm, hzero, (hfind _).trans (congrArg _ hm), hone⟩, hread⟩

end Gherkin
