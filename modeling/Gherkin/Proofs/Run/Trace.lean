import Gherkin.Proofs.Run.Reports

/-!
# The shape of a run

A run tells of one block after another, each from its beginning to its end: the steps of the
background, then the block's own steps, each once and in order. Steps pass up to one that fails and
are skipped after it, and the end of the block says whether one failed (`Block.ToldBy`).

Nothing else is told. With a filter, or where the run stops at a failure, some blocks are missing;
otherwise there is one for the steps before the first scenario, if there are any, and one for each
marker of a scenario, so that the run tells of all steps between the markers, each once and in order
(`run_tells_blocks`).
-/

namespace Gherkin

/-- The step that an event tells of, unless it is one of the background. -/
def Event.ownStep? {W : Type} : Event W → Option Step
  | .step s false _ _ _ => some s
  | .step _ true _ _ _ | .started _ | .linted _ | .parsingFailed _ | .scenarioStarted _
  | .scenarioFinished _ _ | .finished _ => none

/-- The name of the block of which the event tells the beginning. -/
def Event.startedName? {W : Type} : Event W → Option Text
  | .scenarioStarted name => some name
  | .step _ _ _ _ _ | .started _ | .linted _ | .parsingFailed _ | .scenarioFinished _ _
  | .finished _ => none

namespace Block

open Course

variable {W : Type}

/-- The events tell of the block from its beginning to its end. -/
def ToldBy (b : Block) (es : List (Event W)) : Prop :=
  ∃ (background own : List (StepReport W)) (passed : Bool),
    background.length = b.background.length ∧ own.length = b.steps.length ∧
    es = [.scenarioStarted b.name]
      ++ List.zipWith (fun s r => r.event (true, s)) b.background background
      ++ List.zipWith (fun s r => r.event (false, s)) b.steps own
      ++ [.scenarioFinished b.name passed] ∧
    InOrder ((background ++ own).map (·.status)) passed

/-- Running a block tells of it. -/
theorem toldBy_runBlock (reg : Registry W) (world : W) (b : Block) :
    b.ToldBy (runBlock reg world b).events := by
  have hlength : (b.reports reg world).length = b.background.length + b.steps.length := by
    rw [length_reports, ← List.length_append, ← b.map_snd_sequence, List.length_map]
  obtain ⟨background, own, hreports, hbackground⟩ :
      ∃ background own, b.reports reg world = background ++ own ∧
        background.length = b.background.length := by
    refine ⟨_, _, (List.take_append_drop b.background.length _).symm, ?_⟩
    rw [List.length_take, hlength]
    omega
  have hown : own.length = b.steps.length := by
    rw [hreports, List.length_append] at hlength
    omega
  have hevents : List.zipWith (fun s r => r.event s) b.sequence (b.reports reg world)
      = List.zipWith (fun s r => r.event (true, s)) b.background background
        ++ List.zipWith (fun s r => r.event (false, s)) b.steps own := by
    unfold sequence
    rw [hreports, List.zipWith_append (by rw [List.length_map, hbackground]),
      List.zipWith_map_left, List.zipWith_map_left]
  have horder := inOrder_reports reg world (b.background ++ b.steps)
  refine ⟨background, own, !(b.reports reg world).any (·.isFailed), hbackground, hown, ?_, ?_⟩
  · rw [runBlock_eq]
    dsimp only
    rw [hevents, ← List.append_assoc [_]]
  · rw [← hreports]
    exact horder

/-- What tells of a block tells of each of its own steps once, in order. -/
theorem ToldBy.ownSteps {b : Block} {es : List (Event W)} (h : b.ToldBy es) :
    es.filterMap Event.ownStep? = b.steps := by
  obtain ⟨background, own, passed, -, hown, rfl, -⟩ := h
  have hnone : (List.zipWith (fun s r => r.event (true, s)) b.background background).filterMap
      Event.ownStep? = [] := filterMap_zipWith_eq_nil (fun _ _ => rfl) _ _
  have hsome : (List.zipWith (fun s r => r.event (false, s)) b.steps own).filterMap
      Event.ownStep? = b.steps := by
    rw [← List.map_uncurry_zip_eq_zipWith, List.filterMap_map]
    show (b.steps.zip own).filterMap (some ∘ Prod.fst) = b.steps
    rw [List.filterMap_eq_map, List.map_fst_zip (Nat.le_of_eq hown.symm)]
  rw [List.filterMap_append, List.filterMap_append, List.filterMap_append, hnone, hsome]
  exact List.append_nil _

/-- What tells of a block tells of one beginning. -/
theorem ToldBy.started {b : Block} {es : List (Event W)} (h : b.ToldBy es) :
    es.filterMap Event.startedName? = [b.name] := by
  obtain ⟨background, own, passed, -, -, rfl, -⟩ := h
  have hnone (background : Bool) (ss : List Step) (rs : List (StepReport W)) :
      (List.zipWith (fun s r => r.event (background, s)) ss rs).filterMap
        Event.startedName? = [] := filterMap_zipWith_eq_nil (fun _ _ => rfl) _ _
  rw [List.filterMap_append, List.filterMap_append, List.filterMap_append, hnone, hnone]
  rfl

end Block

namespace Course

variable {W : Type}

/-- Blocks that all run are told one after another. -/
theorem exists_told (reg : Registry W) (fresh : Nat → W) (contexts : Nat) (ran : List Block) :
    ∃ told : List (Block × List (Event W)), told.map (·.1) = ran ∧ (∀ t ∈ told, t.1.ToldBy t.2) ∧
      (Outcome.ofBlocks contexts (runAll reg fresh contexts ran)).events
        = told.flatMap (·.2) := by
  induction ran generalizing contexts with
  | nil =>
    refine ⟨[], rfl, fun t ht => ?_, rfl⟩
    cases ht
  | cons b rest ih =>
    obtain ⟨told, hran, htold, hevents⟩ := ih (contexts + 1)
    let here := (runBlock reg (fresh (contexts + 1)) b).events
    refine ⟨(b, here) :: told, congrArg (b :: ·) hran, ?_, ?_⟩
    · intro t ht
      rcases List.mem_cons.mp ht with rfl | ht
      · exact Block.toldBy_runBlock reg _ b
      · exact htold t ht
    · rw [runAll_cons, Outcome.ofBlocks_cons, hevents, List.flatMap_cons]

end Course

namespace Sample

/-- A registry of two steps: one adds to the context, which is a number, and the other ends as
given. -/
def counter (ending : Ending) : Registry Nat :=
  let definition (line : Nat) (run : List Value → Nat → Reply Nat) : Definition Nat :=
    { pattern := { source := Text.ofNat line, program := .ofNode .empty }
      location := { path := "steps.rs".toList, line, column := 1 }
      handler := { params := [.isolation], run } }
  { definitions :=
      [definition 1 fun _ n => { world := n + 1, logs := [], errors := [], ending := .finished },
        definition 2 fun _ n => { world := n, logs := [], errors := [], ending }] }

/-- A step with the handler at a position. -/
def call (handler line : Nat) : Step :=
  { keyword := .when
    conjunction := false
    line
    found :=
      { handler
        pattern := []
        location := { path := [], line := 0, column := 0 }
        captures := []
        text := [] }
    arguments := []
    docString := none }

/-- A feature made by hand, with a step before the scenarios and a marker of a background among the
items. Its scenarios have the same name, and the first calls the second step of the registry. -/
def handMade : Feature :=
  { name := none
    narrative := []
    background := some { name := [], line := 1, steps := [call 0 2] }
    items :=
      [.marker { kind := .background, name := [], line := 1 }, .step (call 0 3),
        .marker { kind := .scenario, name := "one".toList, line := 4 },
        .step (call 0 5), .step (call 1 6), .step (call 0 7),
        .marker { kind := .scenario, name := "one".toList, line := 8 }, .step (call 0 9)]
    listing := {} }

end Sample

namespace Feature

open Course

variable {W : Type}

/-- **A run tells of blocks of the feature, one after another and each as a whole.** If there is no
filter and the run does not stop at a failure, it tells of all blocks: of every step between the
markers once and in order, and of one block for every marker of a scenario, after one for the steps
before these if there are any. -/
theorem run_tells_blocks (reg : Registry W) (fresh : Nat → W) (o : Options) (contexts : Nat)
    (f : Feature) :
    ∃ told : List (Block × List (Event W)),
      (run reg fresh o contexts f).events = .started f :: told.flatMap (·.2) ∧
      (∀ t ∈ told, t.1.ToldBy t.2) ∧
      (told.map (·.1)).Sublist f.blocks ∧
      (o.nameFilter = none → o.failFast = false →
        told.map (·.1) = f.blocks ∧
        (run reg fresh o contexts f).events.filterMap Event.ownStep?
          = f.items.filterMap Item.step? ∧
        (run reg fresh o contexts f).events.filterMap Event.startedName?
          = (if f.segments.lead.filterMap Item.step? = [] then [] else [[]])
            ++ f.scenarios.map (·.name)) := by
  obtain ⟨ran, hsub, hall, hrun⟩ := exists_runBlocks_eq reg fresh o contexts f.blocks
  obtain ⟨told, hran, htold, hevents⟩ := exists_told reg fresh contexts ran
  have hrunEvents : (run reg fresh o contexts f).events = .started f :: told.flatMap (·.2) := by
    rw [run_eq_runBlocks, hrun]
    exact congrArg _ hevents
  refine ⟨told, hrunEvents, htold, hran ▸ hsub, ?_⟩
  intro hfilter hstop
  have ho : o = {} := by
    obtain ⟨filter, stop⟩ := o
    obtain rfl : filter = none := hfilter
    obtain rfl : stop = false := hstop
    rfl
  have hblocks : told.map (·.1) = f.blocks := hran.trans (hall ho)
  refine ⟨hblocks, ?_, ?_⟩
  · rw [hrunEvents, ← f.steps_blocks, ← hblocks, List.flatMap_map]
    show (told.flatMap (·.2)).filterMap Event.ownStep? = _
    rw [List.filterMap_flatMap]
    exact List.flatMap_congr fun t ht => (htold t ht).ownSteps
  · rw [hrunEvents, ← f.names_blocks, ← hblocks, List.map_map]
    show (told.flatMap (·.2)).filterMap Event.startedName? = _
    rw [List.filterMap_flatMap, ← List.flatMap_pure_eq_map]
    exact List.flatMap_congr fun t ht => (htold t ht).started

/-- The run of the sample tells of its three blocks. -/
theorem run_tells_blocks_sample :
    ∃ told : List (Block × List (Event Nat)),
      (run (Sample.counter (.panicked none)) id {} 0 Sample.handMade).events
        = .started Sample.handMade :: told.flatMap (·.2) ∧
      (∀ t ∈ told, t.1.ToldBy t.2) ∧
      told.map (fun t => (t.1.name, t.1.background.map (·.line), t.1.steps.map (·.line)))
        = [([], [], [3]), ("one".toList, [2], [5, 6, 7]), ("one".toList, [2], [9])] ∧
      (run (Sample.counter (.panicked none)) id {} 0 Sample.handMade).events.filterMap
          Event.ownStep?
        = Sample.handMade.items.filterMap Item.step? := by
  obtain ⟨told, hevents, htold, -, hall⟩ :=
    run_tells_blocks (Sample.counter (.panicked none)) id {} 0 Sample.handMade
  obtain ⟨hblocks, hown, -⟩ := hall rfl rfl
  refine ⟨told, hevents, htold, ?_, hown⟩
  have hmap : (told.map (·.1)).map
      (fun b => (b.name, b.background.map (·.line), b.steps.map (·.line)))
        = [([], [], [3]), ("one".toList, [2], [5, 6, 7]), ("one".toList, [2], [9])] := by
    rw [hblocks]
    decide
  rwa [List.map_map] at hmap

end Feature

end Gherkin
