import Gherkin.Proofs.Feature.Extension
import Gherkin.Proofs.Run.FailFast
import Gherkin.Proofs.Run.View

/-!
# Texts one after another

An executor that runs several texts carries nothing from one to the next but how many contexts there
have been, which is the number of scenarios that it has told to begin (`getElem?_runTexts`). So each
text is run as it would be alone, whatever became of the texts before it: exactly so with the
contexts numbered on, and for handlers that make nothing of the numbers, with the same contexts too
(`Executor.runTexts_alone`).

An executor that only checks texts accepts or rejects each as the one that runs them. It creates no
context and enters no handler: it would tell the same whatever contexts are made of and whatever
handlers do.
-/

namespace Gherkin

variable {W : Type}

/-- The definition with a handler that does as given when it is entered. -/
def Definition.behaving (behave : Definition W → List Value → W → Reply W) (d : Definition W) :
    Definition W :=
  { d with handler := { d.handler with run := behave d } }

/-- The registry with handlers that do as given when they are entered. -/
def Registry.behaving (behave : Definition W → List Value → W → Reply W) (reg : Registry W) :
    Registry W :=
  { definitions := reg.definitions.map (Definition.behaving behave) }

/-- How many contexts the events tell of: every scenario that begins has one of its own. -/
def Event.created (es : List (Event W)) : Nat := (es.filterMap Event.startedName?).length

theorem Event.created_append (es es' : List (Event W)) :
    created (es ++ es') = created es + created es' := by
  unfold created
  rw [List.filterMap_append, List.length_append]

/-- What is written of runs one after another is what is written of each. -/
theorem Console.render_flatMap {ε α : Type} (c : Console) (rans : List (Ran W ε α)) :
    c.render (rans.flatMap (·.events)) = rans.flatMap fun ran => c.render ran.events := by
  unfold render Text.unlines
  rw [List.flatMap_assoc, List.flatMap_assoc]
  exact List.flatMap_congr fun ran _ => List.flatMap_assoc.symm

/-! ## Reading and the handlers -/

namespace Registry

theorem matching_behaving (behave : Definition W → List Value → W → Reply W) (text : Text)
    (first : Nat) (ds : List (Definition W)) :
    matching text first (ds.map (Definition.behaving behave))
      = (matching text first ds).map fun m => (m.1, m.2.1.behaving behave, m.2.2) := by
  induction ds generalizing first with
  | nil => rfl
  | cons d rest ih =>
    have hpattern : (d.behaving behave).pattern = d.pattern := rfl
    rw [List.map_cons, matching, matching, ih, hpattern]
    split
    next => rfl
    next => rfl

/-- What handlers do does not matter to what texts are found with. -/
theorem find_behaving (behave : Definition W → List Value → W → Reply W) (reg : Registry W)
    (text : Text) : (reg.behaving behave).find text = reg.find text := by
  unfold find behaving
  dsimp only
  rw [matching_behaving]
  match matching text 0 reg.definitions with
  | [] => rfl
  | [(i, d, captures)] => rfl
  | first :: second :: rest =>
    have hcandidates := List.map_map (l := first :: second :: rest)
      (f := fun m => (m.1, m.2.1.behaving behave, m.2.2))
      (g := fun m : Nat × Definition W × List Text => (m.2.1.pattern.source, m.2.1.location))
    exact congrArg (fun candidates => Except.error (LookupFault.ambiguous
      { step := text, candidates := List.mergeSort candidates Ambiguity.le })) hcandidates

theorem shapes?_behaving (behave : Definition W → List Value → W → Reply W) (reg : Registry W)
    (i : Nat) : (reg.behaving behave).shapes? i = reg.shapes? i := by
  unfold shapes? behaving
  rw [List.getElem?_map, Option.map_map]
  rfl

end Registry

namespace Executor

/-! ## One text after another -/

/-- Runs texts one after another. -/
def runTexts (e : Executor W) : (contexts : Nat) → List Text → List (Ran W RunFault Report)
  | _, [] => []
  | contexts, text :: rest =>
    let ran := e.runText contexts text
    ran :: e.runTexts ran.contexts rest

@[simp] theorem length_runTexts (e : Executor W) (contexts : Nat) (texts : List Text) :
    (e.runTexts contexts texts).length = texts.length := by
  induction texts generalizing contexts with
  | nil => rfl
  | cons text rest ih => exact congrArg (· + 1) (ih _)

/-- Running a text creates the contexts it tells of. -/
theorem contexts_runText (e : Executor W) (contexts : Nat) (text : Text) :
    (e.runText contexts text).contexts
      = contexts + Event.created (e.runText contexts text).events := by
  have hcontexts : (e.runFeature contexts text).contexts
      = contexts + Event.created (e.runFeature contexts text).events := by
    unfold runFeature
    split
    next => rfl
    next f _ =>
      split
      next => rfl
      next => exact Course.contexts_run e.registry e.fresh e.options contexts f
  show (e.runFeature contexts text).contexts
    = contexts + Event.created ((e.runFeature contexts text).events ++ [.finished _])
  rw [Event.created_append, hcontexts]
  rfl

/-- **Each text is run after the contexts that were told of before**, and after nothing else. -/
theorem getElem?_runTexts (e : Executor W) (contexts : Nat) (texts : List Text) (i : Nat) :
    let earlier := Event.created (((e.runTexts contexts texts).take i).flatMap (·.events))
    (e.runTexts contexts texts)[i]? = texts[i]?.map (e.runText (contexts + earlier)) := by
  induction texts generalizing contexts i with
  | nil => rfl
  | cons text rest ih =>
    cases i with
    | zero => rfl
    | succ i =>
      have hlater := ih (e.runText contexts text).contexts i
      dsimp only at hlater ⊢
      rw [runTexts, List.getElem?_cons_succ, List.getElem?_cons_succ, List.take_succ_cons,
        List.flatMap_cons, Event.created_append, hlater, ← Nat.add_assoc, ← contexts_runText]

/-! ## Checking texts -/

/-- A text that is only checked is accepted or rejected as it is when it is run, without any context
or step. -/
theorem runText_lint (e : Executor W) (contexts contexts' : Nat) (text : Text) :
    let check := ({ e with lint := true } : Executor W).runText contexts text
    let ran := ({ e with lint := false } : Executor W).runText contexts' text
    check.contexts = contexts ∧
      (∀ event ∈ check.events, event.startedName? = none ∧ event.result? = none) ∧
      check.result.map (fun r => (r.listing, r.narrative))
        = ran.result.map fun r => (r.listing, r.narrative) := by
  unfold runText runFeature
  dsimp only
  cases Feature.read e.registry text with
  | error rejection =>
    exact ⟨rfl, List.forall_mem_cons.mpr ⟨⟨rfl, rfl⟩, List.forall_mem_singleton.mpr ⟨rfl, rfl⟩⟩,
      rfl⟩
  | ok f =>
    exact ⟨rfl, List.forall_mem_cons.mpr ⟨⟨rfl, rfl⟩, List.forall_mem_singleton.mpr ⟨rfl, rfl⟩⟩,
      rfl⟩

/-- However many texts are checked, no context is created. -/
theorem contexts_of_mem_runTexts_lint (e : Executor W) {contexts : Nat} {texts : List Text} :
    ∀ check ∈ ({ e with lint := true } : Executor W).runTexts contexts texts,
      check.contexts = contexts := by
  induction texts with
  | nil =>
    intro check hmem
    exact absurd hmem List.not_mem_nil
  | cons text rest ih =>
    have htext : (({ e with lint := true } : Executor W).runText contexts text).contexts
        = contexts := (e.runText_lint contexts contexts text).1
    intro check hmem
    rw [runTexts, htext] at hmem
    rcases List.mem_cons.mp hmem with rfl | hlater
    · exact htext
    · exact ih check hlater

/-- Texts are checked alike with other contexts and with handlers that do other things. -/
theorem runTexts_lint_behaving (e : Executor W) (fresh' : Nat → W)
    (behave : Definition W → List Value → W → Reply W) (contexts : Nat) (texts : List Text) :
    ({ e with lint := true, fresh := fresh', registry := e.registry.behaving behave } :
        Executor W).runTexts contexts texts
      = ({ e with lint := true } : Executor W).runTexts contexts texts := by
  have hread (text : Text) :
      Feature.read (e.registry.behaving behave) text = Feature.read e.registry text :=
    Feature.read_congr (e.registry.find_behaving behave) (e.registry.shapes?_behaving behave) text
  induction texts generalizing contexts with
  | nil => rfl
  | cons text rest ih =>
    have htext : ({ e with lint := true, fresh := fresh', registry := e.registry.behaving behave } :
          Executor W).runText contexts text
        = ({ e with lint := true } : Executor W).runText contexts text := by
      unfold runText runFeature
      dsimp only
      rw [hread]
      rfl
    rw [runTexts, runTexts, htext]
    exact congrArg (_ :: ·) (ih _)

/-- **An executor carries nothing from one text to the next.** It runs each text once, and what it
writes is what it writes for each. A text is run as if it were the first, but with contexts numbered
on from those that the texts before it have created. If handlers make nothing of what tells the
contexts apart, then the events look the same as those of the text alone, and what is written and
what the text comes to is the same.

An executor that only checks creates no context and enters no handler, whatever contexts and
handlers would be, and for each text comes to the same as the one that runs it: to the same fault,
or to the same listing and free text. -/
theorem runTexts_alone (e : Executor W) (texts : List Text) :
    let calls := e.runTexts 0 texts
    let earlier (i : Nat) : Nat := Event.created ((calls.take i).flatMap (·.events))
    calls.length = texts.length ∧
    e.console.render (calls.flatMap (·.events))
      = calls.flatMap (fun ran => e.console.render ran.events) ∧
    (∀ i text, texts[i]? = some text →
      let alone :=
        ({ e with fresh := fun n => e.fresh (earlier i + n) } : Executor W).runText 0 text
      calls[i]? = some { alone with contexts := earlier i + alone.contexts }) ∧
    (∀ (V : Type) (view : W → V), e.registry.SeesOnly view →
      (∀ n n', view (e.fresh n) = view (e.fresh n')) →
      ∀ i text, texts[i]? = some text →
        let alone := e.runText 0 text
        ∃ ran, calls[i]? = some ran ∧
          ran.events.map (Event.view view) = alone.events.map (Event.view view) ∧
          e.console.render ran.events = e.console.render alone.events ∧
          ran.result = alone.result ∧ ran.contexts = earlier i + alone.contexts) ∧
    let checker : Executor W := { e with lint := true }
    let runner : Executor W := { e with lint := false }
    let checks := checker.runTexts 0 texts
    (∀ (fresh' : Nat → W) (behave : Definition W → List Value → W → Reply W),
      ({ checker with fresh := fresh', registry := e.registry.behaving behave } :
        Executor W).runTexts 0 texts = checks) ∧
    ∀ (i : Nat) (text : Text), texts[i]? = some text →
      ∃ check ran : Ran W RunFault Report,
        checks[i]? = some check ∧ (runner.runTexts 0 texts)[i]? = some ran ∧
        check.contexts = 0 ∧
        (∀ event ∈ check.events, event.startedName? = none ∧ event.result? = none) ∧
        check.result.map (fun r => (r.listing, r.narrative))
          = ran.result.map fun r => (r.listing, r.narrative) := by
  intro calls earlier
  have hcall (i : Nat) (text : Text) (hi : texts[i]? = some text) :
      calls[i]? = some (e.runText (earlier i) text) := by
    have hget := e.getElem?_runTexts 0 texts i
    dsimp only at hget
    rw [hi, Nat.zero_add] at hget
    exact hget
  refine ⟨e.length_runTexts 0 texts, ?written, ?numbered, ?seen, ?lint⟩
  case written => exact e.console.render_flatMap calls
  case numbered =>
    intro i text hi alone
    rw [hcall i text hi, e.runText_renumber]
  case seen =>
    intro V view hsees hfresh i text hi alone
    have hlooks (n : Nat) : view (e.fresh (earlier i + n)) = view (e.fresh n) := hfresh _ n
    have hview := e.runText_view hsees hlooks 0 text
    dsimp only at hview
    rw [Nat.add_zero] at hview
    have hevents : ((e.runText (earlier i) text).events).map (Event.view view)
        = alone.events.map (Event.view view) := congrArg Ran.events hview
    refine ⟨_, hcall i text hi, hevents, ?_, congrArg (fun ran : Ran V _ _ => ran.result) hview,
      congrArg (fun ran : Ran V _ _ => ran.contexts) hview⟩
    rw [← e.console.render_view view, hevents, e.console.render_view view]
  case lint =>
    intro checker runner checks
    refine ⟨fun fresh' behave => e.runTexts_lint_behaving fresh' behave 0 texts, ?_⟩
    intro i text hi
    have hcheck := checker.getElem?_runTexts 0 texts i
    have hran := runner.getElem?_runTexts 0 texts i
    dsimp only at hcheck hran
    rw [hi] at hcheck hran
    obtain ⟨-, htold, hresult⟩ := e.runText_lint _ _ text
    exact ⟨_, _, hcheck, hran,
      e.contexts_of_mem_runTexts_lint _ (List.mem_of_getElem? hcheck), htold, hresult⟩

end Executor

namespace Sample

/-- An executor with a step for every text. Its contexts have a number, and a count that the step
raises. -/
def counting : Executor (Nat × Nat) :=
  let count (world : Nat × Nat) : Reply (Nat × Nat) :=
    { world := (world.1, world.2 + 1), logs := [], errors := [], ending := .finished }
  { registry :=
      { definitions :=
          [{ pattern := { source := [], program := .ofNode .empty }
             location := { path := "steps.rs".toList, line := 1, column := 1 }
             handler := { params := [.isolation], run := fun _ world => count world } }] }
    fresh := fun n => (n, 0) }

/-- The step makes nothing of the number. -/
theorem seesOnly_counting : counting.registry.SeesOnly Prod.snd := by
  intro d hd values world world' h
  obtain rfl := List.mem_singleton.mp hd
  let counted (count : Nat) : Reply Nat :=
    { world := count + 1, logs := [], errors := [], ending := .finished }
  exact congrArg counted h

end Sample

namespace Executor

/-- In the sample the third text is run on the second context, because the second text is rejected.
Apart from that number, it is run as it is alone. -/
theorem runTexts_alone_sample :
    let texts := ["When a\nThen b".toList, "Oops".toList, "When a".toList]
    let alone := Sample.counting.runText 0 "When a".toList
    ∃ ran, (Sample.counting.runTexts 0 texts)[2]? = some ran ∧
      ran.events.map (Event.view Prod.snd) = alone.events.map (Event.view Prod.snd) ∧
      ran.result = alone.result ∧ ran.contexts = 2 ∧ alone.contexts = 1 := by
  intro texts alone
  obtain ⟨-, -, -, hseen, -⟩ := runTexts_alone Sample.counting texts
  obtain ⟨ran, hran, hevents, -, hresult, hcontexts⟩ :=
    hseen Nat Prod.snd Sample.seesOnly_counting (fun _ _ => rfl) 2 "When a".toList rfl
  have hearlier : Event.created (((Sample.counting.runTexts 0 texts).take 2).flatMap (·.events))
      = 1 := by decide +kernel
  have halone : alone.contexts = 1 := by decide +kernel
  refine ⟨ran, hran, hevents, hresult, ?_, halone⟩
  dsimp only at hcontexts
  rw [hcontexts, hearlier, halone]

end Executor

end Gherkin
