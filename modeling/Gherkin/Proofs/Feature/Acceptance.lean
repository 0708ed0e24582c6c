import Gherkin.Proofs.Feature.Coverage
import Gherkin.Proofs.Feature.StepsRead

/-!
# What it takes for a feature to be accepted

At the end of the text a reading is closed, and becomes a feature if nothing was found wrong. Here
this is said as an equivalence (`finish_eq_ok_iff`, `read_eq_ok_iff`), and what the lines tell about
a closed reading is carried over to the feature (`accepted_of_read`).

The end of the text acts on a background like one more blank line; `division_close` says so, and
makes the end one more case of what is known of lines. What comes of it for a whole text is
`Parts`.
-/

namespace Gherkin

namespace Reading

variable {W : Type} {reg : Registry W} {r : Reading} {f : Feature} {p : Place} {es : List Entry}

/-- **A reading becomes a feature if and only if no fault was collected**, and then the feature is
what was read. -/
theorem finish_eq_ok_iff :
    r.finish reg = .ok f ↔
      r.close.unsupported = none ∧ r.close.ambiguous = [] ∧ r.close.missing = [] ∧
        arityFaults reg r.close.stepsRead = [] ∧
        f = { name := r.close.name
              narrative := r.close.narrative
              background := r.close.background
              items := r.close.items
              listing := r.close.listing } := by
  unfold finish
  dsimp only
  generalize hfaults : arityFaults reg r.close.stepsRead = faults
  have hsorted : faults.mergeSort (fun a b => a.1 ≤ b.1) = [] ↔ faults = [] := by
    rw [← List.length_eq_zero_iff, List.length_mergeSort, List.length_eq_zero_iff]
  constructor
  · intro h
    split at h
    next => exact absurd h (by simp)
    next => exact absurd h (by simp)
    next => exact absurd h (by simp)
    next hunsupported hambiguous hmismatched =>
      split at h
      next hmissing =>
        have hnone := hsorted.mp hmismatched
        refine ⟨hunsupported, hambiguous, hmissing, hnone, ?_⟩
        rw [← Except.ok.inj h, hnone]
        rfl
      next => exact absurd h (by simp)
  · rintro ⟨hunsupported, hambiguous, hmissing, hnone, rfl⟩
    rw [hunsupported, hambiguous, hmissing, hnone, List.mergeSort_nil]
    rfl

theorem unsupported_close : r.close.unsupported = r.unsupported := by
  unfold close
  rw [unsupported_endBackground]
  split
  next => exact unsupported_endDocString
  next => rfl

/-- A reading that becomes a feature is not unsupported. -/
theorem unsupported_of_finish (h : r.finish reg = .ok f) : r.unsupported = none :=
  unsupported_close ▸ (finish_eq_ok_iff.mp h).1

theorem gathered_close : r.close.gathered = r.gathered := by
  unfold close
  rw [gathered_endBackground]
  split
  next => exact gathered_endDocString
  next => rfl

/-- The end of the text acts on the background like one more blank line. -/
theorem division_close (h : Division reg r.modes es r.written) (line : Nat) :
    Division reg [] (es ++ [{ line, role := .blank }]) r.close.written := by
  unfold close
  have hended : Division reg
      (if r.docString.isSome then r.endDocString else r).modes es
      (if r.docString.isSome then r.endDocString else r).written := by
    split
    next =>
      rw [written_endDocString]
      exact h.mono inBackground_endDocString
    next => exact h
  rw [← Written.add_nil (Reading.written _)]
  exact hended.ending rfl

end Reading

/-- How the lines of a whole text are divided: the lines of the background and those of its steps,
if there is a background, and the lines of the items. -/
inductive Parts (es : List Entry) : Option (Entry × List Entry) → List Entry → Prop
  /-- No line begins a background, and all steps and scenarios are items. -/
  | plain (hnone : ∀ e ∈ es, e.isBackground = false) : Parts es none (es.filter Entry.isItem)
  /-- One line begins the background, which has the steps up to the first blank line or scenario;
  all others are items. -/
  | withBackground (before inside after : List Entry) (line : Nat) (name : Text)
    (hes : es = before ++ { line, role := .background name } :: (inside ++ after))
    (honly : ∀ e ∈ before ++ (inside ++ after), e.isBackground = false)
    (hinside : ∀ e ∈ inside, e.endsBackground = false)
    (hafter : ∀ e ∈ after.head?, e.endsBackground = true) :
    Parts es (some ({ line, role := .background name }, inside.filter Entry.isStep))
      ((before ++ after).filter Entry.isItem)

/-- **A reading that was divided up to one more blank line has the parts of its lines**, if all
steps were found. -/
theorem Division.parts {W : Type} {reg : Registry W} {modes : List Mode} {es : List Entry}
    {w : Written} {last : Nat}
    (h : Division reg modes (es ++ [{ line := last, role := .blank }]) w)
    (hbound : ∀ e ∈ es, e.isBound reg = e.isItem) : Parts es w.background w.items := by
  cases h with
  | absent hnone =>
    rw [List.filter_append, List.filter_congr hbound]
    show Parts es none (es.filter Entry.isItem ++ [])
    rw [List.append_nil]
    exact .plain (List.forall_mem_append.mp hnone).1
  | opened before inside line name hin hes honly hinside =>
    -- the last entry is blank, and nothing inside is
    exfalso
    rcases List.eq_nil_or_concat inside with rfl | ⟨inside', e, rfl⟩
    · have hlast := (List.append_inj' hes rfl).2
      exact absurd hlast (by simp)
    · rw [List.concat_eq_append, ← List.cons_append, ← List.append_assoc] at hes
      have hlast := List.singleton_inj.mp (List.append_inj' hes rfl).2
      have hends := hinside e (by simp)
      rw [← hlast] at hends
      exact absurd hends (by simp [Entry.endsBackground])
  | closed before inside after line name hes honly hinside hafter =>
    -- the end of the text is the last entry after the background, and is dropped from there
    obtain ⟨first, hfirst, hfirstEnds⟩ := hafter
    rcases List.eq_nil_or_concat after with rfl | ⟨after', e, rfl⟩
    · exact absurd hfirst (by simp)
    · rw [List.concat_eq_append] at hes honly hfirst ⊢
      rw [← List.append_assoc, ← List.cons_append, ← List.append_assoc] at hes
      obtain ⟨heq, hlast⟩ := List.append_inj' hes rfl
      rw [← List.append_assoc, ← List.append_assoc, List.append_assoc before] at honly
      have hmem : ∀ e ∈ before ++ (inside ++ after'), e ∈ es := by
        intro e he
        rw [heq, List.mem_append, List.mem_cons]
        rcases List.mem_append.mp he with h | h
        · exact Or.inl h
        · exact Or.inr (Or.inr h)
      have hsteps : inside.filter (Entry.isBound reg) = inside.filter Entry.isStep := by
        refine List.filter_congr fun e he => ?_
        rw [hbound e (hmem e (by simp [he])), Entry.isItem_eq_isStep (hinside e he)]
      have hitems : (before ++ (after' ++ [e])).filter (Entry.isBound reg)
          = (before ++ after').filter Entry.isItem := by
        have hothers : (before ++ after').filter (Entry.isBound reg)
            = (before ++ after').filter Entry.isItem := by
          refine List.filter_congr fun e he => hbound e (hmem e ?_)
          rcases List.mem_append.mp he with h | h
          · exact List.mem_append_left _ h
          · exact List.mem_append_right _ (List.mem_append_right _ h)
        rw [← List.append_assoc, List.filter_append, ← List.singleton_inj.mp hlast, hothers]
        exact List.append_nil _
      rw [hsteps, hitems]
      refine .withBackground before inside after' line name heq
        (List.forall_mem_append.mp honly).1 hinside ?_
      intro e' he'
      rw [List.head?_append, Option.mem_def.mp he'] at hfirst
      exact Option.some.inj hfirst ▸ hfirstEnds

/-- What the lines of a text and the registry tell about the feature that is read from it. -/
structure Feature.Accepted {W : Type} (reg : Registry W) (es : List Entry) (f : Feature) :
    Prop where
  noStray : ∀ e ∈ es, e.role ≠ .stray
  name : f.name = (es.filterMap Entry.featureName?).getLast?
  narrative : f.narrative = es.filterMap Entry.narrative?
  parts : Parts es (f.background.map Background.entries) (f.items.map Item.entry)
  found : ∀ s ∈ f.steps, reg.find s.text = .ok s.found
  arity : Reading.arityFaults reg f.steps = []

namespace Feature

variable {W : Type} {reg : Registry W} {text : Text} {f : Feature}

/-- A feature is read in two goes: first the lines, then the end. -/
theorem read_eq_ok_iff :
    Feature.read reg text = .ok f ↔
      ∃ r, Reading.takeLines reg {} 1 (Text.lines text) = .ok r ∧ r.finish reg = .ok f := by
  unfold Feature.read
  cases Reading.takeLines reg {} 1 (Text.lines text) with
  | error e => simp [bind, Except.bind]
  | ok r => simp [bind, Except.bind]

/-- The steps of a feature are what a reading counts as read. -/
theorem steps_eq_elim (f : Feature) :
    f.steps = f.background.elim [] (·.steps) ++ f.items.filterMap Item.step? := by
  unfold steps backgroundSteps
  cases f.background <;> rfl

/-- If nothing is missing and nothing is ambiguous, every step was found. -/
theorem isBound_eq_isItem {es : List Entry} (hmissing : es.filterMap (Entry.missing? reg) = [])
    (hambiguous : es.filterMap (Entry.ambiguous? reg) = []) :
    ∀ e ∈ es, e.isBound reg = e.isItem := by
  intro e he
  have hm := List.filterMap_eq_nil_iff.mp hmissing e he
  have ha := List.filterMap_eq_nil_iff.mp hambiguous e he
  obtain ⟨n, role⟩ := e
  cases role with
  | step keyword text =>
    unfold Entry.missing? at hm
    unfold Entry.ambiguous? at ha
    dsimp only at hm ha
    show (reg.find text).isOk = true
    cases hfind : reg.find text with
    | ok found => rfl
    | error e =>
      rw [hfind] at hm ha
      cases e with
      | notFound => exact absurd hm (by simp)
      | ambiguous e => exact absurd ha (by simp)
  | _ => rfl

/-- **What is known of every feature that is read.** -/
theorem accepted_of_read (h : Feature.read reg text = .ok f) :
    f.Accepted reg (Entry.ofText text) := by
  obtain ⟨r, htake, hfinish⟩ := read_eq_ok_iff.mp h
  have hsupported : r.unsupported = none := Reading.unsupported_of_finish hfinish
  obtain ⟨-, hambiguous, hmissing, harity, rfl⟩ := Reading.finish_eq_ok_iff.mp hfinish
  obtain ⟨p, hcovers⟩ := Reading.takeLines_covers htake hsupported Covers.initial
  rw [List.nil_append] at hcovers
  have hgathered : r.close.gathered = .ofEntries reg (Entry.ofText text) :=
    Reading.gathered_close.trans hcovers.gathered
  have hbound : ∀ e ∈ Entry.ofText text, e.isBound reg = e.isItem := isBound_eq_isItem
    ((congrArg Gathered.missing hgathered).symm.trans hmissing)
    ((congrArg Gathered.ambiguous hgathered).symm.trans hambiguous)
  have hdivision := Reading.division_close hcovers.division 0
  refine ⟨hcovers.noStray, congrArg Gathered.name hgathered, congrArg Gathered.narrative hgathered,
    hdivision.parts hbound, ?_, ?_⟩
  · intro s hs
    rw [steps_eq_elim] at hs
    exact Reading.found_of_takeLines htake s hs
  · rw [steps_eq_elim]
    exact harity

end Feature

/-! ## A sample -/

namespace Sample

/-- A step that captures the character after its words. -/
def pattern (words : Text) : Pattern :=
  { source := words ++ " (.)".toList
    program := .ofNode (.seq
      (.sequence ((words ++ [' ']).map fun c => .one (.singleton c)))
      (.group 1 (.one .any))) }

/-- One step, whose handler takes an integer and may take a doc string. -/
def registry : Registry Unit :=
  { definitions :=
      [{ pattern := pattern "press".toList
         location := { path := "steps.rs".toList, line := 1, column := 1 }
         handler :=
           { params := [.reporter, .integer { signed := true, bits := 32 }, .text]
             run := fun _ _ => { world := (), logs := [], errors := [], ending := .finished } } }] }

/-- A text with all kinds of lines, whose background stands in the middle of a scenario and has a
doc string. -/
def text : Text :=
  Text.unlines <| List.map String.toList
    ["Feature: Sums", "  As a user", "# of a calculator", "  And more than that", "",
      "Scenario: one", "  Given press 1",
      "  Background: keys", "  When press 2", "  And press 3",
      "    \"\"\"", "    first", "", "      Given press 9", "    \"\"\"", "",
      "  Then press x",
      "Scenario: two", "  Given press 5"]

/-- The text is read. -/
theorem exists_read :
    ∃ f, Feature.read registry text = .ok f ∧ f.steps.map Step.line = [9, 10, 7, 17, 19] ∧
      f.background.map (·.steps.map Step.line) = some [9, 10] := by
  have h : (match Feature.read registry text with
      | .ok f => decide (f.steps.map Step.line = [9, 10, 7, 17, 19] ∧
          f.background.map (·.steps.map Step.line) = some [9, 10])
      | .error _ => false) = true := by decide +kernel
  split at h
  next f hread => exact ⟨f, hread, of_decide_eq_true h⟩
  next => exact absurd h (by simp)

end Sample

end Gherkin
