import Gherkin.Proofs.Feature.Faulty

/-!
# Which fault is reported

Several lines of a text can be at fault in several ways, and one fault is reported. If the scan
comes to the end of the text, that is decided by the lines alone (`Judgement`): a line that is not
supported comes before all steps, an ambiguous step before one whose handler does not accept its
arguments, and that before the steps that are missing. Of its kind it is the one that stands first
in the text, also where a background was moved from behind it; the missing steps are reported all
together.
-/

namespace Gherkin

/-- What is found of a text whose lines these are. -/
inductive Judgement {W : Type} (reg : Registry W) (ls : List TextLine) :
    Except FeatureFault Unit → Prop
  | unsupported (l : TextLine) (hl : l ∈ ls) (hrole : l.role = .stray)
    (hfirst : ∀ l' ∈ ls, l'.role = .stray → l.line ≤ l'.line) :
    Judgement reg ls (.error (.unsupported l.line (Text.trim l.raw)))
  | ambiguous (hsupported : ∀ l ∈ ls, l.role ≠ .stray) (l : TextLine) (hl : l ∈ ls)
    (keyword : Option Keyword) (text : Text) (hrole : l.role = .step keyword text)
    (hseveral : 2 ≤ (reg.candidates text).length)
    (hfirst : ∀ l' ∈ ls, l'.Ambiguous reg → l.line ≤ l'.line) :
    Judgement reg ls (.error (.ambiguous l.line (reg.ambiguity text)))
  | arity (hsupported : ∀ l ∈ ls, l.role ≠ .stray) (hclear : ∀ l ∈ ls, ¬ l.Ambiguous reg)
    (l : TextLine) (hl : l ∈ ls) (e : ArityFault) (hmismatched : l.Mismatched reg ls e)
    (hfirst : ∀ l' ∈ ls, ∀ e', l'.Mismatched reg ls e' → l.line ≤ l'.line) :
    Judgement reg ls (.error (.arity l.line e))
  /-- Every step that is missing is named once, in the order of the lines. -/
  | unimplemented (hsupported : ∀ l ∈ ls, l.role ≠ .stray) (hclear : ∀ l ∈ ls, ¬ l.Ambiguous reg)
    (haccepted : ∀ l ∈ ls, ∀ e, ¬ l.Mismatched reg ls e)
    (missing : List MissingStep) (hsome : missing ≠ [])
    (hmissing : ∀ m, m ∈ missing ↔ ∃ l ∈ ls, l.line = m.line ∧
      ∃ keyword, l.role = .step keyword m.text ∧ reg.candidates m.text = [])
    (hordered : missing.Pairwise fun a b => a.line < b.line) :
    Judgement reg ls (.error (.unimplemented missing))
  | accepted (hsupported : ∀ l ∈ ls, l.role ≠ .stray) (hclear : ∀ l ∈ ls, ¬ l.Ambiguous reg)
    (haccepted : ∀ l ∈ ls, ∀ e, ¬ l.Mismatched reg ls e) (hfound : ∀ l ∈ ls, ¬ l.Unmatched reg) :
    Judgement reg ls (.ok ())

namespace Judgement

variable {W : Type} {reg : Registry W} {ls : List TextLine}

/-- Nothing is at fault in what is accepted. -/
theorem not_faulty (h : Judgement reg ls (.ok ())) : ∀ l ∈ ls, ¬ l.Faulty reg ls := by
  cases h with
  | accepted hsupported hclear haccepted hfound =>
    rintro l hl (hrole | hunmatched | hambiguous | ⟨e, hmismatched⟩)
    · exact hsupported l hl hrole
    · exact hfound l hl hunmatched
    · exact hclear l hl hambiguous
    · exact haccepted l hl e hmismatched

/-- What is reported is found at a line that is at fault. -/
theorem exists_faulty {fault : FeatureFault} (h : Judgement reg ls (.error fault)) :
    ∃ l ∈ ls, fault.line? = some l.line ∧ l.Faulty reg ls := by
  cases h with
  | unsupported l hl hrole _ => exact ⟨l, hl, rfl, Or.inl hrole⟩
  | ambiguous _ l hl keyword text hrole hseveral _ =>
    exact ⟨l, hl, rfl, Or.inr (Or.inr (Or.inl ⟨keyword, text, hrole, hseveral⟩))⟩
  | arity _ _ l hl e hmismatched _ =>
    exact ⟨l, hl, rfl, Or.inr (Or.inr (Or.inr ⟨e, hmismatched⟩))⟩
  | unimplemented _ _ _ missing hsome hmissing _ =>
    obtain ⟨m, rest, rfl⟩ := List.exists_cons_of_ne_nil hsome
    obtain ⟨l, hl, hline, keyword, hrole, hnone⟩ := (hmissing m).mp (List.mem_cons_self ..)
    exact ⟨l, hl, congrArg some hline.symm, Or.inr (Or.inl ⟨keyword, m.text, hrole, hnone⟩)⟩

end Judgement

theorem TextLine.unsupported?_eq_some_iff {l : TextLine} {a : Nat × Text} :
    l.unsupported? = some a ↔ l.role = .stray ∧ a = (l.line, Text.trim l.raw) := by
  unfold unsupported?
  cases l.role with
  | stray => simp [eq_comm]
  | _ => simp

/-- The fault of a rejection; there is none if nothing is rejected. -/
def Feature.outcome : Except Rejection Feature → Except FeatureFault Unit
  | .ok _ => .ok ()
  | .error rejection => .error rejection.fault

namespace Entry

variable {W : Type} {reg : Registry W} {e : Entry}

/-- A step is missing if nothing matches it. -/
theorem missing?_eq_some_iff {m : MissingStep} :
    e.missing? reg = some m ↔
      e.line = m.line ∧ ∃ keyword, e.role = .step keyword m.text ∧ reg.candidates m.text = [] := by
  obtain ⟨n, role⟩ := e
  obtain ⟨line, text⟩ := m
  unfold missing?
  cases role with
  | step keyword stepText =>
    dsimp only
    constructor
    · intro h
      split at h
      next hfind =>
        obtain ⟨rfl, rfl⟩ := MissingStep.mk.inj (Option.some.inj h)
        exact ⟨rfl, keyword, rfl, Registry.find_eq_notFound_iff.mp hfind⟩
      next => exact absurd h (by simp)
    · rintro ⟨rfl, keyword', hrole, hnone⟩
      obtain ⟨rfl, rfl⟩ := Role.step.inj hrole
      rw [Registry.find_eq_notFound_iff.mpr hnone]
  | _ => simp

/-- A step is ambiguous if two patterns match it or more. -/
theorem ambiguous?_eq_some_iff {a : Nat × Ambiguity} :
    e.ambiguous? reg = some a ↔
      ∃ keyword text, e.role = .step keyword text ∧ 2 ≤ (reg.candidates text).length ∧
        a = (e.line, reg.ambiguity text) := by
  obtain ⟨n, role⟩ := e
  unfold ambiguous?
  cases role with
  | step keyword stepText =>
    dsimp only
    constructor
    · intro h
      split at h
      next ambiguity hfind =>
        obtain ⟨hseveral, rfl⟩ := Registry.find_eq_ambiguous_iff.mp hfind
        exact ⟨keyword, stepText, rfl, hseveral, (Option.some.inj h).symm⟩
      next => exact absurd h (by simp)
    · rintro ⟨keyword', text, hrole, hseveral, rfl⟩
      obtain ⟨rfl, rfl⟩ := Role.step.inj hrole
      rw [Registry.find_eq_ambiguous_iff.mpr ⟨hseveral, rfl⟩]
  | _ => simp

end Entry

namespace Reading

variable {W : Type} {reg : Registry W} {r : Reading} {text : Text}

/-- What is sorted by lines begins with one that stands first. -/
theorem least_of_mergeSort {α : Type} {l : List (Nat × α)} {a : Nat × α} {rest : List (Nat × α)}
    (h : l.mergeSort (fun a b => a.1 ≤ b.1) = a :: rest) : a ∈ l ∧ ∀ b ∈ l, a.1 ≤ b.1 := by
  have hmem (b : Nat × α) : b ∈ l ↔ b ∈ a :: rest := h ▸ List.mem_mergeSort.symm
  have hsorted : (a :: rest).Pairwise fun a b => decide (a.1 ≤ b.1) = true := by
    rw [← h]
    exact List.pairwise_mergeSort (fun a b c => by simpa using Nat.le_trans)
      (fun a b => by simpa using Nat.le_total a.1 b.1) l
  refine ⟨(hmem a).mpr (List.mem_cons_self ..), fun b hb => ?_⟩
  rcases List.mem_cons.mp ((hmem b).mp hb) with rfl | hb
  · exact Nat.le_refl _
  · exact of_decide_eq_true ((List.pairwise_cons.mp hsorted).1 b hb)

end Reading

namespace Surveys

open Reading

variable {W : Type} {reg : Registry W} {r : Reading} {s : Site} {ls : List TextLine}

/-! ### What a closed reading has collected -/

theorem unsupported_close (h : Surveys reg s ls r) :
    r.close.unsupported = (ls.filterMap TextLine.unsupported?).head? :=
  Reading.unsupported_close.trans h.unsupported

theorem ambiguous_close (h : Surveys reg s ls r) :
    r.close.ambiguous = (ls.map TextLine.toEntry).filterMap (Entry.ambiguous? reg) :=
  congrArg Gathered.ambiguous (gathered_close.trans h.gathered)

theorem missing_close (h : Surveys reg s ls r) :
    r.close.missing = (ls.map TextLine.toEntry).filterMap (Entry.missing? reg) :=
  congrArg Gathered.missing (gathered_close.trans h.gathered)

/-- Nothing is kept as unsupported if nothing is. -/
theorem supported_of_none (h : Surveys reg s ls r) (hnone : r.close.unsupported = none) :
    ∀ l ∈ ls, l.role ≠ .stray := by
  rw [h.unsupported_close, List.head?_eq_none_iff, List.filterMap_eq_nil_iff] at hnone
  intro l hl hrole
  have hsome := TextLine.unsupported?_eq_some_iff.mpr ⟨hrole, rfl⟩
  exact absurd ((hnone l hl).symm.trans hsome) (by simp)

/-- Nothing is collected as ambiguous if nothing is. -/
theorem clear_of_nil (h : Surveys reg s ls r) (hnil : r.close.ambiguous = []) :
    ∀ l ∈ ls, ¬ l.Ambiguous reg := by
  rw [h.ambiguous_close, List.filterMap_eq_nil_iff] at hnil
  rintro l hl ⟨keyword, text, hrole, hseveral⟩
  have hsome := Entry.ambiguous?_eq_some_iff.mpr ⟨keyword, text, hrole, hseveral, rfl⟩
  exact absurd (hnil _ (List.mem_map_of_mem hl)) (by simp [hsome])

/-- What is collected as missing are the steps that nothing matches. -/
theorem mem_missing_close (h : Surveys reg s ls r) {m : MissingStep} :
    m ∈ r.close.missing ↔ ∃ l ∈ ls, l.line = m.line ∧
      ∃ keyword, l.role = .step keyword m.text ∧ reg.candidates m.text = [] := by
  rw [h.missing_close, List.mem_filterMap]
  simp only [List.mem_map, Entry.missing?_eq_some_iff, exists_exists_and_eq_and]

/-- What is missing stands in the order of the lines. -/
theorem pairwise_missing_close (h : Surveys reg s ls r)
    (hordered : ls.Pairwise fun a b => a.line < b.line) :
    r.close.missing.Pairwise fun a b => a.line < b.line := by
  have hentries : (ls.map TextLine.toEntry).Pairwise fun a b => a.line < b.line :=
    List.pairwise_map.mpr hordered
  rw [h.missing_close, List.pairwise_filterMap]
  refine hentries.imp fun hlt m hm m' hm' => ?_
  rw [← (Entry.missing?_eq_some_iff.mp hm).1, ← (Entry.missing?_eq_some_iff.mp hm').1]
  exact hlt

end Surveys

namespace Reading

variable {W : Type} {reg : Registry W} {r : Reading} {text : Text}

/-- What is found of a text at its end. -/
theorem judgement_of_finish (h : takeLines reg {} 1 (Text.lines text) = .ok r) :
    Judgement reg (TextLine.ofText text) (Feature.outcome (r.finish reg)) := by
  obtain ⟨s, hsurveys⟩ := surveys_of_takeLines h
  have hordered := TextLine.pairwise_line_ofText text
  have haccepted : (arityFaults reg r.close.stepsRead).mergeSort (fun a b => a.1 ≤ b.1) = [] →
      ∀ l ∈ TextLine.ofText text, ∀ e, ¬ l.Mismatched reg (TextLine.ofText text) e := by
    intro hnil l hl e hmismatched
    have hmem := (mem_arityFaults_iff h).mpr ⟨l, hl, rfl, hmismatched⟩
    rw [← List.mem_mergeSort, hnil] at hmem
    exact absurd hmem (by simp)
  have hentries : ((TextLine.ofText text).map TextLine.toEntry).Pairwise
      fun a b => a.line < b.line := List.pairwise_map.mpr hordered
  unfold finish
  dsimp only
  split
  next hunsupported =>
    rw [hsurveys.unsupported_close] at hunsupported
    obtain ⟨rest, hall⟩ := List.head?_eq_some_iff.mp hunsupported
    obtain ⟨l, hl, hgive, hfirst⟩ := exists_first_of_filterMap hordered hall
    obtain ⟨hrole, heq⟩ := TextLine.unsupported?_eq_some_iff.mp hgive
    obtain ⟨rfl, rfl⟩ := Prod.mk.inj heq
    exact .unsupported l hl hrole fun l' hl' hrole' =>
      hfirst l' hl' _ (TextLine.unsupported?_eq_some_iff.mpr ⟨hrole', rfl⟩)
  next hunsupported hambiguous =>
    rw [hsurveys.ambiguous_close] at hambiguous
    obtain ⟨e, he, hgive, hfirst⟩ := exists_first_of_filterMap hentries hambiguous
    obtain ⟨l, hl, rfl⟩ := List.mem_map.mp he
    obtain ⟨keyword, stepText, hrole, hseveral, heq⟩ := Entry.ambiguous?_eq_some_iff.mp hgive
    obtain ⟨rfl, rfl⟩ := Prod.mk.inj heq
    refine .ambiguous (hsurveys.supported_of_none hunsupported) l hl keyword stepText hrole hseveral
      fun l' hl' hambiguous' => ?_
    obtain ⟨keyword', text', hrole', hseveral'⟩ := hambiguous'
    exact hfirst l'.toEntry (List.mem_map_of_mem hl') _
      (Entry.ambiguous?_eq_some_iff.mpr ⟨keyword', text', hrole', hseveral', rfl⟩)
  next hunsupported hambiguous hmismatched =>
    obtain ⟨hmem, hfirst⟩ := least_of_mergeSort hmismatched
    obtain ⟨l, hl, rfl, hl'⟩ := (mem_arityFaults_iff h).mp hmem
    exact .arity (hsurveys.supported_of_none hunsupported) (hsurveys.clear_of_nil hambiguous) l hl _
      hl' fun l' hl' e' he' => hfirst _ ((mem_arityFaults_iff h).mpr ⟨l', hl', rfl, he'⟩)
  next hunsupported hambiguous hmismatched =>
    have hsupported := hsurveys.supported_of_none hunsupported
    have hclear := hsurveys.clear_of_nil hambiguous
    have haccepted := haccepted hmismatched
    split
    next hmissing =>
      refine .accepted hsupported hclear haccepted fun l hl hunmatched => ?_
      obtain ⟨keyword, stepText, hrole, hnone⟩ := hunmatched
      have hmem := hsurveys.mem_missing_close (m := { line := l.line, text := stepText })
      rw [hmissing] at hmem
      exact absurd (hmem.mpr ⟨l, hl, rfl, keyword, hrole, hnone⟩) (by simp)
    next hmissing =>
      exact .unimplemented hsupported hclear haccepted _ hmissing
        (fun m => hsurveys.mem_missing_close) (hsurveys.pairwise_missing_close hordered)

end Reading

namespace Feature

variable {W : Type} {reg : Registry W} {r : Reading} {text : Text}

/-- When all lines are read, the end of the text decides. -/
theorem read_of_takeLines (h : Reading.takeLines reg {} 1 (Text.lines text) = .ok r) :
    read reg text = r.finish reg := by
  unfold read
  rw [h]
  rfl

/-- A scan that ends at a line gives the result. -/
theorem read_of_takeLines_eq_error {rejection : Rejection}
    (h : Reading.takeLines reg {} 1 (Text.lines text) = .error rejection) :
    read reg text = .error rejection := by
  unfold read
  rw [h]
  rfl

/-- **If the scan comes to the end of the text, the right fault is reported.** -/
theorem judgement_of_read (h : Reading.takeLines reg {} 1 (Text.lines text) = .ok r) :
    Judgement reg (TextLine.ofText text) (outcome (read reg text)) := by
  rw [read_of_takeLines h]
  exact Reading.judgement_of_finish h

end Feature

namespace Sample

/-- One step, whose handler takes an integer and nothing else. -/
def strictRegistry : Registry Unit :=
  { definitions :=
      [{ pattern := pattern "press".toList
         location := { path := "steps.rs".toList, line := 1, column := 1 }
         handler :=
           { params := [.integer { signed := true, bits := 32 }]
             run := fun _ _ => { world := (), logs := [], errors := [], ending := .finished } } }] }

/-- A text whose background comes after a scenario, with a doc string too many. A step of the
scenario is missing. -/
def overfullText : Text :=
  Text.unlines <| List.map String.toList
    ["Scenario: one", "  Given nothing", "  When press 1",
      "  Background: keys", "  Given press 2", "  \"\"\"", "  b", "  \"\"\"", ""]

end Sample

/-- The doc string too many of the background is reported, not the missing step before it. -/
theorem Feature.judgement_sample :
    ∃ r, Reading.takeLines Sample.strictRegistry {} 1 (Text.lines Sample.overfullText) = .ok r ∧
      Judgement Sample.strictRegistry (TextLine.ofText Sample.overfullText)
        (outcome (read Sample.strictRegistry Sample.overfullText)) ∧
      outcome (read Sample.strictRegistry Sample.overfullText)
        = .error (.arity 5 { step := "press 2".toList, groups := 2, required := 1 }) := by
  have hscan : (Reading.takeLines Sample.strictRegistry {} 1
      (Text.lines Sample.overfullText)).isOk = true := by decide +kernel
  cases hr : Reading.takeLines Sample.strictRegistry {} 1 (Text.lines Sample.overfullText) with
  | ok r => exact ⟨r, rfl, judgement_of_read hr, by decide +kernel⟩
  | error rejection =>
    rw [hr] at hscan
    exact absurd hscan (by simp [Except.isOk, Except.toBool])

end Gherkin
