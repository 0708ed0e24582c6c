import Mathlib.Data.List.DropRight
import Mathlib.Data.List.Forall2
import Mathlib.Data.List.TakeWhile
import Gherkin.Console.Totals
import Gherkin.Proofs.Text.Composed

/-!
# Escape sequences

An escape sequence is the escape character, `[`, digits and `m`. Without its sequences a text is
what is left when they are deleted from the left to the right (`Text.unpainted`). One text is a
painting of another if that is left of it wherever it stands (`Text.PaintingOf`), and paintings are
put together as what they are paintings of is: side by side, joined, and painted over.

Of the policies on colours the last one that decides is followed
(`Palette.painting_foldl_apply`).
-/

namespace Gherkin

namespace Text

variable {t u code after : Text}

/-! ## Deleting escape sequences -/

/-- What follows an escape sequence, if the text begins with one. -/
def afterSequence? (t : Text) : Option Text := do
  let rest ← after? ['\x1b', '['] t
  if rest.takeWhile Char.isDigit = [] then none
  else after? ['m'] (rest.dropWhile Char.isDigit)

/-- The digits of a sequence end at its `m`. -/
theorem span_code (hcode : ∀ c ∈ code, c.isDigit = true) (after : Text) :
    (code ++ 'm' :: after).takeWhile Char.isDigit = code ∧
      (code ++ 'm' :: after).dropWhile Char.isDigit = 'm' :: after := by
  rw [List.takeWhile_append_of_pos hcode, List.dropWhile_append_of_pos hcode]
  exact ⟨List.append_nil _, rfl⟩

/-- **An escape sequence is the escape character, `[`, digits and `m`.** -/
theorem afterSequence?_eq_some_iff :
    afterSequence? t = some after ↔
      ∃ code : Text, code ≠ [] ∧ (∀ c ∈ code, c.isDigit = true) ∧
        t = escapeSequence code ++ after := by
  unfold afterSequence?
  rw [Option.bind_eq_bind, Option.bind_eq_some_iff]
  simp only [after?_eq_some_iff, Option.ite_none_left_eq_some]
  constructor
  · rintro ⟨rest, rfl, hne, hrest⟩
    refine ⟨_, hne, fun c hc => List.mem_takeWhile_imp hc, ?_⟩
    have hsplit := List.takeWhile_append_dropWhile (p := Char.isDigit) (l := rest)
    rw [hrest] at hsplit
    rw [escapeSequence, List.append_assoc, List.append_assoc, hsplit]
  · rintro ⟨code, hne, hcode, rfl⟩
    obtain ⟨htake, hdrop⟩ := span_code hcode after
    refine ⟨code ++ 'm' :: after, ?_, ?_, ?_⟩
    · simp [escapeSequence]
    · rwa [htake]
    · exact hdrop

theorem length_lt_of_afterSequence? (h : afterSequence? t = some after) :
    after.length < t.length := by
  obtain ⟨code, -, -, rfl⟩ := afterSequence?_eq_some_iff.mp h
  simp [escapeSequence]
  omega

/-- The text without its escape sequences. -/
def unpainted : Text → Text
  | [] => []
  | c :: rest =>
    match _h : afterSequence? (c :: rest) with
    | some after => unpainted after
    | none => c :: unpainted rest
termination_by t => t.length
decreasing_by
  · exact length_lt_of_afterSequence? _h
  · exact Nat.lt_succ_self _

/-- A sequence is deleted. -/
theorem unpainted_escapeSequence_append (hne : code ≠ []) (hcode : ∀ c ∈ code, c.isDigit = true)
    (rest : Text) : unpainted (escapeSequence code ++ rest) = unpainted rest := by
  have hafter : afterSequence? (escapeSequence code ++ rest) = some rest :=
    afterSequence?_eq_some_iff.mpr ⟨code, hne, hcode, rfl⟩
  have hcons : escapeSequence code ++ rest = '\x1b' :: ('[' :: (code ++ ['m']) ++ rest) := rfl
  rw [hcons] at hafter ⊢
  rw [unpainted]
  split
  next after h => rw [Option.some.inj (h.symm.trans hafter)]
  next h => exact absurd (h.symm.trans hafter) (by simp)

/-- Any other character is kept. -/
theorem unpainted_cons {c : Char} (hc : c ≠ '\x1b') (rest : Text) :
    unpainted (c :: rest) = c :: unpainted rest := by
  rw [unpainted]
  split
  next after h =>
    obtain ⟨code, -, -, hcons⟩ := afterSequence?_eq_some_iff.mp h
    exact absurd (List.cons.inj hcons).1 hc
  next => rfl

/-! ## Texts without escape characters -/

/-- No escape character is in the text. -/
def Plain (t : Text) : Prop := '\x1b' ∉ t

instance (t : Text) : Decidable (Plain t) := inferInstanceAs (Decidable ('\x1b' ∉ t))

@[simp] theorem plain_nil : Plain [] := List.not_mem_nil

@[simp] theorem plain_cons_iff {c : Char} : Plain (c :: t) ↔ c ≠ '\x1b' ∧ Plain t := by
  unfold Plain
  rw [List.mem_cons, not_or, ne_comm]

@[simp] theorem plain_append_iff : Plain (t ++ u) ↔ Plain t ∧ Plain u := by
  unfold Plain
  rw [List.mem_append, not_or]

theorem Plain.append (ht : Plain t) (hu : Plain u) : Plain (t ++ u) :=
  plain_append_iff.mpr ⟨ht, hu⟩

@[simp] theorem plain_ofNat (n : Nat) : Plain (ofNat n) := not_mem_ofNat rfl n

@[simp] theorem plain_spaces (n : Nat) : Plain (spaces n) := not_mem_spaces (by decide) n

theorem Plain.flatMap {α : Type} {l : List α} {f : α → Text} (h : ∀ a ∈ l, Plain (f a)) :
    Plain (l.flatMap f) := by
  unfold Plain
  rw [List.mem_flatMap]
  rintro ⟨a, ha, hmem⟩
  exact h a ha hmem

theorem Plain.join {sep : Text} {ts : List Text} (hsep : Plain sep) (h : ∀ t ∈ ts, Plain t) :
    Plain (join sep ts) := not_mem_join hsep h

theorem Plain.replace {old : Char} {new : Text} (ht : Plain t) (hnew : Plain new) :
    Plain (replace old new t) := by
  refine Plain.flatMap fun c hc => ?_
  split
  next => exact hnew
  next => exact plain_cons_iff.mpr ⟨fun heq => ht (heq ▸ hc), plain_nil⟩

theorem Plain.trimEnd (h : Plain t) : Plain (trimEnd t) := fun hmem =>
  h ((List.rdropWhile_prefix ..).subset hmem)

/-! ## Paintings -/

/-- What is left of `t` without its sequences is `u`, wherever it stands. -/
def PaintingOf (u t : Text) : Prop := ∀ rest, unpainted (t ++ rest) = u ++ unpainted rest

namespace PaintingOf

variable {t' u' : Text}

theorem unpainted_eq (h : PaintingOf u t) : unpainted t = u := by
  have hnil : unpainted [] = [] := by rw [unpainted]
  simpa [hnil] using h []

/-- A text without escape characters is its own painting. -/
theorem refl : ∀ {t : Text}, Plain t → PaintingOf t t
  | [], _ => fun _ => rfl
  | c :: t, h => fun rest => by
    obtain ⟨hc, ht⟩ := plain_cons_iff.mp h
    rw [List.cons_append, unpainted_cons hc, refl ht rest, List.cons_append]

theorem append (h : PaintingOf u t) (h' : PaintingOf u' t') : PaintingOf (u ++ u') (t ++ t') :=
  fun rest => by rw [List.append_assoc, h, h', List.append_assoc]

/-- A sequence is a painting of nothing. -/
theorem escapeSequence (hne : code ≠ []) (hcode : ∀ c ∈ code, c.isDigit = true) :
    PaintingOf [] (escapeSequence code) :=
  unpainted_escapeSequence_append hne hcode

/-- A painting can be painted over. -/
theorem paint (s : Palette) (style : Style) (h : PaintingOf u t) :
    PaintingOf u (s.paint style t) := by
  unfold Palette.paint
  split
  next =>
    have hon : PaintingOf [] (Gherkin.escapeSequence style.code) :=
      escapeSequence (by cases style <;> decide)
        (List.all_eq_true.mp (by cases style <;> decide))
    have hoff : PaintingOf [] (Gherkin.escapeSequence ['0']) :=
      escapeSequence (by decide) (List.all_eq_true.mp (by decide))
    simpa using (hon.append h).append hoff
  next => exact h

/-- A text without escape characters, painted. -/
theorem paint_plain (s : Palette) (style : Style) (h : Plain t) :
    PaintingOf t (s.paint style t) := (refl h).paint s style

/-- Joined paintings are a painting of what is joined. -/
theorem join {sep sep' : Text} (hsep : PaintingOf sep sep') :
    ∀ {us ts : List Text}, List.Forall₂ PaintingOf us ts →
      PaintingOf (join sep us) (join sep' ts)
  | _, _, .nil => refl plain_nil
  | _, _, .cons h .nil => h
  | _, _, .cons h (.cons h' hrest) => (h.append hsep).append (join hsep (.cons h' hrest))

theorem unlines {us ts : List Text} (h : List.Forall₂ PaintingOf us ts) :
    PaintingOf (unlines us) (unlines ts) := by
  induction h with
  | nil => exact refl plain_nil
  | cons h _ ih => exact (h.append (refl (by decide))).append ih

/-- Texts that are the same in both have nothing painted in them. -/
theorem forall₂_self {ts : List Text} (h : ∀ t ∈ ts, Plain t) : List.Forall₂ PaintingOf ts ts :=
  List.forall₂_same.mpr fun t ht => refl (h t ht)

end PaintingOf

end Text

/-! ## Totals -/

namespace Palette

open Text (Plain PaintingOf)

/-- A palette that does not paint. -/
def plain : Palette := {}

theorem paint_plain (style : Style) (t : Text) : plain.paint style t = t :=
  paint_of_not_painting rfl style t

variable (s : Palette)

theorem plain_count (word : String) (hword : Plain word.toList) (n : Nat) :
    Plain (Text.ofNat n ++ [' '] ++ word.toList) := by
  simp [hword]

theorem paintingOf_counted (word : String) (hword : Plain word.toList) (n : Nat) :
    PaintingOf (plain.counted word n) (s.counted word n) := by
  have hplain : Plain (Text.ofNat n ++ [' '] ++ word.toList ++ if n = 1 then [] else ['s']) := by
    rw [Text.plain_append_iff]
    refine ⟨plain_count word hword n, ?_⟩
    split <;> decide
  rw [counted, paint_plain]
  exact PaintingOf.paint_plain s .bold hplain

/-- A count is left out or kept, painted over twice. -/
theorem paintingOf_tallied (style : Style) {word : String} (hword : Plain word.toList) (n : Nat) :
    List.Forall₂ PaintingOf (plain.tallied style word n) (s.tallied style word n) := by
  unfold tallied
  split
  next => exact .nil
  next =>
    rw [paint_plain, paint_plain]
    exact .cons ((PaintingOf.paint_plain s style (plain_count word hword n)).paint s .bold) .nil

/-- The counts of a tally that are not zero. -/
def counts (t : Tally) : List Text :=
  tallied s .ok "passed" t.passed ++ tallied s .skipped "skipped" t.skipped
    ++ tallied s .err "failed" t.failed

theorem paintingOf_counts (t : Tally) :
    List.Forall₂ PaintingOf (plain.counts t) (s.counts t) :=
  List.rel_append
    (List.rel_append (s.paintingOf_tallied .ok (by decide) t.passed)
      (s.paintingOf_tallied .skipped (by decide) t.skipped))
    (s.paintingOf_tallied .err (by decide) t.failed)

theorem paintingOf_tally (t : Tally) : PaintingOf (plain.tally t) (s.tally t) := by
  have hconstant {t : Text} (h : Plain t) : PaintingOf (plain.paint .bold t) (s.paint .bold t) :=
    (paint_plain .bold t).symm ▸ PaintingOf.paint_plain s .bold h
  have hcounts := s.paintingOf_counts t
  show PaintingOf (if plain.counts t = [] then [] else _) (if s.counts t = [] then [] else _)
  split
  next hnil =>
    -- nothing is counted in either
    rw [hnil, List.forall₂_nil_left_iff] at hcounts
    rw [if_pos hcounts]
    exact PaintingOf.refl Text.plain_nil
  next hne =>
    have hne' : s.counts t ≠ [] := fun hnil =>
      hne (List.forall₂_nil_right_iff.mp (hnil ▸ hcounts))
    rw [if_neg hne']
    refine ((PaintingOf.append ?_ ?_).append ?_).append ?_
    · exact PaintingOf.refl (by decide)
    · exact hconstant (by decide)
    · exact PaintingOf.join (hconstant (by decide)) hcounts
    · exact hconstant (by decide)

/-- **A summary says the same in all colours.** -/
theorem paintingOf_summary (x : Summary) : PaintingOf (plain.summary x) (s.summary x) := by
  have hheading : PaintingOf (plain.paint .bold (plain.paint .header "[Summary]".toList))
      (s.paint .bold (s.paint .header "[Summary]".toList)) := by
    rw [paint_plain, paint_plain]
    exact (PaintingOf.paint_plain s .header (by decide)).paint s .bold
  have hfeatures := s.paintingOf_counted "feature" (by decide) x.features
  have hscenarios := (s.paintingOf_counted "scenario" (by decide) x.scenarios.total).append
    (s.paintingOf_tally x.scenarios)
  have hsteps := (s.paintingOf_counted "step" (by decide) x.steps.total).append
    (s.paintingOf_tally x.steps)
  have herrors : List.Forall₂ PaintingOf
      (if x.parsingErrors = 0 then []
        else [plain.paint .err (plain.counted "parsing error" x.parsingErrors)])
      (if x.parsingErrors = 0 then []
        else [s.paint .err (s.counted "parsing error" x.parsingErrors)]) := by
    split
    next => exact .nil
    next =>
      rw [paint_plain]
      exact .cons ((s.paintingOf_counted _ (by decide) x.parsingErrors).paint s .err) .nil
  exact PaintingOf.join (PaintingOf.refl (by decide))
    (List.rel_append (.cons hheading (.cons hfeatures (.cons hscenarios (.cons hsteps .nil))))
      herrors)

/-! ## Policies -/

/-- The last of the policies that decides, as `auto` does not. -/
def deciding? (policies : List ColorPolicy) : Option ColorPolicy :=
  (policies.filter (· ≠ .auto)).getLast?

/-- **The last policy that decides is followed**, and where none does nothing changes. -/
theorem painting_foldl_apply (policies : List ColorPolicy) :
    (policies.foldl apply s).painting
      = match deciding? policies with
        | some policy => decide (policy = .always)
        | none => s.painting := by
  induction policies generalizing s with
  | nil => rfl
  | cons policy rest ih =>
    rw [List.foldl_cons, ih]
    have hfirst (h : policy ≠ .auto) :
        deciding? (policy :: rest) = some ((deciding? rest).getD policy) := by
      unfold deciding?
      rw [List.filter_cons_of_pos (by simpa using h), List.getLast?_cons]
    cases policy with
    | auto => rfl
    | always | never =>
      rw [hfirst (by decide)]
      cases deciding? rest <;> rfl

end Palette

end Gherkin
