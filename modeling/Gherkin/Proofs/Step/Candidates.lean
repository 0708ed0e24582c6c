import Gherkin.Step.Registry
import Mathlib.Data.List.Sort

/-!
# The order of candidates

The candidates of an ambiguity are ordered by pattern and then by location, and locations by path,
line and column. Both are orders by one part and then by another (`byParts`), which are linear if
the orders of the parts are (`LinearOn.byParts`). A linear order leaves one way to sort, so what is
sorted by it does not depend on the order it came in (`LinearOn.mergeSort_eq_of_perm`).
-/

namespace Gherkin

/-- The comparison is that of a linear order. -/
structure LinearOn {α : Type} (le : α → α → Bool) : Prop where
  total : ∀ a b, (le a b || le b a) = true
  trans : ∀ a b c, le a b = true → le b c = true → le a c = true
  antisymm : ∀ a b, le a b = true → le b a = true → a = b

/-- Compares the first parts, and the second ones if the first are the same. -/
def byParts {α β : Type} [DecidableEq α] (le₁ : α → α → Bool) (le₂ : β → β → Bool)
    (a b : α × β) : Bool :=
  if a.1 = b.1 then le₂ a.2 b.2 else le₁ a.1 b.1

namespace LinearOn

variable {α β : Type} {le : α → α → Bool}

/-- To compare by parts is to compare linearly. -/
theorem byParts [DecidableEq α] {le₁ : α → α → Bool} {le₂ : β → β → Bool} (h₁ : LinearOn le₁)
    (h₂ : LinearOn le₂) : LinearOn (byParts le₁ le₂) where
  total := by
    rintro ⟨a₁, a₂⟩ ⟨b₁, b₂⟩
    unfold Gherkin.byParts
    dsimp only
    by_cases hab : a₁ = b₁
    · rw [if_pos hab, if_pos hab.symm]
      exact h₂.total a₂ b₂
    · rw [if_neg hab, if_neg (Ne.symm hab)]
      exact h₁.total a₁ b₁
  trans := by
    rintro ⟨a₁, a₂⟩ ⟨b₁, b₂⟩ ⟨c₁, c₂⟩ hab hbc
    unfold Gherkin.byParts at hab hbc ⊢
    dsimp only at hab hbc ⊢
    by_cases hab₁ : a₁ = b₁
    · subst hab₁
      rw [if_pos rfl] at hab
      split at hbc
      next hbc₁ =>
        rw [if_pos hbc₁]
        exact h₂.trans a₂ b₂ c₂ hab hbc
      next hbc₁ =>
        rw [if_neg hbc₁]
        exact hbc
    · rw [if_neg hab₁] at hab
      split at hbc
      next hbc₁ =>
        subst hbc₁
        rw [if_neg hab₁]
        exact hab
      next =>
        -- three different first parts, or there and back again
        have hac₁ : a₁ ≠ c₁ := by
          rintro rfl
          exact hab₁ (h₁.antisymm a₁ b₁ hab hbc)
        rw [if_neg hac₁]
        exact h₁.trans a₁ b₁ c₁ hab hbc
  antisymm := by
    rintro ⟨a₁, a₂⟩ ⟨b₁, b₂⟩ hab hba
    unfold Gherkin.byParts at hab hba
    dsimp only at hab hba
    by_cases hab₁ : a₁ = b₁
    · rw [if_pos hab₁] at hab
      rw [if_pos hab₁.symm] at hba
      rw [hab₁, h₂.antisymm a₂ b₂ hab hba]
    · rw [if_neg hab₁] at hab
      rw [if_neg (Ne.symm hab₁)] at hba
      exact absurd (h₁.antisymm a₁ b₁ hab hba) hab₁

/-- What is told apart by linearly ordered keys is linearly ordered by them. -/
theorem comap (h : LinearOn le) {key : β → α} (hkey : ∀ a b, key a = key b → a = b) :
    LinearOn fun a b => le (key a) (key b) where
  total a b := h.total (key a) (key b)
  trans a b c := h.trans (key a) (key b) (key c)
  antisymm a b hab hba := hkey a b (h.antisymm (key a) (key b) hab hba)

theorem nat : LinearOn fun a b : Nat => decide (a ≤ b) where
  total a b := by
    rw [Bool.or_eq_true, decide_eq_true_eq, decide_eq_true_eq]
    exact Nat.le_total a b
  trans a b c hab hbc :=
    decide_eq_true (Nat.le_trans (of_decide_eq_true hab) (of_decide_eq_true hbc))
  antisymm a b hab hba := Nat.le_antisymm (of_decide_eq_true hab) (of_decide_eq_true hba)

theorem text : LinearOn Text.le where
  total := Text.le_total
  trans _ _ _ := Text.le_trans
  antisymm _ _ := Text.le_antisymm

theorem location : LinearOn Location.le := by
  let key (l : Location) : Text × Nat × Nat := (l.path, l.line, l.column)
  have hle (a b : Location) : a.le b
      = Gherkin.byParts Text.le
          (Gherkin.byParts (fun a b => decide (a ≤ b)) fun a b => decide (a ≤ b))
          (key a) (key b) := by
    unfold Location.le Gherkin.byParts
    dsimp only [key]
    -- different lines are in order if the first is less
    by_cases hline : a.line = b.line
    · rw [if_pos hline, if_pos hline]
    · rw [if_neg hline, if_neg hline, decide_eq_decide.mpr (Nat.lt_iff_le_and_ne.trans
        (and_iff_left hline))]
  have hkey (a b : Location) (h : key a = key b) : a = b := by
    obtain ⟨path, line, column⟩ := a
    obtain ⟨path', line', column'⟩ := b
    obtain ⟨rfl, rfl, rfl⟩ : path = path' ∧ line = line' ∧ column = column' := by
      simpa [key] using h
    rfl
  have hlinear := (text.byParts (nat.byParts nat)).comap hkey
  rwa [← funext fun a => funext (hle a)] at hlinear

theorem candidates : LinearOn Ambiguity.le := text.byParts location

/-- There is one way to sort. -/
theorem mergeSort_eq_of_pairwise (h : LinearOn le) {l sorted : List α} (hperm : sorted.Perm l)
    (hsorted : sorted.Pairwise fun a b => le a b = true) : l.mergeSort le = sorted :=
  List.Perm.eq_of_pairwise (fun a b _ _ => h.antisymm a b)
    (List.pairwise_mergeSort h.trans h.total l) hsorted ((l.mergeSort_perm le).trans hperm.symm)

/-- **Sorting does not depend on the order** in which things come. -/
theorem mergeSort_eq_of_perm (h : LinearOn le) {l l' : List α} (hperm : l.Perm l') :
    l.mergeSort le = l'.mergeSort le :=
  h.mergeSort_eq_of_pairwise ((l'.mergeSort_perm le).trans hperm.symm)
    (List.pairwise_mergeSort h.trans h.total l')

end LinearOn

end Gherkin
