import Mathlib.Data.List.DropRight
import Gherkin.Text.Basic

/-!
# White space around a text

Where a line is indented, and where white space stands after it, trimming takes all of it away
(`trim_surround`), and the indentation counts what stands before the text (`indent_append`). A line
may lose any part of its indentation and be trimmed to the same text.
-/

namespace Gherkin.Text

variable {t u before after : Text} {n : Nat}

/-- The text is white space throughout. -/
def IsSpace (t : Text) : Prop := ∀ c ∈ t, isBlank c = true

instance (t : Text) : Decidable t.IsSpace :=
  decidable_of_iff (t.all isBlank = true) List.all_eq_true

/-- The text is the other one without some of the white space that begins it. -/
def LosesIndent (t u : Text) : Prop := ∃ lost : Text, lost.IsSpace ∧ t = lost ++ u

theorem IsSpace.append (ht : t.IsSpace) (hu : u.IsSpace) : (t ++ u).IsSpace := fun c hc =>
  (List.mem_append.mp hc).elim (ht c) (hu c)

/-- The indentation is white space. -/
theorem isSpace_take (h : n ≤ indent t) : IsSpace (t.take n) := by
  have htaken : t.take n <+: t.takeWhile isBlank :=
    List.prefix_of_prefix_length_le (List.take_prefix ..) (List.takeWhile_prefix _)
      (Nat.le_trans (List.length_take_le ..) h)
  exact fun c hc => List.mem_takeWhile_imp (htaken.subset hc)

theorem indent_append (h : before.IsSpace) (t : Text) :
    indent (before ++ t) = before.length + indent t := by
  unfold indent
  rw [List.takeWhile_append_of_pos h, List.length_append]

/-- What a line is indented by once it has lost a part of its indentation. -/
theorem indent_drop (h : n ≤ indent t) : indent (t.drop n) = indent t - n := by
  have hsplit := indent_append (isSpace_take h) (t.drop n)
  have hlength : indent t ≤ t.length := (List.takeWhile_prefix isBlank).length_le
  rw [List.take_append_drop, List.length_take_of_le (Nat.le_trans h hlength)] at hsplit
  omega

/-- **Only white space is trimmed away without a rest.** -/
theorem trim_eq_nil_iff : trim t = [] ↔ t.IsSpace := by
  unfold trim trimEnd trimStart
  rw [List.reverse_eq_nil_iff, List.dropWhile_eq_nil_iff]
  constructor
  · intro h c hc
    rw [← List.takeWhile_append_dropWhile (p := isBlank) (l := t)] at hc
    rcases List.mem_append.mp hc with hstart | hrest
    · exact List.mem_takeWhile_imp hstart
    · exact h c (List.mem_reverse.mpr hrest)
  · intro h c hc
    exact h c ((List.dropWhile_suffix _).subset (List.mem_reverse.mp hc))

/-- **White space around a text is trimmed away.** -/
theorem trim_surround (hbefore : before.IsSpace) (hafter : after.IsSpace) (t : Text) :
    trim (before ++ t ++ after) = trim t := by
  have hend (u : Text) : trimEnd (u ++ after) = trimEnd u := by
    unfold trimEnd
    rw [List.reverse_append,
      List.dropWhile_append_of_pos fun c hc => hafter c (List.mem_reverse.mp hc)]
  unfold trim trimStart
  rw [List.append_assoc, List.dropWhile_append_of_pos hbefore, List.dropWhile_append]
  split
  next hnil =>
    -- the text is white space, and so is what comes after it
    rw [List.isEmpty_iff.mp hnil, List.dropWhile_eq_nil_iff.mpr hafter]
  next => exact hend _

/-- A line that loses a part of its indentation has the same text. -/
theorem LosesIndent.trim_eq (h : LosesIndent t u) : trim u = trim t := by
  obtain ⟨lost, hlost, rfl⟩ := h
  have hsame : trim (lost ++ u ++ []) = trim u := trim_surround hlost (by simp [IsSpace]) u
  rw [List.append_nil] at hsame
  exact hsame.symm

end Gherkin.Text
