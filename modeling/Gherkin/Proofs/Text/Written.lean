import Mathlib.Data.List.DropRight
import Gherkin.Text.Lines

/-!
# Texts that survive being written

A text that is written as part of a line comes back if nothing of it is taken for what is around it.
Two things may be: white space at its ends, which trimming takes away, and the end of the line.

* `Trimmed` — trimming leaves the text alone, also after it was indented (`trim_spaces_append`) or
  written after a word (`trim_word_append`).
* `IsLine` — the text can be a line, and lines that can be are read back (`lines_unlines`).
-/

namespace Gherkin.Text

variable {t u : Text} {c : Char} {n : Nat}

/-! ## White space at the ends -/

/-- The text neither begins nor ends with white space. -/
def Trimmed (t : Text) : Prop := trim t = t

instance (t : Text) : Decidable (Trimmed t) := inferInstanceAs (Decidable (trim t = t))

/-- Trimming at the end reaches no further than what is left of the last part. -/
theorem trimEnd_append (t u : Text) :
    trimEnd (t ++ u) = if trimEnd u = [] then trimEnd t else t ++ trimEnd u := by
  unfold trimEnd
  rw [List.reverse_append, List.dropWhile_append]
  by_cases hnil : u.reverse.dropWhile isBlank = []
  · rw [hnil]
    simp
  · rw [if_neg (by simp [hnil]), if_neg (by simp [hnil]), List.reverse_append, List.reverse_reverse]

theorem isBlank_of_mem_spaces (h : c ∈ spaces n) : isBlank c = true := by
  rw [List.eq_of_mem_replicate h]
  decide

/-- Indentation is trimmed away. -/
theorem trim_spaces_append (n : Nat) (t : Text) : trim (spaces n ++ t) = trim t := by
  unfold trim trimStart
  rw [List.dropWhile_append_of_pos fun c hc => isBlank_of_mem_spaces hc]

theorem indent_spaces_append (n : Nat) (t : Text) : indent (spaces n ++ t) = n + indent t := by
  unfold indent
  rw [List.takeWhile_append_of_pos fun c hc => isBlank_of_mem_spaces hc, List.length_append,
    length_spaces]

/-- Nothing is to trim at the end of a trimmed text. -/
theorem Trimmed.trimEnd_eq (h : Trimmed t) : trimEnd t = t := by
  have hends : trimEnd (trim t) = trim t := List.rdropWhile_idempotent ..
  have htrim : trim t = t := h
  rwa [htrim] at hends

/-- Nothing is to trim at the beginning of a trimmed text. -/
theorem Trimmed.trimStart_eq (h : Trimmed t) : trimStart t = t := by
  have hsuffix : trimStart t <:+ t := List.dropWhile_suffix _
  refine hsuffix.eq_of_length (Nat.le_antisymm hsuffix.length_le ?_)
  have hprefix : trim t <+: trimStart t := List.rdropWhile_prefix ..
  calc t.length = (trim t).length := congrArg List.length h.symm
    _ ≤ (trimStart t).length := hprefix.length_le

/-- A trimmed text ends with no white space. -/
theorem Trimmed.isBlank_getLast? (h : Trimmed t) (hc : t.getLast? = some c) :
    isBlank c = false := by
  obtain ⟨front, rfl⟩ := List.getLast?_eq_some_iff.mp hc
  have hlast := List.rdropWhile_eq_self_iff.mp h.trimEnd_eq (by simp)
  rw [List.getLast_append_singleton] at hlast
  simpa using hlast

/-- A trimmed text begins with no white space. -/
theorem Trimmed.isBlank_head (h : Trimmed (c :: t)) : isBlank c = false := by
  have hfirst := List.dropWhile_eq_self_iff.mp h.trimStart_eq (by simp)
  simpa using hfirst

/-- A trimmed text that is written after a word, and indented, comes back with the word. -/
theorem trim_word_append {word : Text} (hword : Trimmed word) (hne : word ≠ []) (ht : Trimmed t)
    (n : Nat) :
    trim (spaces n ++ (word ++ ' ' :: t)) = if t = [] then word else word ++ ' ' :: t := by
  have hstart : trimStart (word ++ ' ' :: t) = word ++ ' ' :: t := by
    cases word with
    | nil => exact absurd rfl hne
    | cons c word => exact List.dropWhile_cons_of_neg (by simp [hword.isBlank_head])
  have hend : trimEnd (' ' :: t) = if t = [] then [] else ' ' :: t := by
    have h := trimEnd_append [' '] t
    rw [ht.trimEnd_eq] at h
    exact h
  rw [trim_spaces_append]
  unfold trim
  rw [hstart, trimEnd_append, hend]
  by_cases hnil : t = []
  · rw [if_pos hnil, if_pos hnil, if_pos rfl, hword.trimEnd_eq]
  · rw [if_neg hnil, if_neg hnil, if_neg (by simp)]

/-! ## Ends of lines -/

/-- The text can be a line: no line ends in it, and it does not end with what would be taken for
part of a line end. -/
structure IsLine (t : Text) : Prop where
  noNewline : '\n' ∉ t
  noReturn : t.getLast? ≠ some '\r'

instance (t : Text) : Decidable (IsLine t) :=
  decidable_of_iff ('\n' ∉ t ∧ t.getLast? ≠ some '\r')
    ⟨fun h => ⟨h.1, h.2⟩, fun h => ⟨h.noNewline, h.noReturn⟩⟩

/-- A trimmed text without a line feed can be a line. -/
theorem Trimmed.isLine (h : Trimmed t) (hnewline : '\n' ∉ t) : IsLine t := by
  refine ⟨hnewline, fun hlast => ?_⟩
  exact absurd (h.isBlank_getLast? hlast) (by decide)

/-- A line is written after something else on the same line. -/
theorem IsLine.append (ht : IsLine t) (hu : IsLine u) : IsLine (t ++ u) := by
  refine ⟨fun hmem => ?_, fun hlast => ?_⟩
  · rcases List.mem_append.mp hmem with h | h
    · exact ht.noNewline h
    · exact hu.noNewline h
  · rw [List.getLast?_append] at hlast
    cases hu' : u.getLast? with
    | none =>
      rw [hu'] at hlast
      exact ht.noReturn hlast
    | some c =>
      rw [hu'] at hlast
      exact hu.noReturn (hu'.trans hlast)

theorem isLine_spaces (n : Nat) : IsLine (spaces n) := by
  refine ⟨fun hmem => ?_, fun hlast => ?_⟩
  · exact absurd (List.eq_of_mem_replicate hmem) (by decide)
  · exact absurd (List.eq_of_mem_replicate (List.mem_of_getLast? hlast)) (by decide)

/-- **A line is read back from its written form.** -/
theorem lines_line_append {line : Text} (h : IsLine line) (rest : Text) :
    lines (line ++ '\n' :: rest) = line :: lines rest := by
  induction line with
  | nil => exact lines_newline rest
  | cons c line ih =>
    obtain ⟨hnewline, hreturn⟩ := h
    rw [List.mem_cons, not_or] at hnewline
    have hline : IsLine line := by
      refine ⟨hnewline.2, fun hlast => hreturn ?_⟩
      rw [List.getLast?_cons, hlast]
      rfl
    show lines (c :: (line ++ '\n' :: rest)) = _
    rw [lines]
    · rw [ih hline]
    · -- a carriage return is no part of the line end, because something follows it in the line
      rintro rest' rfl hrest
      cases line with
      | nil => exact hreturn rfl
      | cons d line =>
        obtain rfl := (List.cons.inj hrest).1
        exact hnewline.2 (List.mem_cons_self ..)
    · exact fun hc => hnewline.1 hc.symm

/-- **Lines that are written are read back.** -/
theorem lines_unlines : ∀ {ts : List Text}, (∀ t ∈ ts, IsLine t) → lines (unlines ts) = ts
  | [], _ => rfl
  | t :: ts, h => by
    obtain ⟨ht, hts⟩ := List.forall_mem_cons.mp h
    have hunlines : unlines (t :: ts) = t ++ '\n' :: unlines ts := by
      unfold unlines
      rw [List.flatMap_cons, List.append_assoc]
      rfl
    rw [hunlines, lines_line_append ht, lines_unlines hts]

end Gherkin.Text
