import Gherkin.Proofs.Text.Indentation
import Gherkin.Proofs.Text.Written

/-!
# Trimmed texts and their first words

Trimming leaves a trimmed text (`trimmed_trim`), and loses nothing but white space on either side
(`exists_trimEnd`). What a trimmed text ends with ends with no white space either, so only what
stands before it can be trimmed away. The first word of a trimmed text is what it begins with, up to
the first white space (`Trimmed.firstWord_append_iff`).
-/

namespace Gherkin.Text

variable {line rest word t u : Text} {c : Char}

/-- No white space is in the text. -/
def IsSolid (t : Text) : Prop := ∀ c ∈ t, isBlank c = false

instance (t : Text) : Decidable t.IsSolid :=
  decidable_of_iff (t.all (!isBlank ·) = true) (by simp [IsSolid])

/-! ## Trimming -/

/-- At its end a text loses white space only. -/
theorem exists_trimEnd (t : Text) : ∃ lost : Text, lost.IsSpace ∧ t = trimEnd t ++ lost := by
  refine ⟨(t.reverse.takeWhile isBlank).reverse, fun c hc => ?_, ?_⟩
  · exact List.mem_takeWhile_imp (List.mem_reverse.mp hc)
  · rw [trimEnd, ← List.reverse_append, List.takeWhile_append_dropWhile, List.reverse_reverse]

/-- What is trimmed away at the start can be taken away before. -/
theorem trim_trimStart (t : Text) : trim (trimStart t) = trim t :=
  congrArg trimEnd (List.dropWhile_idempotent ..)

/-- Trimming adds nothing. -/
theorem mem_of_mem_trim (h : c ∈ trim t) : c ∈ t := by
  have hbegin : trim t <+: trimStart t := List.rdropWhile_prefix ..
  exact (List.dropWhile_suffix _).subset (hbegin.subset h)

/-- What a trimmed text ends with, no white space follows. -/
theorem Trimmed.trimEnd_suffix (h : Trimmed t) (hsuffix : u <:+ t) : trimEnd u = u := by
  refine List.rdropWhile_eq_self_iff.mpr fun hne => ?_
  obtain ⟨front, rfl⟩ := hsuffix
  have hlast : (front ++ u).getLast? = some (u.getLast hne) := by
    rw [List.getLast?_append_of_ne_nil _ hne, List.getLast?_eq_some_getLast hne]
  simpa using h.isBlank_getLast? hlast

/-- At the end of a trimmed text only the white space before it is trimmed away. -/
theorem Trimmed.trim_suffix (h : Trimmed t) (hsuffix : u <:+ t) : trim u = trimStart u :=
  h.trimEnd_suffix ((List.dropWhile_suffix _).trans hsuffix)

/-- Trimming leaves nothing to trim. -/
theorem trimmed_trim (t : Text) : Trimmed (trim t) := by
  have hend : trimEnd (trim t) = trim t := List.rdropWhile_idempotent ..
  have hstart : trimStart (trim t) = trim t := by
    obtain ⟨after, hafter⟩ : trim t <+: trimStart t := List.rdropWhile_prefix ..
    cases htrim : trim t with
    | nil => rfl
    | cons c u =>
      -- it begins as the text without the white space before it
      rw [htrim] at hafter
      have hsplit : t.dropWhile isBlank = c :: (u ++ after) := hafter.symm
      have hhead := List.head_dropWhile_not isBlank (l := t) (by simp [hsplit])
      simp only [hsplit, List.head_cons] at hhead
      exact List.dropWhile_cons_of_neg (by simp [hhead])
  show trimEnd (trimStart (trim t)) = trim t
  rw [hstart, hend]

/-- A text without white space has none at its ends. -/
theorem IsSolid.trimmed (h : t.IsSolid) : Trimmed t := by
  have hstart : trimStart t = t :=
    List.dropWhile_eq_self_iff.mpr fun hpos => by simp [h _ (List.getElem_mem hpos)]
  have hend : trimEnd t = t :=
    List.rdropWhile_eq_self_iff.mpr fun hne => by simp [h _ (List.getLast_mem hne)]
  show trimEnd (trimStart t) = t
  rw [hstart, hend]

/-! ## First words -/

/-- The first word of a trimmed text is what it begins with, up to white space. -/
theorem Trimmed.firstWord_eq (h : Trimmed line) :
    firstWord line = line.takeWhile fun c => !isBlank c := by
  rw [firstWord, h.trimStart_eq]

/-- **A trimmed text has a first word if that is what it begins with**, up to white space or to its
end. -/
theorem Trimmed.firstWord_append_iff (h : Trimmed (word ++ rest))
    (hword : word.IsSolid) :
    firstWord (word ++ rest) = word ↔ ∀ c, rest.head? = some c → isBlank c = true := by
  rw [h.firstWord_eq, List.takeWhile_append_of_pos fun c hc => by simp [hword c hc]]
  cases rest with
  | nil => simp
  | cons c rest => simp [List.takeWhile_cons]

/-- A first word is followed by white space or by nothing. -/
theorem Trimmed.exists_rest (h : Trimmed line) : ∃ rest, line = firstWord line ++ rest :=
  ⟨line.dropWhile fun c => !isBlank c, by rw [h.firstWord_eq, List.takeWhile_append_dropWhile]⟩

theorem head?_eq_of_prefix (h : word <+: line) (hne : word ≠ []) : line.head? = word.head? := by
  obtain ⟨rest, rfl⟩ := h
  exact List.head?_append_of_ne_nil _ hne

theorem isSome_after?_iff : (after? word line).isSome = true ↔ word <+: line := by
  rw [Option.isSome_iff_exists]
  constructor
  · rintro ⟨rest, h⟩
    exact ⟨rest, (eq_append_of_after? h).symm⟩
  · rintro ⟨rest, rfl⟩
    exact ⟨rest, after?_append ..⟩

/-- There is no white space in a first word. -/
theorem isSolid_firstWord (line : Text) : (firstWord line).IsSolid := by
  intro c hc
  have hnot := List.mem_takeWhile_imp hc
  simpa using hnot

end Gherkin.Text
