import Gherkin.Text.Lines

/-!
# Rows of a text

A text that holds line feeds takes several rows where it is shown. `Text.rows` are the parts between
the line feeds, of which there is one more than there are line feeds. A text that is indented after
each line feed has all its rows but the first indented (`rows_indented`).
-/

namespace Gherkin.Text

variable {t u first : Text} {further : List Text}

/-- What stands between the line feeds of a text. -/
def rows (t : Text) : List Text := t.splitOn '\n'

theorem rows_ne_nil (t : Text) : rows t ≠ [] := List.splitOn_ne_nil '\n' t

theorem rows_append_newline (t u : Text) : rows (t ++ '\n' :: u) = rows t ++ rows u :=
  List.splitOnP_append_cons t u (beq_self_eq_true '\n')

theorem rows_newline (u : Text) : rows ('\n' :: u) = [] :: rows u := rows_append_newline [] u

theorem rows_cons {c : Char} (h : c ≠ '\n') (u : Text) :
    rows (c :: u) = (rows u).modifyHead (c :: ·) := by
  unfold rows List.splitOn
  rw [List.splitOnP_cons_eq_if_modifyHead, if_neg (by simpa using h)]

/-- What stands before the first line feed belongs to the first row. -/
theorem rows_append (h : '\n' ∉ t) (hu : rows u = first :: further) :
    rows (t ++ u) = (t ++ first) :: further := by
  induction t with
  | nil => exact hu
  | cons c t ih =>
    obtain ⟨hc, ht⟩ := List.ne_and_not_mem_of_not_mem_cons h
    rw [List.cons_append, rows_cons hc.symm, ih ht]
    rfl

theorem rows_of_not_mem (h : '\n' ∉ t) : rows t = [t] := by
  have hrows := rows_append h (List.splitOn_nil '\n')
  rwa [List.append_nil] at hrows

/-- Texts that are joined by line feeds have their rows one after another. -/
theorem rows_join : ∀ {ts : List Text}, ts ≠ [] → rows (join ['\n'] ts) = ts.flatMap rows
  | [t], _ => (List.append_nil _).symm
  | t :: u :: rest, _ => by
    rw [join_cons_cons, List.append_assoc, List.singleton_append, rows_append_newline,
      rows_join (by simp), List.flatMap_cons, List.flatMap_cons, List.flatMap_cons]

/-- Texts that take one row each are their own rows. -/
theorem flatMap_rows {ts : List Text} (h : ∀ t ∈ ts, '\n' ∉ t) : ts.flatMap rows = ts := by
  induction ts with
  | nil => rfl
  | cons t rest ih =>
    obtain ⟨ht, hrest⟩ := List.forall_mem_cons.mp h
    rw [List.flatMap_cons, rows_of_not_mem ht, ih hrest]
    rfl

/-- Texts that are written as lines have their rows one after another, and an empty one at the
end. -/
theorem rows_unlines (ts : List Text) : rows (unlines ts) = ts.flatMap rows ++ [[]] := by
  induction ts with
  | nil => rfl
  | cons t rest ih =>
    have hunlines : unlines (t :: rest) = t ++ '\n' :: unlines rest := by simp [unlines]
    rw [hunlines, rows_append_newline, ih, List.flatMap_cons, List.append_assoc]

/-- **A text that is indented after each line feed has all its rows but the first indented.** -/
theorem rows_indented (h : rows t = first :: further) (n : Nat) :
    rows (replace '\n' ('\n' :: spaces n) t) = first :: further.map (spaces n ++ ·) := by
  have hspaces : '\n' ∉ spaces n := fun h => absurd (List.eq_of_mem_replicate h) (by decide)
  induction t generalizing first further with
  | nil =>
    obtain ⟨rfl, rfl⟩ := List.cons.inj h
    rfl
  | cons c t ih =>
    obtain ⟨first', further', hrest⟩ := List.exists_cons_of_ne_nil (rows_ne_nil t)
    by_cases hc : c = '\n'
    · -- what was the first row is the first one after the line feed
      subst hc
      rw [rows_newline, hrest] at h
      obtain ⟨rfl, rfl⟩ := List.cons.inj h
      have hreplace : replace '\n' ('\n' :: spaces n) ('\n' :: t)
          = '\n' :: (spaces n ++ replace '\n' ('\n' :: spaces n) t) := rfl
      rw [hreplace, rows_newline, rows_append hspaces (ih hrest)]
      rfl
    · rw [rows_cons hc, hrest] at h
      obtain ⟨rfl, rfl⟩ := List.cons.inj h
      have hreplace : replace '\n' ('\n' :: spaces n) (c :: t)
          = c :: replace '\n' ('\n' :: spaces n) t := by
        unfold replace
        rw [List.flatMap_cons, if_neg hc]
        rfl
      rw [hreplace, rows_cons hc, ih hrest]
      rfl

/-- There is no line feed in a line. -/
theorem not_mem_of_mem_lines {line : Text} (h : line ∈ lines t) : '\n' ∉ line := by
  fun_induction lines t generalizing line with
  | case1 => exact absurd h List.not_mem_nil
  | case2 rest ih | case3 rest ih =>
    rcases List.mem_cons.mp h with rfl | h
    · exact List.not_mem_nil
    · exact ih h
  | case4 c rest hreturn hnewline hnone ih =>
    rw [List.mem_singleton.mp h]
    simpa using Ne.symm hnewline
  | case5 c rest hreturn hnewline first more hlines ih =>
    rw [hlines] at ih
    rcases List.mem_cons.mp h with rfl | h
    · rw [List.mem_cons, not_or]
      exact ⟨Ne.symm hnewline, ih (List.mem_cons_self ..)⟩
    · exact ih (List.mem_cons_of_mem _ h)

end Gherkin.Text
