import Gherkin.Proofs.Feature.Listed
import Gherkin.Proofs.Text.Rows
import Gherkin.Proofs.Text.Word

/-!
# The listing is a copy of the text, and its table is aligned

A listing has the lines of the text that was read, one after another from the first, each with its
number and the width of its indentation (`Listing.CopyOf`). In the table of a listing every line has
its rows, one after another in the order of the lines. A line without a remark is one row; the
remark of any other line begins in one column, to the right of all lines, and goes on below that
column if it has further rows (`Listing.Aligned`). The table counts characters, so nothing is said
of how wide they are shown.

* `Feature.copies_and_aligns` — what is listed for a text, accepted or not, is such a copy of it and
  is shown in such a table.
-/

namespace Gherkin

/-! ## Remarks and rows -/

namespace Remark

/-- A check mark, or a cross for what is wrong. -/
def mark : Remark → Char
  | matched _ => '✔'
  | failed _ => '✘'

/-- What a remark says, its mark apart. -/
def text : Remark → Text
  | matched location => location.display
  | failed message => message

theorem display_eq (remark : Remark) : remark.display = remark.mark :: ' ' :: remark.text := by
  cases remark <;> rfl

end Remark

namespace ListedLine

variable {d : ListedLine} {remark : Remark} {first : Text} {further : List Text} {width : Nat}

/-- The rows of a line in a table whose lines take up to `width` columns. -/
def rows (width : Nat) (d : ListedLine) : List Text := Text.rows (Listing.row width d)

/-- A trimmed text ends the line, whatever stands before it. -/
theorem trimEnd_source (htext : Text.Trimmed d.text) :
    Text.trimEnd d.source = if d.text = [] then [] else d.source := by
  have hspaces : Text.trimEnd (Text.spaces d.indent) = [] := by
    refine List.reverse_eq_nil_iff.mpr (List.dropWhile_eq_nil_iff.mpr fun c hc => ?_)
    exact Text.isBlank_of_mem_spaces (List.mem_reverse.mp hc)
  rw [source, Text.trimEnd_append, htext.trimEnd_eq, hspaces]

/-- **A line without a remark is one row**, in full. -/
theorem rows_plain (hremark : d.remark = none) (htext : Text.Trimmed d.text)
    (hline : '\n' ∉ d.source) : d.rows width = [if d.text = [] then [] else d.source] := by
  unfold rows Listing.row
  rw [hremark]
  dsimp only
  rw [trimEnd_source htext]
  split
  next => rfl
  next => exact Text.rows_of_not_mem hline

/-- **A remark stands beside its line**, and what it has of further rows below its own beginning. -/
theorem rows_remarked (hremark : d.remark = some remark) (hline : '\n' ∉ d.source)
    (hrows : Text.rows remark.text = first :: further) :
    d.rows width
      = (d.source ++ Text.spaces (width - d.width + 2) ++ remark.mark :: ' ' :: first)
        :: further.map (Text.spaces (width + 4) ++ ·) := by
  have hgap : '\n' ∉ d.source ++ Text.spaces (width - d.width + 2) := by
    rw [List.mem_append, not_or]
    exact ⟨hline, fun h => absurd (List.eq_of_mem_replicate h) (by decide)⟩
  have hmark : '\n' ∉ [remark.mark, ' '] := by cases remark <;> simp [Remark.mark]
  have hdisplay : Text.rows remark.display = (remark.mark :: ' ' :: first) :: further := by
    rw [remark.display_eq]
    exact Text.rows_append hmark hrows
  unfold rows Listing.row
  rw [hremark]
  dsimp only
  rw [Text.padEnd, length_source, List.append_assoc d.source, Text.spaces, Text.spaces,
    List.replicate_append_replicate]
  exact Text.rows_append hgap (Text.rows_indented hdisplay _)

end ListedLine

namespace Listing

variable {l : Listing} {d : ListedLine}

theorem width_le (h : d ∈ l.lines) : d.width ≤ l.width := by
  unfold width
  generalize l.lines = lines at h
  induction lines with
  | nil => exact absurd h List.not_mem_nil
  | cons d' lines ih =>
    rw [List.map_cons, List.foldr_cons]
    rcases List.mem_cons.mp h with rfl | h
    · exact Nat.le_max_left ..
    · exact Nat.le_trans (ih h) (Nat.le_max_right ..)

/-- **How the table of a listing is laid out.** -/
structure Aligned (l : Listing) : Prop where
  /-- The rows of the table are those of the lines, one line after another. -/
  rows : l.lines ≠ [] → Text.rows l.display = l.lines.flatMap (ListedLine.rows l.width)
  /-- A line without a remark is one row, and nothing of its text is missing. -/
  plain : ∀ d ∈ l.lines, d.remark = none →
    d.rows l.width = [if d.text = [] then [] else d.source]
  /-- A line with a remark is shown in full and filled up to where all remarks begin. Every further
  row of the remark is indented to where the remark's text begins. -/
  remarked : ∀ d ∈ l.lines, ∀ remark, d.remark = some remark → ∃ row gap first further,
    d.rows l.width = row :: further.map (Text.spaces (l.width + 4) ++ ·) ∧
    Text.rows remark.text = first :: further ∧
    row = d.source ++ Text.spaces gap ++ remark.mark :: ' ' :: first ∧
    (d.source ++ Text.spaces gap).length = l.width + 2 ∧ row[l.width + 2]? = some remark.mark
  /-- All lines end to the left of the remarks. -/
  right : ∀ d ∈ l.lines, d.source.length < l.width + 2

/-- A table is aligned if its lines are lines, trimmed. -/
theorem aligned_of_lines (h : ∀ d ∈ l.lines, Text.Trimmed d.text ∧ '\n' ∉ d.text) :
    l.Aligned := by
  have hsource : ∀ d ∈ l.lines, '\n' ∉ d.source := by
    intro d hd hmem
    rcases List.mem_append.mp hmem with hspaces | htext
    · exact absurd (List.eq_of_mem_replicate hspaces) (by decide)
    · exact (h d hd).2 htext
  have hright : ∀ d ∈ l.lines, d.source.length ≤ l.width := fun d hd => by
    rw [d.length_source]
    exact width_le hd
  refine ⟨?rows, ?plain, ?remarked, fun d hd => ?right⟩
  case rows =>
    intro hne
    unfold display
    rw [Text.rows_join (by simpa using hne), List.flatMap_map]
    rfl
  case plain =>
    intro d hd hremark
    exact ListedLine.rows_plain hremark (h d hd).1 (hsource d hd)
  case remarked =>
    intro d hd remark hremark
    obtain ⟨first, further, hrows⟩ := List.exists_cons_of_ne_nil (Text.rows_ne_nil remark.text)
    have hlength : (d.source ++ Text.spaces (l.width - d.width + 2)).length = l.width + 2 := by
      have hle := width_le hd
      rw [List.length_append, d.length_source, Text.length_spaces]
      omega
    refine ⟨_, _, first, further, ListedLine.rows_remarked hremark (hsource d hd) hrows, hrows, rfl,
      hlength, ?_⟩
    rw [List.getElem?_append_right (Nat.le_of_eq hlength), hlength, Nat.sub_self]
    rfl
  case right => exact Nat.lt_add_right 1 (Nat.lt_succ_of_le (hright d hd))

/-! ## Lines that are copied -/

/-- A line that is indented by spaces is its source, up to white space at its end. -/
theorem exists_lost {raw : Text} (hindent : d.indent = Text.indent raw)
    (htext : d.text = Text.trim raw) (hspaces : ∀ c ∈ raw.takeWhile isBlank, c = ' ') :
    ∃ lost : Text, lost.IsSpace ∧ raw = d.source ++ lost := by
  have hbefore : raw.takeWhile isBlank = Text.spaces d.indent :=
    List.eq_replicate_iff.mpr ⟨hindent.symm, hspaces⟩
  obtain ⟨lost, hlost, hafter⟩ := Text.exists_trimEnd (Text.trimStart raw)
  refine ⟨lost, hlost, ?_⟩
  calc raw
      = raw.takeWhile isBlank ++ Text.trimStart raw :=
        (List.takeWhile_append_dropWhile (p := isBlank) (l := raw)).symm
    _ = Text.spaces d.indent ++ (Text.trim raw ++ lost) := by
        rw [hbefore, hafter]
        rfl
    _ = d.source ++ lost := by rw [ListedLine.source, htext, List.append_assoc]

/-- **What a listing has of the lines of a text.** -/
structure CopyOf (lines : List Text) (l : Listing) : Prop where
  /-- Its lines are those of the text from the first on, each with its number, without the white
  space around it and with how much of that stood before it. -/
  copied : ∀ (i : Nat) (d : ListedLine), l.lines[i]? = some d → ∃ raw, lines[i]? = some raw ∧
    d.number = i + 1 ∧ d.text = Text.trim raw ∧ d.indent = Text.indent raw
  /-- Where the indentation was of spaces, all of the line is there but white space at its end. -/
  source : ∀ (i : Nat) (d : ListedLine) (raw : Text), l.lines[i]? = some d → lines[i]? = some raw →
    (∀ c ∈ raw.takeWhile isBlank, c = ' ') → ∃ lost : Text, lost.IsSpace ∧ raw = d.source ++ lost

theorem copyOf_of_copied {lines : List Text}
    (h : ∀ i d, l.lines[i]? = some d → ∃ raw, lines[i]? = some raw ∧
      d.number = i + 1 ∧ d.text = Text.trim raw ∧ d.indent = Text.indent raw) :
    l.CopyOf lines := by
  refine ⟨h, fun i d raw hd hraw hspaces => ?_⟩
  obtain ⟨raw', hraw', -, htext, hindent⟩ := h i d hd
  obtain rfl : raw' = raw := Option.some.inj (hraw'.symm.trans hraw)
  exact exists_lost hindent htext hspaces

/-- The table of a copy is aligned. -/
theorem CopyOf.aligned {text : Text} (h : l.CopyOf (Text.lines text)) : l.Aligned := by
  refine aligned_of_lines fun d hd => ?_
  obtain ⟨i, hi⟩ := List.mem_iff_getElem?.mp hd
  obtain ⟨raw, hraw, -, htext, -⟩ := h.copied i d hi
  rw [htext]
  refine ⟨Text.trimmed_trim raw, fun hmem => ?_⟩
  exact Text.not_mem_of_mem_lines (List.mem_of_getElem? hraw) (Text.mem_of_mem_trim hmem)

end Listing

/-! ## Lines that were read -/

/-- Every line is written as the text has it there, and has the number of that place. -/
theorem TextLine.getElem?_ofLines {s : Site} {n i : Nat} {lines : List Text} {l : TextLine}
    (h : (ofLines s n lines)[i]? = some l) : lines[i]? = some l.raw ∧ l.line = n + i := by
  have hraw : ((ofLines s n lines).map TextLine.raw)[i]? = some l.raw := by
    rw [List.getElem?_map, h, Option.map_some]
  have hline : ((ofLines s n lines).map (·.line))[i]? = some l.line := by
    rw [List.getElem?_map, h, Option.map_some]
  rw [map_raw_ofLines] at hraw
  obtain ⟨hi, -⟩ := List.getElem?_eq_some_iff.mp hraw
  rw [map_line_ofLines, List.getElem?_range' hi, Nat.one_mul] at hline
  exact ⟨hraw, (Option.some.inj hline).symm⟩

namespace Reading

variable {W : Type} {reg : Registry W} {text : Text}

/-- The listing of a text that was read to the end has all lines of the text. -/
theorem copyOf_of_finish {r : Reading} (h : takeLines reg {} 1 (Text.lines text) = .ok r) :
    (Feature.listingOf (r.finish reg)).CopyOf (Text.lines text) ∧
      (Feature.listingOf (r.finish reg)).lines.length = (Text.lines text).length := by
  have hlisted := listed_of_finish h
  refine ⟨Listing.copyOf_of_copied fun i d hd => ?_, ?_⟩
  · obtain ⟨hi, rfl⟩ := List.getElem?_eq_some_iff.mp hd
    have hi' : i < (TextLine.ofText text).length := hlisted.length_eq.symm ▸ hi
    have hl := hlisted.get hi' hi
    obtain ⟨hraw, hline⟩ := TextLine.getElem?_ofLines (List.getElem?_eq_getElem hi')
    exact ⟨_, hraw, hl.number.trans (hline.trans (Nat.add_comm 1 i)), hl.text, hl.indent⟩
  · rw [← hlisted.length_eq, TextLine.ofText, TextLine.length_ofLines]

/-- The listing of a text whose scan ended has the lines up to there. -/
theorem copyOf_of_ended {rejection : Rejection}
    (h : takeLines reg {} 1 (Text.lines text) = .error rejection) :
    rejection.listing.CopyOf (Text.lines text) := by
  obtain ⟨before, raw, after, -, hlines, -, -, -, hlisting⟩ := exists_of_ended [] rfl h
  rw [List.nil_append] at hlisting
  refine Listing.copyOf_of_copied fun i d hd => ?_
  rw [hlisting, Listing.lines_push, List.getElem?_append, List.length_map,
    TextLine.length_ofLines] at hd
  rw [hlines]
  split at hd
  next hi =>
    -- a line before the one where the scan ended
    rw [List.getElem?_map, Option.map_eq_some_iff] at hd
    obtain ⟨l, hl, rfl⟩ := hd
    obtain ⟨hraw, hline⟩ := TextLine.getElem?_ofLines hl
    refine ⟨l.raw, ?_, hline.trans (Nat.add_comm 1 i), rfl, rfl⟩
    exact (List.getElem?_append_left hi).trans hraw
  next hi =>
    obtain ⟨hlast, hd⟩ := List.getElem?_eq_some_iff.mp hd
    obtain rfl : i = before.length := by
      rw [List.length_singleton] at hlast
      omega
    rw [← hd, List.getElem_singleton]
    refine ⟨raw, ?_, Nat.add_comm .., rfl, rfl⟩
    rw [List.getElem?_append_right (Nat.le_refl _), Nat.sub_self]
    rfl

end Reading

/-- **What is listed for a text is a copy of it and is shown in a table that is aligned**, whatever
was found. The copy is of the whole text unless the scan ended before. -/
theorem Feature.copies_and_aligns {W : Type} (reg : Registry W) (text : Text) :
    (listingOf (read reg text)).CopyOf (Text.lines text) ∧
      (listingOf (read reg text)).Aligned ∧
      ((∀ rejection, read reg text = .error rejection → rejection.fault.endsScan = false) →
        (listingOf (read reg text)).lines.length = (Text.lines text).length) := by
  cases h : Reading.takeLines reg {} 1 (Text.lines text) with
  | ok r =>
    rw [read_of_takeLines h]
    obtain ⟨hcopy, hlength⟩ := Reading.copyOf_of_finish h
    exact ⟨hcopy, hcopy.aligned, fun _ => hlength⟩
  | error rejection =>
    obtain ⟨-, -, -, -, -, -, hends, -⟩ := Reading.exists_of_ended [] rfl h
    have hcopy := Reading.copyOf_of_ended h
    rw [read_of_takeLines_eq_error h]
    exact ⟨hcopy, hcopy.aligned, fun hall => absurd (hends.symm.trans (hall _ rfl)) (by simp)⟩

end Gherkin
