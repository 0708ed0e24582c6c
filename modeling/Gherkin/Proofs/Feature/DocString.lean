import Mathlib.Data.List.Forall2
import Gherkin.Feature.DocString
import Gherkin.Proofs.Text.Indentation

/-!
# What a doc string loses of its lines

The lines of a doc string are cut twice: first by the column of the quotes, line by line and as far
as a line has so much indentation, and then by what all lines with text still have in common. Lines
of white space only do not count for what is common, and yet they are cut.

`DocString.text_ofLines` says what is left: one line for each line, without some of the white space
that begins it, the least indented line with text flush, and, if no line with text stands left of
the quotes, all of them moved by the same width. So a text that is flush comes back from any
indentation that reaches the quotes.
-/

namespace Gherkin

/-! ## What lines have in common -/

/-- The least number is not above any of the numbers. -/
theorem least_le : ∀ {ns : List Nat} {n : Nat}, n ∈ ns → least ns ≤ n
  | [k], n, h => Nat.le_of_eq (List.mem_singleton.mp h).symm
  | k :: k' :: ns, n, h => by
    show min k (least (k' :: ns)) ≤ n
    rcases List.mem_cons.mp h with rfl | hrest
    · exact Nat.min_le_left ..
    · exact Nat.le_trans (Nat.min_le_right ..) (least_le hrest)

/-- The least number is one of the numbers. -/
theorem least_mem : ∀ {ns : List Nat}, ns ≠ [] → least ns ∈ ns
  | [k], _ => List.mem_singleton_self k
  | k :: k' :: ns, _ => by
    show min k (least (k' :: ns)) ∈ k :: k' :: ns
    rcases Nat.le_total k (least (k' :: ns)) with hle | hle
    · rw [Nat.min_eq_left hle]
      exact List.mem_cons_self ..
    · rw [Nat.min_eq_right hle]
      exact List.mem_cons_of_mem _ (least_mem (by simp))

section CommonIndent

variable {lines : List Text} {l : Text}

theorem mem_withText : l ∈ lines.filter (fun l => Text.trim l != []) ↔ l ∈ lines ∧ ¬ l.IsSpace := by
  rw [List.mem_filter, ← Text.trim_eq_nil_iff]
  simp

/-- A line with text has the common indentation. -/
theorem commonIndent_le (hl : l ∈ lines) (htext : ¬ l.IsSpace) : commonIndent lines ≤ l.indent :=
  least_le (List.mem_map_of_mem (mem_withText.mpr ⟨hl, htext⟩))

/-- Some line with text has no more than the common indentation. -/
theorem exists_indent_eq_commonIndent (h : ∃ l ∈ lines, ¬ l.IsSpace) :
    ∃ l ∈ lines, ¬ l.IsSpace ∧ l.indent = commonIndent lines := by
  obtain ⟨l, hl, htext⟩ := h
  have hne : (lines.filter fun l => Text.trim l != []).map Text.indent ≠ [] :=
    List.ne_nil_of_mem (List.mem_map_of_mem (mem_withText.mpr ⟨hl, htext⟩))
  obtain ⟨l', hl', hindent⟩ := List.mem_map.mp (least_mem hne)
  obtain ⟨hmem, htext'⟩ := mem_withText.mp hl'
  exact ⟨l', hmem, htext', hindent⟩

/-- A line that loses the common indentation loses white space only. -/
theorem losesIndent_drop_commonIndent (hl : l ∈ lines) :
    l.LosesIndent (l.drop (commonIndent lines)) := by
  refine ⟨l.take (commonIndent lines), ?_, (List.take_append_drop ..).symm⟩
  by_cases htext : l.IsSpace
  · exact fun c hc => htext c (List.mem_of_mem_take hc)
  · exact Text.isSpace_take (commonIndent_le hl htext)

end CommonIndent

namespace Text

/-- Where the quotes stand no further right than the text of a line, the line loses their column. -/
theorem dedent_of_le {column : Nat} {line : Text} (h : column ≤ indent line) :
    dedent column line = line.drop column := by
  unfold dedent
  rw [Nat.min_eq_right h]

theorem losesIndent_dedent (column : Nat) (line : Text) :
    line.LosesIndent (dedent column line) := by
  obtain ⟨lost, hlost, hline⟩ := exists_dedent column line
  exact ⟨lost, hlost, hline⟩

theorem LosesIndent.trans {t u v : Text} (h : t.LosesIndent u) (h' : u.LosesIndent v) :
    t.LosesIndent v := by
  obtain ⟨lost, hlost, rfl⟩ := h
  obtain ⟨lost', hlost', rfl⟩ := h'
  exact ⟨lost ++ lost', hlost.append hlost', (List.append_assoc ..).symm⟩

/-- A line that loses indentation is white space if it was white space. -/
theorem LosesIndent.isSpace_iff {t u : Text} (h : t.LosesIndent u) : u.IsSpace ↔ t.IsSpace := by
  rw [← trim_eq_nil_iff, ← trim_eq_nil_iff, h.trim_eq]

theorem join_eq_intercalate (sep : Text) : ∀ ts : List Text, join sep ts = sep.intercalate ts
  | [] => rfl
  | [t] => (List.append_nil t).symm
  | t :: u :: rest => by
    rw [join_cons_cons, join_eq_intercalate sep (u :: rest), List.append_assoc]
    rfl

end Text

/-! ## The text of a doc string -/

namespace DocString

variable {α : Type} {column : Nat} {target : Option α} {raws : List Text}

/-- The doc string with the lines, as they stand in the feature, after quotes at the column. -/
def ofLines (column : Nat) (target : Option α) (raws : List Text) : DocString α :=
  raws.foldl push { column, target }

theorem foldl_push (b : DocString α) (raws : List Text) :
    raws.foldl push b = { b with lines := b.lines ++ raws.map (Text.dedent b.column) } := by
  induction raws generalizing b with
  | nil => rw [List.map_nil, List.append_nil]; rfl
  | cons raw raws ih =>
    rw [List.foldl_cons, ih, push, List.map_cons, List.append_assoc]
    rfl

theorem ofLines_eq (column : Nat) (target : Option α) (raws : List Text) :
    ofLines column target raws
      = { column, target, lines := raws.map (Text.dedent column) } := foldl_push _ raws

/-- The line of the text that a line of the doc string becomes. -/
def cut (column : Nat) (raws : List Text) (raw : Text) : Text :=
  (Text.dedent column raw).drop (commonIndent (raws.map (Text.dedent column)))

theorem text_ofLines_eq (column : Nat) (target : Option α) (raws : List Text) :
    (ofLines column target raws).text = Text.join ['\n'] (raws.map (cut column raws)) := by
  rw [ofLines_eq, text, List.map_map]
  rfl

/-- **A line loses white space only.** -/
theorem losesIndent_cut {raw : Text} (hraw : raw ∈ raws) :
    raw.LosesIndent (cut column raws raw) :=
  (Text.losesIndent_dedent column raw).trans
    (losesIndent_drop_commonIndent (List.mem_map_of_mem hraw))

/-- **A line with text is flush, if there is one.** -/
theorem exists_flush (h : ∃ raw ∈ raws, ¬ raw.IsSpace) :
    ∃ out ∈ raws.map (cut column raws), ¬ out.IsSpace ∧ out.indent = 0 := by
  obtain ⟨raw, hraw, htext⟩ := h
  have hdedented : ∃ l ∈ raws.map (Text.dedent column), ¬ l.IsSpace :=
    ⟨_, List.mem_map_of_mem hraw, (Text.losesIndent_dedent column raw).isSpace_iff.not.mpr htext⟩
  obtain ⟨l, hl, htext', hindent⟩ := exists_indent_eq_commonIndent hdedented
  obtain ⟨raw', hraw', rfl⟩ := List.mem_map.mp hl
  refine ⟨_, List.mem_map_of_mem hraw', ?_, ?_⟩
  · exact (losesIndent_drop_commonIndent hl).isSpace_iff.not.mpr htext'
  · unfold cut
    rw [Text.indent_drop (Nat.le_of_eq hindent.symm), hindent, Nat.sub_self]

/-- **Lines with text move by the same width**, if none of them stands left of the quotes. -/
theorem length_eq_cut_add (h : ∀ raw ∈ raws, ¬ raw.IsSpace → column ≤ raw.indent) {raw : Text}
    (hraw : raw ∈ raws) (htext : ¬ raw.IsSpace) :
    raw.length = (cut column raws raw).length
      + (column + commonIndent (raws.map (Text.dedent column))) := by
  have hcolumn : column ≤ raw.indent := h raw hraw htext
  have hdedented : ¬ (Text.dedent column raw).IsSpace :=
    (Text.losesIndent_dedent column raw).isSpace_iff.not.mpr htext
  have hcommon := commonIndent_le (List.mem_map_of_mem hraw) hdedented
  rw [Text.dedent_of_le hcolumn, Text.indent_drop hcolumn] at hcommon
  have hlength : raw.indent ≤ raw.length := (List.takeWhile_prefix isBlank).length_le
  unfold cut
  rw [Text.dedent_of_le hcolumn, List.length_drop, List.length_drop]
  omega

/-- What lines that are indented alike have in common besides. -/
theorem commonIndent_map_append {before : Text} (hbefore : before.IsSpace) {ls : List Text}
    (hflush : ∃ l ∈ ls, ¬ l.IsSpace ∧ l.indent = 0) :
    commonIndent (ls.map (before ++ ·)) = before.length := by
  have hloses (l : Text) : (before ++ l).LosesIndent l := ⟨before, hbefore, rfl⟩
  obtain ⟨l, hl, htext, hindent⟩ := hflush
  apply Nat.le_antisymm
  · have hle := commonIndent_le (List.mem_map_of_mem (f := (before ++ ·)) hl)
      ((hloses l).isSpace_iff.not.mp htext)
    rwa [Text.indent_append hbefore, hindent, Nat.add_zero] at hle
  · obtain ⟨l', hl', -, hindent'⟩ := exists_indent_eq_commonIndent
      ⟨_, List.mem_map_of_mem (f := (before ++ ·)) hl, (hloses l).isSpace_iff.not.mp htext⟩
    obtain ⟨m, -, rfl⟩ := List.mem_map.mp hl'
    rw [← hindent', Text.indent_append hbefore]
    exact Nat.le_add_right ..

/-- **A flush text comes back from an indentation that reaches the quotes.** -/
theorem map_cut_indented {before : Text} (hbefore : before.IsSpace)
    (hcolumn : column ≤ before.length) {ls : List Text}
    (hflush : ∃ l ∈ ls, ¬ l.IsSpace ∧ l.indent = 0) :
    (ls.map (before ++ ·)).map (cut column (ls.map (before ++ ·))) = ls := by
  have hdedent (l : Text) : Text.dedent column (before ++ l) = before.drop column ++ l := by
    rw [Text.dedent_of_le, List.drop_append_of_le_length hcolumn]
    rw [Text.indent_append hbefore]
    omega
  have hspace : Text.IsSpace (before.drop column) := fun c hc =>
    hbefore c (List.mem_of_mem_drop hc)
  have hcommon : commonIndent ((ls.map (before ++ ·)).map (Text.dedent column))
      = (before.drop column).length := by
    rw [← commonIndent_map_append hspace hflush, List.map_map]
    exact congrArg commonIndent (List.map_congr_left fun l _ => hdedent l)
  rw [List.map_map]
  refine (List.map_congr_left fun l _ => ?_).trans (List.map_id ls)
  show (Text.dedent column (before ++ l)).drop _ = l
  rw [hcommon, hdedent, List.drop_left]

/-- What the text of a doc string keeps of its lines, if the quotes stand at the column. -/
structure Keeps (column : Nat) (raws : List Text) (text : Text) (outs : List Text) : Prop where
  joined : text = Text.join ['\n'] outs
  /-- The lines are those of the text, if the lines of the doc string were lines. -/
  parted : raws ≠ [] → (∀ raw ∈ raws, '\n' ∉ raw) → text.splitOn '\n' = outs
  /-- There is one line for each line, without some of the white space that begins it. -/
  lines : List.Forall₂ Text.LosesIndent raws outs
  flush : (∃ raw ∈ raws, ¬ raw.IsSpace) → ∃ out ∈ outs, ¬ out.IsSpace ∧ out.indent = 0
  /-- Lines with text move by the same width, if none of them stands left of the quotes. -/
  alike : (∀ raw ∈ raws, ¬ raw.IsSpace → column ≤ raw.indent) →
    ∃ width, List.Forall₂ (fun raw out => ¬ raw.IsSpace → raw.length = out.length + width) raws outs

/-- **A doc string loses indentation only**, and a flush text comes back from any indentation that
reaches the quotes, blank lines and white space at the ends of lines included. -/
theorem text_ofLines (column : Nat) (target : Option α) :
    (∀ raws, ∃ outs, Keeps column raws (ofLines column target raws).text outs) ∧
      ∀ (before : Text) (ls : List Text), before.IsSpace → column ≤ before.length →
        (∃ l ∈ ls, ¬ l.IsSpace ∧ l.indent = 0) →
        (ofLines column target (ls.map (before ++ ·))).text = Text.join ['\n'] ls := by
  constructor
  · intro raws
    have hloses : ∀ raw ∈ raws, raw.LosesIndent (cut column raws raw) := fun _ => losesIndent_cut
    refine ⟨raws.map (cut column raws), text_ofLines_eq .., ?_, ?_, exists_flush, ?_⟩
    · intro hne hlines
      rw [text_ofLines_eq, Text.join_eq_intercalate]
      refine List.splitOn_intercalate '\n' ?_ (by simpa using hne)
      intro out hout
      obtain ⟨raw, hraw, rfl⟩ := List.mem_map.mp hout
      -- what is left of a line is a part of it
      obtain ⟨lost, -, hraw'⟩ := hloses raw hraw
      have hnewline := hlines raw hraw
      rw [hraw', List.mem_append, not_or] at hnewline
      exact hnewline.2
    · rw [List.forall₂_map_right_iff, List.forall₂_same]
      exact hloses
    · intro hright
      refine ⟨column + commonIndent (raws.map (Text.dedent column)), ?_⟩
      rw [List.forall₂_map_right_iff, List.forall₂_same]
      exact fun raw hraw => length_eq_cut_add hright hraw
  · intro before ls hbefore hcolumn hflush
    rw [text_ofLines_eq, map_cut_indented hbefore hcolumn hflush]

/-- A text with a blank line and white space at the ends of lines comes back from an indentation
that reaches beyond the quotes. -/
theorem text_ofLines_indented :
    (ofLines 4 (none : Option Unit)
        (["  x ".toList, [], "y".toList, [' ']].map (Text.spaces 6 ++ ·))).text
      = "  x \n\ny\n ".toList :=
  (text_ofLines 4 none).2 _ _ (by decide) (by decide) (by decide)

/-- A line left of the quotes loses what it has; a line of white space is cut like the others. -/
example :
    (ofLines 4 (none : Option Unit)
        ["  shallow ".toList, "        deep".toList, "     ".toList]).text
      = "shallow \n    deep\n ".toList := by decide

end DocString

end Gherkin
