import Gherkin.Proofs.Console.Escapes
import Gherkin.Proofs.Text.Rows

/-!
# A summary is read back from its text

A summary leaves out what is zero and writes totals next to the counts they are made of. Still the
text tells the summary apart from every other one: its rows are the lines it was made of
(`Palette.rows_summary`), a line begins with its number, and a count stands in a tally exactly if
it is not zero (`Palette.mem_counts_iff`). The totals are not even needed.

* `Palette.summary_determines` — equal texts are those of equal summaries, and none ends in a line
  feed.
-/

namespace Gherkin

namespace Text

variable {t u rest rest' : Text} {c : Char} {m n : Nat}

/-- A text is split at the first place of a character in one way. -/
theorem append_cons_inj (ht : c ∉ t) (hu : c ∉ u) :
    t ++ c :: rest = u ++ c :: rest' ↔ t = u ∧ rest = rest' := by
  have htake {t : Text} (ht : c ∉ t) (rest : Text) :
      (t ++ c :: rest).takeWhile (· != c) = t := by
    rw [List.takeWhile_append_of_pos fun d hd => by simpa using ne_of_mem_of_not_mem hd ht,
      List.takeWhile_cons_of_neg (by simp), List.append_nil]
  constructor
  · intro h
    obtain rfl : t = u := by rw [← htake ht rest, h, htake hu]
    exact ⟨rfl, (List.cons.inj (List.append_cancel_left h)).2⟩
  · rintro ⟨rfl, rfl⟩
    rfl

/-- Texts that are joined by a character which none of them has are told apart again. -/
theorem join_inj {sep : Text} : ∀ {ts us : List Text}, ts ≠ [] → us ≠ [] →
    (∀ t ∈ ts, c ∉ t) → (∀ u ∈ us, c ∉ u) → join (c :: sep) ts = join (c :: sep) us → ts = us
  | [t], [u], _, _, _, _, h => congrArg ([·]) h
  | [t], u :: u' :: us, _, _, ht, _, h => by
    refine absurd (List.mem_singleton_self t) fun hmem => ht t hmem ?_
    show c ∈ join (c :: sep) [t]
    rw [h, join_cons_cons]
    simp
  | t :: t' :: ts, [u], _, _, _, hu, h => by
    refine absurd (List.mem_singleton_self u) fun hmem => hu u hmem ?_
    show c ∈ join (c :: sep) [u]
    rw [← h, join_cons_cons]
    simp
  | t :: t' :: ts, u :: u' :: us, _, _, hts, hus, h => by
    obtain ⟨ht, htail⟩ := List.forall_mem_cons.mp hts
    obtain ⟨hu, htail'⟩ := List.forall_mem_cons.mp hus
    rw [join_cons_cons, join_cons_cons, List.append_assoc, List.append_assoc, List.cons_append,
      List.cons_append, append_cons_inj ht hu] at h
    obtain ⟨rfl, h⟩ := h
    have hrest : t' :: ts = u' :: us :=
      join_inj (by simp) (by simp) htail htail' (List.append_cancel_left h)
    rw [hrest]

theorem ofNat_inj : ofNat m = ofNat n ↔ m = n := by
  constructor
  · intro h
    calc m = Nat.ofDigitChars 10 (ofNat m) 0 := Nat.ofDigitChars_ten_toDigits.symm
      _ = Nat.ofDigitChars 10 (ofNat n) 0 := by rw [h]
      _ = n := Nat.ofDigitChars_ten_toDigits
  · rintro rfl
    rfl

/-- A number is read off the beginning of a text, as far as the first space. -/
theorem ofNat_space_inj :
    ofNat m ++ ' ' :: rest = ofNat n ++ ' ' :: rest' ↔ m = n ∧ rest = rest' := by
  rw [append_cons_inj (not_mem_ofNat rfl m) (not_mem_ofNat rfl n), ofNat_inj]

end Text

namespace Palette

variable (s : Palette) {k m n : Nat} {t u : Tally} {style : Style} {word : String}

/-! ## The lines of a summary -/

/-- The lines of a summary. -/
def lines (x : Summary) : List Text :=
  [s.paint .bold (s.paint .header "[Summary]".toList), s.counted "feature" x.features,
      s.counted "scenario" x.scenarios.total ++ s.tally x.scenarios,
      s.counted "step" x.steps.total ++ s.tally x.steps]
    ++ if x.parsingErrors = 0 then []
      else [s.paint .err (s.counted "parsing error" x.parsingErrors)]

theorem summary_eq_join (x : Summary) : s.summary x = Text.join ['\n'] (s.lines x) := rfl

theorem newline_not_mem_paint {t : Text} (h : '\n' ∉ t) (style : Style) :
    '\n' ∉ s.paint style t := by
  have hon : '\n' ∉ escapeSequence style.code := by cases style <;> decide
  have hoff : '\n' ∉ escapeSequence ['0'] := by decide
  unfold paint
  split
  · simp [h, hon, hoff]
  · exact h

theorem paint_ne_nil {t : Text} (h : t ≠ []) (style : Style) : s.paint style t ≠ [] := by
  unfold paint
  split
  · simp [escapeSequence]
  · exact h

theorem newline_not_mem_count (hword : '\n' ∉ word.toList) (n : Nat) :
    '\n' ∉ Text.ofNat n ++ [' '] ++ word.toList := by
  simp [hword, Text.not_mem_ofNat (c := '\n') rfl n]

theorem newline_not_mem_counted (hword : '\n' ∉ word.toList) (n : Nat) :
    '\n' ∉ s.counted word n := by
  refine s.newline_not_mem_paint ?_ .bold
  rw [List.mem_append, not_or]
  refine ⟨newline_not_mem_count hword n, ?_⟩
  split <;> decide

theorem counted_ne_nil (word : String) (n : Nat) : s.counted word n ≠ [] :=
  s.paint_ne_nil (by simp) .bold

theorem newline_not_mem_tallied (hword : '\n' ∉ word.toList) (style : Style) (n : Nat) :
    ∀ count ∈ s.tallied style word n, '\n' ∉ count := by
  unfold tallied
  split
  · simp
  · rw [List.forall_mem_singleton]
    exact s.newline_not_mem_paint (s.newline_not_mem_paint (newline_not_mem_count hword n) style) _

theorem newline_not_mem_tally (t : Tally) : '\n' ∉ s.tally t := by
  have hcounts : ∀ count ∈ s.counts t, '\n' ∉ count := by
    simp only [counts, List.forall_mem_append]
    exact ⟨⟨s.newline_not_mem_tallied (by decide) _ _, s.newline_not_mem_tallied (by decide) _ _⟩,
      s.newline_not_mem_tallied (by decide) _ _⟩
  have hpainted {t : Text} (h : '\n' ∉ t) : '\n' ∉ s.paint .bold t := s.newline_not_mem_paint h _
  show '\n' ∉ if s.counts t = [] then [] else _
  split
  · exact List.not_mem_nil
  · simp only [List.mem_append, not_or]
    exact ⟨⟨⟨by decide, hpainted (by decide)⟩,
      Text.not_mem_join (hpainted (by decide)) hcounts⟩, hpainted (by decide)⟩

/-- A line of a summary takes one row, and is not empty. -/
theorem line_of_mem_lines {x : Summary} {line : Text} (h : line ∈ s.lines x) :
    '\n' ∉ line ∧ line ≠ [] := by
  have hheading : '\n' ∉ s.paint .bold (s.paint .header "[Summary]".toList) :=
    s.newline_not_mem_paint (s.newline_not_mem_paint (by decide) _) _
  have hcounted {word : String} (hword : '\n' ∉ word.toList) (n : Nat) (t : Tally) :
      '\n' ∉ s.counted word n ++ s.tally t ∧ s.counted word n ++ s.tally t ≠ [] := by
    refine ⟨?_, List.append_ne_nil_of_left_ne_nil (s.counted_ne_nil word n) _⟩
    rw [List.mem_append, not_or]
    exact ⟨s.newline_not_mem_counted hword n, s.newline_not_mem_tally t⟩
  simp only [lines, List.cons_append, List.nil_append, List.mem_cons] at h
  rcases h with rfl | rfl | rfl | rfl | herror
  · exact ⟨hheading, s.paint_ne_nil (s.paint_ne_nil (by decide) _) _⟩
  · exact ⟨s.newline_not_mem_counted (by decide) _, s.counted_ne_nil _ _⟩
  · exact hcounted (by decide) _ _
  · exact hcounted (by decide) _ _
  · split at herror
    · exact absurd herror List.not_mem_nil
    · obtain rfl := List.mem_singleton.mp herror
      exact ⟨s.newline_not_mem_paint (s.newline_not_mem_counted (by decide) _) _,
        s.paint_ne_nil (s.counted_ne_nil _ _) _⟩

/-- **The rows of a summary are its lines.** -/
theorem rows_summary (x : Summary) : Text.rows (s.summary x) = s.lines x := by
  rw [summary_eq_join, Text.rows_join (by simp [lines]),
    Text.flatMap_rows fun line h => (s.line_of_mem_lines h).1]

/-- A summary ends with its last line. -/
theorem getLast?_summary_ne (x : Summary) : (s.summary x).getLast? ≠ some '\n' := by
  intro hlast
  obtain ⟨before, hbefore⟩ := List.getLast?_eq_some_iff.mp hlast
  have hrows : s.lines x = Text.rows before ++ [[]] := by
    rw [← rows_summary, hbefore, Text.rows_append_newline]
    rfl
  have hempty : [] ∈ s.lines x := by rw [hrows]; simp
  exact (s.line_of_mem_lines hempty).2 rfl

/-- Where nothing is painted, no line of a summary begins with a space. -/
theorem head?_line_ne (hplain : s.painting = false) {x : Summary} {line : Text}
    (h : line ∈ s.lines x) : line.head? ≠ some ' ' := by
  have hcounted (word : String) (n : Nat) (rest : Text) :
      (s.counted word n ++ rest).head? ≠ some ' ' := by
    have hdigit : (Text.ofNat n).head? ≠ some ' ' := fun hhead =>
      Text.not_mem_ofNat (c := ' ') rfl n (List.mem_of_mem_head? hhead)
    have hne : Text.ofNat n ≠ [] := Nat.toDigits_ne_nil
    obtain ⟨d, digits, hdigits⟩ := List.exists_cons_of_ne_nil hne
    unfold counted
    rw [paint_of_not_painting hplain, hdigits]
    rwa [hdigits] at hdigit
  simp only [lines, List.cons_append, List.nil_append, List.mem_cons] at h
  rcases h with rfl | rfl | rfl | rfl | herror
  · rw [paint_of_not_painting hplain, paint_of_not_painting hplain]
    decide
  · exact List.append_nil (s.counted _ _) ▸ hcounted _ _ []
  · exact hcounted _ _ _
  · exact hcounted _ _ _
  · split at herror
    · exact absurd herror List.not_mem_nil
    · obtain rfl := List.mem_singleton.mp herror
      rw [paint_of_not_painting hplain]
      exact List.append_nil (s.counted _ _) ▸ hcounted _ _ []

/-! ## What the lines tell -/

/-- A line begins with its number, and what it goes on with is the rest. -/
theorem counted_append_inj {rest rest' : Text} :
    plain.counted word m ++ rest = plain.counted word n ++ rest' ↔ m = n ∧ rest = rest' := by
  constructor
  · intro h
    unfold counted at h
    rw [paint_plain, paint_plain] at h
    simp only [List.append_assoc, List.cons_append, Text.ofNat_space_inj] at h
    obtain ⟨rfl, h⟩ := h
    exact ⟨rfl, List.append_cancel_left (List.append_cancel_left h)⟩
  · rintro ⟨rfl, rfl⟩
    rfl

theorem counted_inj : plain.counted word m = plain.counted word n ↔ m = n := by
  have h : plain.counted word m ++ [] = plain.counted word n ++ [] ↔ m = n ∧ [] = [] :=
    counted_append_inj
  simpa using h

theorem mem_tallied_iff {count : Text} :
    count ∈ plain.tallied style word n ↔ n ≠ 0 ∧ count = Text.ofNat n ++ ' ' :: word.toList := by
  unfold tallied
  rw [paint_plain, paint_plain]
  split
  next h => simp [h]
  next h => simp [h]

/-- **A count stands in a tally exactly if it is not zero**, next to the word for it. -/
theorem mem_counts_iff :
    Text.ofNat n ++ ' ' :: word.toList ∈ plain.counts t ↔
      n ≠ 0 ∧ (n = t.passed ∧ word = "passed" ∨ n = t.skipped ∧ word = "skipped" ∨
        n = t.failed ∧ word = "failed") := by
  simp only [counts, List.mem_append, mem_tallied_iff, Text.ofNat_space_inj, String.toList_inj]
  constructor
  · rintro ((⟨hn, rfl, rfl⟩ | ⟨hn, rfl, rfl⟩) | ⟨hn, rfl, rfl⟩) <;> simp [hn]
  · rintro ⟨hn, ⟨rfl, rfl⟩ | ⟨rfl, rfl⟩ | ⟨rfl, rfl⟩⟩ <;> simp [hn]

/-- What is not zero in either of two numbers tells them apart. -/
theorem eq_of_forall_ne_zero (h : ∀ n, n ≠ 0 ∧ n = m ↔ n ≠ 0 ∧ n = k) : m = k := by
  by_cases hm : m = 0
  · by_contra hne
    exact hne ((h k).mpr ⟨fun hk => hne (hm.trans hk.symm), rfl⟩).2.symm
  · exact ((h m).mp ⟨hm, rfl⟩).2

theorem counts_inj : plain.counts t = plain.counts u ↔ t = u := by
  constructor
  · intro h
    have hmem (n : Nat) (word : String) :
        Text.ofNat n ++ ' ' :: word.toList ∈ plain.counts t ↔
          Text.ofNat n ++ ' ' :: word.toList ∈ plain.counts u := by rw [h]
    simp only [mem_counts_iff] at hmem
    have hpassed : t.passed = u.passed :=
      eq_of_forall_ne_zero fun n => by simpa using hmem n "passed"
    have hskipped : t.skipped = u.skipped :=
      eq_of_forall_ne_zero fun n => by simpa using hmem n "skipped"
    have hfailed : t.failed = u.failed :=
      eq_of_forall_ne_zero fun n => by simpa using hmem n "failed"
    exact Tally.ext hpassed hskipped hfailed
  · rintro rfl
    rfl

/-- A tally that is not empty is read back from its brackets. -/
theorem tally_inj : plain.tally t = plain.tally u ↔ t = u := by
  have hcomma (t : Tally) : ∀ count ∈ plain.counts t, ',' ∉ count := by
    simp only [counts, List.forall_mem_append, mem_tallied_iff]
    refine ⟨⟨?_, ?_⟩, ?_⟩ <;>
    · rintro count ⟨-, rfl⟩
      simp [Text.not_mem_ofNat (c := ',') rfl]
  have htally (t : Tally) : plain.tally t
      = if plain.counts t = [] then []
        else [' ', '('] ++ Text.join [',', ' '] (plain.counts t) ++ [')'] := rfl
  rw [← counts_inj, htally, htally]
  constructor
  · intro h
    by_cases ht : plain.counts t = []
    · rw [ht]
      by_contra hu
      rw [if_pos ht, if_neg (Ne.symm hu)] at h
      exact absurd h (by simp)
    · by_cases hu : plain.counts u = []
      · rw [if_neg ht, if_pos hu] at h
        exact absurd h (by simp)
      · rw [if_neg ht, if_neg hu] at h
        exact Text.join_inj ht hu (hcomma t) (hcomma u)
          (List.append_cancel_left (List.append_cancel_right h))
  · intro h
    rw [h]

/-- The number of errors is read off the line that is there if it is not zero. -/
theorem errors_inj :
    (if m = 0 then [] else [plain.paint .err (plain.counted word m)])
        = (if n = 0 then [] else [plain.paint .err (plain.counted word n)]) ↔ m = n := by
  rw [paint_plain, paint_plain]
  by_cases hm : m = 0
  · by_cases hn : n = 0
    · simp [hm, hn]
    · simp [hm, hn, eq_comm]
  · by_cases hn : n = 0
    · simp [hm, hn]
    · simp [hm, hn, counted_inj]

theorem lines_inj {x y : Summary} : plain.lines x = plain.lines y ↔ x = y := by
  constructor
  · intro h
    simp only [lines, List.cons_append, List.nil_append, List.cons.injEq, counted_append_inj,
      counted_inj, tally_inj, errors_inj] at h
    obtain ⟨-, hfeatures, ⟨-, hscenarios⟩, ⟨-, hsteps⟩, herrors⟩ := h
    exact Summary.ext hfeatures herrors hscenarios hsteps
  · rintro rfl
    rfl

/-- **The text of a summary determines the summary**, and in no colours does it end in a line
feed. -/
theorem summary_determines (x y : Summary) :
    (plain.summary x = plain.summary y ↔ x = y) ∧
      ∀ s : Palette, (s.summary x).getLast? ≠ some '\n' := by
  refine ⟨⟨fun h => ?_, fun h => h ▸ rfl⟩, fun s => s.getLast?_summary_ne x⟩
  have hlines : plain.lines x = plain.lines y := by
    rw [← rows_summary, ← rows_summary, h]
  exact lines_inj.mp hlines

end Palette

end Gherkin
