import Gherkin.Proofs.Feature.Listed

/-!
# Sections of examples are skipped

Where the scan of a text comes to a section of examples, all lines of the section are called
unsupported in the listing, and the scan goes on behind them. No other lines are called unsupported.
What a section is, and which lines belong to it, is said in `Gherkin.Proofs.Feature.Examples`.
-/

namespace Gherkin

namespace Feature

variable {W : Type} {reg : Registry W} {text : Text}

/-- The scan of the text comes to a section of examples: `raw` begins it, and `body` is read in it.
In a background it ends with that, at a blank line. -/
structure ExamplesAt (reg : Registry W) (text : Text) (before : List Text) (raw : Text)
    (body : List Text) : Prop where
  lines : ∃ after, Text.lines text = before ++ raw :: body ++ after
  begins : LineKind.ofLine (Text.trim raw) = .examples
  within : ∀ raw' ∈ body, (LineKind.ofLine (Text.trim raw')).beginsPart = false
  reached : ∃ r, Reading.takeLines reg {} 1 before = .ok r ∧ r.mode ≠ .docString ∧
    (r.openBackground = none ∨ ∀ raw' ∈ body, LineKind.ofLine (Text.trim raw') ≠ .blank)

/-- **What becomes of sections of examples** in a text that was read. -/
structure SkipsExamples (reg : Registry W) (text : Text) (result : Except Rejection Feature) :
    Prop where
  /-- All lines of a section are called unsupported, but for blank ones and comments. -/
  refused : ∀ before raw body, ExamplesAt reg text before raw body →
    ∀ i raw', (raw :: body)[i]? = some raw' → LineKind.ofLine (Text.trim raw') ≠ .blank →
      LineKind.ofLine (Text.trim raw') ≠ .comment →
        ∃ d, (listingOf result).line? (before.length + 1 + i) = some d ∧ d.IsUnsupported
  /-- A scan that ends before the end of the text ends behind the section. -/
  passed : ∀ before raw body, ExamplesAt reg text before raw body → ∀ rejection n,
    result = .error rejection → rejection.fault.endsScan = true →
      rejection.fault.line? = some n → before.length + 1 + body.length < n
  /-- What is called unsupported begins a section or stands in one. -/
  only : ∀ d ∈ (listingOf result).lines, d.IsUnsupported →
    ∃ before l after, TextLine.ofText text = before ++ l :: after ∧ l.line = d.number ∧
      (l.BeginsSection ∨ TextLine.InSection before)

/-- A section is read to its end, and its lines are not supported. -/
theorem ExamplesAt.read {before body : List Text} {raw : Text}
    (h : ExamplesAt reg text before raw body) :
    (∃ r, Reading.takeLines reg {} 1 (before ++ raw :: body) = .ok r) ∧
      ∀ l ∈ TextLine.ofLines (Site.along {} before) (1 + before.length) (raw :: body),
        LineKind.ofLine (Text.trim l.raw) = .blank ∨
          LineKind.ofLine (Text.trim l.raw) = .comment ∨ l.role = .stray := by
  obtain ⟨r, hbefore, hmode, hblank⟩ := h.reached
  have hsurveys := Reading.takeLines_surveys hbefore rfl Surveys.initial
  rw [Reading.takeLines_append hbefore]
  exact Reading.takeLines_skips hsurveys.at_site hmode h.begins h.within hblank

/-- A line that was read is in the listing, and called unsupported if it is not supported. -/
theorem exists_line?_of_takeLines {lines rest : List Text} {r : Reading} {l : TextLine}
    (hlines : Text.lines text = lines ++ rest) (hread : Reading.takeLines reg {} 1 lines = .ok r)
    (hl : l ∈ TextLine.ofLines {} 1 lines) :
    ∃ d, (listingOf (Feature.read reg text)).line? l.line = some d ∧
      (d.IsUnsupported ↔ l.role = .stray) := by
  cases h : Reading.takeLines reg {} 1 (Text.lines text) with
  | ok r' =>
    have hlisted := Reading.listed_of_finish h
    rw [← read_of_takeLines h] at hlisted
    have hmem : l ∈ TextLine.ofText text := by
      rw [TextLine.ofText, hlines, TextLine.ofLines_append]
      exact List.mem_append_left _ hl
    obtain ⟨d, hd, hdl⟩ := Listing.exists_line? hlisted hmem
    exact ⟨d, hd, hdl.unsupported⟩
  | error rejection =>
    have hresult := read_of_takeLines_eq_error h
    rw [hlines] at h
    obtain ⟨more, raw, after, r', rfl, -, -, -, hlisting⟩ := Reading.exists_of_ended _ hread h
    refine ⟨l.listed reg, ?_, TextLine.isUnsupported_listed⟩
    rw [hresult]
    show rejection.listing.line? l.line = _
    rw [hlisting]
    refine Listing.line?_push_of_some (Listing.line?_listed ?_)
    rw [TextLine.ofLines_append]
    exact List.mem_append_left _ hl

/-- A line that is not supported, of those that were read, begins a section or stands in one. -/
theorem exists_section_of_surveys {s : Site} {ls : List TextLine} {r : Reading} {d : ListedLine}
    (h : Surveys reg s ls r) {more : List TextLine} {l : TextLine} (hl : l ∈ ls)
    (hline : d.number = l.line) (hrole : l.role = .stray) :
    ∃ before l after, ls ++ more = before ++ l :: after ∧ l.line = d.number ∧
      (l.BeginsSection ∨ TextLine.InSection before) := by
  obtain ⟨before, after, rfl⟩ := List.append_of_mem hl
  exact ⟨before, l, after ++ more, by simp, hline.symm, h.sections.stray before l after rfl hrole⟩

/-- What is called unsupported begins a section or stands in one. -/
theorem exists_section_of_read {d : ListedLine} (hd : d ∈ (listingOf (read reg text)).lines)
    (hunsupported : d.IsUnsupported) :
    ∃ before l after, TextLine.ofText text = before ++ l :: after ∧ l.line = d.number ∧
      (l.BeginsSection ∨ TextLine.InSection before) := by
  cases h : Reading.takeLines reg {} 1 (Text.lines text) with
  | ok r =>
    have hlisted := Reading.listed_of_finish h
    rw [← read_of_takeLines h] at hlisted
    obtain ⟨l, hl, hdl⟩ := Listing.exists_of_forall₂_right hlisted hd
    obtain ⟨s, hsurveys⟩ := Reading.surveys_of_takeLines h
    rw [← List.append_nil (TextLine.ofText text)]
    exact exists_section_of_surveys hsurveys hl hdl.number (hdl.unsupported.mp hunsupported)
  | error rejection =>
    obtain ⟨before, raw, after, r, hlines, hbefore, hends, -, hlisting⟩ :=
      Reading.exists_of_ended [] rfl h
    rw [List.nil_append] at hbefore hlisting
    have hsurveys := Reading.takeLines_surveys hbefore rfl Surveys.initial
    rw [read_of_takeLines_eq_error h] at hd
    change d ∈ rejection.listing.lines at hd
    rw [hlisting, Listing.lines_push, List.mem_append, List.mem_singleton] at hd
    rcases hd with hd | rfl
    · obtain ⟨l, hl, rfl⟩ := List.mem_map.mp hd
      rw [TextLine.ofText, hlines, TextLine.ofLines_append]
      exact exists_section_of_surveys hsurveys hl rfl
        (TextLine.isUnsupported_listed.mp hunsupported)
    · exact absurd (Remark.failed.inj (Option.some.inj hunsupported))
        (FeatureFault.message_ne_of_endsScan hends)

/-- **Sections of examples are skipped**, and nothing else is. -/
theorem skipsExamples_of_read (reg : Registry W) (text : Text) :
    SkipsExamples reg text (read reg text) := by
  refine ⟨?_, ?_, fun d hd => exists_section_of_read hd⟩
  · intro before raw body h i raw' hi hblank hcomment
    obtain ⟨⟨r, hread⟩, hrefused⟩ := h.read
    obtain ⟨after, hlines⟩ := h.lines
    obtain ⟨l, hl, rfl, hline⟩ := TextLine.exists_of_getElem?
      (s := Site.along {} before) (n := 1 + before.length) hi
    have hrole : l.role = .stray := ((hrefused l hl).resolve_left hblank).resolve_left hcomment
    have hmem : l ∈ TextLine.ofLines {} 1 (before ++ raw :: body) := by
      rw [TextLine.ofLines_append]
      exact List.mem_append_right _ hl
    obtain ⟨d, hd, hunsupported⟩ := exists_line?_of_takeLines hlines hread hmem
    rw [hline, Nat.add_comm 1] at hd
    exact ⟨d, hd, hunsupported.mpr hrole⟩
  · intro before raw body h rejection n hresult hends hline
    obtain ⟨⟨r, hread⟩, -⟩ := h.read
    obtain ⟨after, hlines⟩ := h.lines
    cases hscan : Reading.takeLines reg {} 1 (Text.lines text) with
    | ok r' =>
      have hjudgement := Reading.judgement_of_finish hscan
      rw [← read_of_takeLines hscan, hresult] at hjudgement
      exact absurd (hjudgement.endsScan_eq_false.symm.trans hends) (by simp)
    | error rejection' =>
      obtain rfl : rejection' = rejection :=
        Except.error.inj ((read_of_takeLines_eq_error hscan).symm.trans hresult)
      rw [hlines] at hscan
      obtain ⟨more, _, _, _, -, -, -, hline', -⟩ := Reading.exists_of_ended _ hread hscan
      have heq := Option.some.inj (hline.symm.trans hline')
      simp only [List.length_append, List.length_cons] at heq
      omega

end Feature

namespace Sample

/-- A section of examples in a background, with a blank line among its rows. -/
def cutSection : Text :=
  Text.unlines <| List.map String.toList ["Background:", "Examples:", "| a |", "", "| b |"]

/-- A section of examples before the name of the feature. -/
def earlySection : Text :=
  Text.unlines <| List.map String.toList ["Examples:", "Feature: x", "", "Given a flag"]

end Sample

/-- A section does not go on everywhere until another part begins, and is not always over then. The
blank line in a background ends it, and the scan ends at the next row; the name of a feature does
not end it, and a step behind it is not supported. -/
theorem Feature.section_cut_or_resumed :
    outcome (read ({} : Registry Unit) Sample.cutSection) = .error (.unknownLine 5 ['|']) ∧
    ∃ d, (listingOf (read ({} : Registry Unit) Sample.earlySection)).line? 4 = some d ∧
      d.text = "Given a flag".toList ∧ d.IsUnsupported := by
  refine ⟨by decide +kernel, ?_⟩
  have hresumed : (listingOf (read ({} : Registry Unit) Sample.earlySection)).line? 4
      = some
        { number := 4, indent := 0, text := "Given a flag".toList
          remark := some (.failed "`Given a flag` is not supported".toList) } := by decide +kernel
  exact ⟨_, hresumed, rfl, rfl⟩

end Gherkin
