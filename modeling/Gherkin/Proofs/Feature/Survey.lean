import Gherkin.Proofs.Feature.Documented
import Gherkin.Proofs.Feature.Examples

/-!
# What the lines of a text make of a reading

`Surveys reg s ls r` says all that the lines `ls` read so far tell about the reading `r`, and that
the next line stands at the site `s`. It holds at the beginning, every line that is read keeps it,
and so it holds at the end of the text (`takeLines_surveys`).

A scan that does not come to the end stops at a line that makes no sense where it stands. The lines
before it are surveyed like any others (`exists_of_takeLines_eq_error`).
-/

namespace Gherkin

/-- The line as it is listed when it is read. -/
def TextLine.listed {W : Type} (reg : Registry W) (l : TextLine) : ListedLine :=
  { number := l.line, indent := Text.indent l.raw, text := Text.trim l.raw
    remark := l.remark? reg }

/-- **What the lines read so far tell about a reading**, and where the next line stands. -/
structure Surveys {W : Type} (reg : Registry W) (s : Site) (ls : List TextLine) (r : Reading) :
    Prop where
  at_site : r.At s
  gathered : r.gathered = .ofEntries reg (ls.map TextLine.toEntry)
  division : Division reg r.modes (ls.map TextLine.toEntry) r.written
  /-- The first line that is not supported is kept. -/
  unsupported : r.unsupported = (ls.filterMap TextLine.unsupported?).head?
  listing : r.listing.lines = ls.map (TextLine.listed reg)
  owns : r.Owns (Ownership.ofLines reg ls) (ls.length + 1)
  sections : Sections s ls

namespace Surveys

open Reading

variable {W : Type} {reg : Registry W} {r r' : Reading} {s : Site} {ls : List TextLine}
  {line : Nat} {raw : Text} {remark : Option Remark}

/-- Before the first line. -/
theorem initial : Surveys reg {} [] {} where
  at_site := .initial
  gathered := rfl
  division := .absent (by simp)
  unsupported := rfl
  listing := rfl
  owns := .initial
  sections := .initial

theorem role (h : Surveys reg s ls r) : r.role raw = s.role raw := by
  unfold Reading.role
  rw [h.at_site.site]

/-- **Every line that is read is surveyed.** -/
theorem reads (h : Surveys reg s ls r) (hline : line = ls.length + 1)
    (hread : Reads reg line raw r r' remark) :
    Surveys reg (s.next (s.role raw)) (ls ++ [{ line, role := s.role raw, raw }])
      (r'.list line raw remark) := by
  have htells := tells_reads hread
  have hat := h.at_site.reads hread
  have hgathered := gathered_reads hread
  have hdivision := division_reads h.division hread
  have howns := (hline ▸ h.owns).reads h.at_site hread
  rw [h.role] at htells hat hgathered hdivision howns
  refine ⟨hat.list, ?_, ?_, ?_, ?_, ?_, h.sections.reads h.at_site hread⟩
  · show r'.gathered = _
    rw [hgathered, h.gathered, List.map_append, List.map_singleton, Gathered.ofEntries_concat]
  · rw [List.map_append]
    exact hdivision
  · show r'.unsupported = _
    rw [htells.unsupported, h.unsupported, List.filterMap_append, List.head?_append,
      filterMap_singleton, Option.head?_toList]
    exact Option.orElse_eq_or ..
  · show r'.listing.lines ++ [_] = _
    rw [htells.listing, h.listing, List.map_append, htells.remark]
    rfl
  · unfold Ownership.ofLines at howns ⊢
    rw [List.foldl_append, List.length_append, List.length_singleton, ← hline]
    exact howns.congr rfl rfl rfl rfl Iff.rfl rfl

end Surveys

namespace Reading

variable {W : Type} {reg : Registry W} {r r' : Reading} {s : Site} {ls : List TextLine}
  {line : Nat} {raw : Text} {lines : List Text}

/-- **All lines that are read are surveyed.** -/
theorem takeLines_surveys (h : takeLines reg r line lines = .ok r') (hline : line = ls.length + 1)
    (hsurveys : Surveys reg s ls r) :
    Surveys reg (s.along lines) (ls ++ TextLine.ofLines s line lines) r' := by
  induction lines generalizing r line s ls with
  | nil =>
    rw [← Except.ok.inj h, TextLine.ofLines, List.append_nil]
    exact hsurveys
  | cons raw rest ih =>
    obtain ⟨r₁, htake, hrest⟩ := takeLines_cons_eq_ok_iff.mp h
    obtain ⟨r₂, remark, hread, rfl⟩ := take_eq_ok_iff.mp htake
    rw [TextLine.ofLines, List.append_cons]
    exact ih hrest (by simp [hline]) (hsurveys.reads hline hread)

/-- A line takes back no fault of a step before it. -/
theorem allFound_of_reads (hread : Reads reg line raw r r' remark) (hmissing : r'.missing = [])
    (hambiguous : r'.ambiguous = []) : r.missing = [] ∧ r.ambiguous = [] := by
  have hgathered := gathered_reads hread
  have hmissing' : r'.missing = r.missing ++ _ := congrArg Gathered.missing hgathered
  have hambiguous' : r'.ambiguous = r.ambiguous ++ _ := congrArg Gathered.ambiguous hgathered
  rw [hmissing] at hmissing'
  rw [hambiguous] at hambiguous'
  exact ⟨(List.append_eq_nil_iff.mp hmissing'.symm).1,
    (List.append_eq_nil_iff.mp hambiguous'.symm).1⟩

/-- Where all steps are found in the end, they were found all along. -/
theorem allFound_of_takeLines (h : takeLines reg r line lines = .ok r')
    (hmissing : r'.missing = []) (hambiguous : r'.ambiguous = []) :
    r.missing = [] ∧ r.ambiguous = [] := by
  induction lines generalizing r line with
  | nil =>
    rw [Except.ok.inj h]
    exact ⟨hmissing, hambiguous⟩
  | cons raw rest ih =>
    obtain ⟨r₁, htake, hrest⟩ := takeLines_cons_eq_ok_iff.mp h
    obtain ⟨r₂, remark, hread, rfl⟩ := take_eq_ok_iff.mp htake
    obtain ⟨hmissing₂, hambiguous₂⟩ := ih hrest
    exact allFound_of_reads hread hmissing₂ hambiguous₂

/-- **What every line keeps holds once all lines are read**, if all steps are found. -/
theorem takeLines_induction {P : List TextLine → Reading → Prop}
    (hreads : ∀ {s : Site} {ls : List TextLine} {r r' : Reading} {raw : Text}
      {remark : Option Remark}, Surveys reg s ls r → P ls r →
      Reads reg (ls.length + 1) raw r r' remark → r'.missing = [] → r'.ambiguous = [] →
      P (ls ++ [{ line := ls.length + 1, role := s.role raw, raw }])
        (r'.list (ls.length + 1) raw remark))
    (h : takeLines reg r line lines = .ok r') (hmissing : r'.missing = [])
    (hambiguous : r'.ambiguous = []) (hline : line = ls.length + 1) (hsurveys : Surveys reg s ls r)
    (hr : P ls r) : P (ls ++ TextLine.ofLines s line lines) r' := by
  induction lines generalizing r line s ls with
  | nil =>
    rw [← Except.ok.inj h, TextLine.ofLines, List.append_nil]
    exact hr
  | cons raw rest ih =>
    obtain ⟨r₁, htake, hrest⟩ := takeLines_cons_eq_ok_iff.mp h
    obtain ⟨r₂, remark, hread, rfl⟩ := take_eq_ok_iff.mp htake
    obtain ⟨hmissing₂, hambiguous₂⟩ := allFound_of_takeLines hrest hmissing hambiguous
    have hmissing₂ : r₂.missing = [] := hmissing₂
    have hnext := hreads hsurveys hr (hline ▸ hread) hmissing₂ hambiguous₂
    rw [← hline] at hnext
    rw [TextLine.ofLines, List.append_cons]
    exact ih hrest (by simp [hline]) (hsurveys.reads hline hread) hnext

/-- **A scan that does not come to the end stops at one line.** All lines before it are read, and it
is listed with what is wrong with it. -/
theorem exists_of_takeLines_eq_error {rejection : Rejection}
    (h : takeLines reg r line lines = .error rejection) :
    ∃ before raw after r' fault, lines = before ++ raw :: after ∧
      takeLines reg r line before = .ok r' ∧ Faults (line + before.length) raw r' fault ∧
      rejection = { fault
                    listing := (r'.list (line + before.length) raw
                      (some (.failed fault.message))).listing } := by
  induction lines generalizing r line with
  | nil => exact absurd h (by simp [takeLines])
  | cons raw rest ih =>
    rcases takeLines_cons_eq_error_iff.mp h with htake | ⟨r₁, htake, hrest⟩
    · obtain ⟨fault, hfaults, rfl⟩ := take_eq_error_iff.mp htake
      exact ⟨[], raw, rest, r, fault, rfl, rfl, hfaults, rfl⟩
    · obtain ⟨before, raw', after, r', fault, rfl, hbefore, hfaults, rfl⟩ := ih hrest
      have hline : line + (raw :: before).length = line + 1 + before.length := by
        rw [List.length_cons]
        omega
      refine ⟨raw :: before, raw', after, r', fault, rfl, ?_, hline ▸ hfaults, by rw [hline]⟩
      exact takeLines_cons_eq_ok_iff.mpr ⟨r₁, htake, hbefore⟩

end Reading

end Gherkin
