import Gherkin.Proofs.Feature.Acceptance
import Gherkin.Proofs.Feature.Survey

/-!
# Which lines are at fault

At the end of a scan a reading has found some lines at fault: lines that are not supported, steps
that nothing matches or several patterns do, and steps whose handlers do not accept their arguments.
Here this is said of the lines alone. The first three are known from a line by itself. For the last
it matters whether the step has a doc string, and so what lines come after it
(`TextLine.Mismatched`); but not where the reading keeps the step (`mem_arityFaults_iff`).
-/

namespace Gherkin

namespace TextLine

variable {W : Type}

/-- The line is a step that no pattern matches. -/
def Unmatched (reg : Registry W) (l : TextLine) : Prop :=
  ∃ keyword text, l.role = .step keyword text ∧ reg.candidates text = []

/-- The line is a step that two patterns match or more. -/
def Ambiguous (reg : Registry W) (l : TextLine) : Prop :=
  ∃ keyword text, l.role = .step keyword text ∧ 2 ≤ (reg.candidates text).length

/-- The line is a step that one pattern matches, whose handler does not accept the captures together
with the doc string, if there is one. -/
def Mismatched (reg : Registry W) (ls : List TextLine) (l : TextLine) (e : ArityFault) : Prop :=
  ∃ before rest keyword text found shapes,
    ls = before ++ l :: rest ∧ l.role = .step keyword text ∧ reg.find text = .ok found ∧
      reg.shapes? found.handler = some shapes ∧
      Arity.check text shapes (found.captures.length + if hasDocString rest then 1 else 0)
        = .error e

/-- The line is at fault. -/
def Faulty (reg : Registry W) (ls : List TextLine) (l : TextLine) : Prop :=
  l.role = .stray ∨ l.Unmatched reg ∨ l.Ambiguous reg ∨ ∃ e, l.Mismatched reg ls e

end TextLine

namespace Reading

variable {W : Type} {reg : Registry W} {r : Reading} {text : Text}

/-- **A scan that comes to the end surveys all lines of the text.** -/
theorem surveys_of_takeLines (h : takeLines reg {} 1 (Text.lines text) = .ok r) :
    ∃ s, Surveys reg s (TextLine.ofText text) r :=
  ⟨_, takeLines_surveys h rfl Surveys.initial⟩

/-- The steps read were written as what their places have. -/
theorem map_entry_stepsRead (r : Reading) :
    r.stepsRead.map Step.entry
      = r.written.background.elim [] (·.2) ++ r.written.items.filter Entry.isStep := by
  unfold stepsRead written
  rw [List.map_append, Item.map_entry_filterMap_step?]
  cases r.background <;> rfl

/-- The steps read are the steps of the lines that are found. -/
theorem mem_map_entry_close {s : Site} {ls : List TextLine} (h : Surveys reg s ls r) {e : Entry} :
    e ∈ r.close.stepsRead.map Step.entry ↔
      e ∈ ls.map TextLine.toEntry ∧ e.isBound reg = true ∧ e.isStep = true := by
  rw [map_entry_stepsRead, (division_close h.division 0).perm_steps.mem_iff, List.mem_filter,
    List.mem_filter, List.mem_append, List.mem_singleton, and_assoc]
  constructor
  · rintro ⟨hmem | rfl, hbound, hstep⟩
    · exact ⟨hmem, hbound, hstep⟩
    · exact absurd hstep (by simp [Entry.isStep])
  · rintro ⟨hmem, hbound, hstep⟩
    exact ⟨Or.inl hmem, hbound, hstep⟩

end Reading

namespace TextLine

variable {text : Text} {l l' : TextLine}

/-- Later lines have greater numbers. -/
theorem pairwise_line_ofText (text : Text) :
    (ofText text).Pairwise fun a b => a.line < b.line := by
  have h : ((ofText text).map (·.line)).Pairwise (· < ·) := by
    rw [ofText, map_line_ofLines]
    exact List.pairwise_lt_range'
  exact List.pairwise_map.mp h

/-- A line is known by its number. -/
theorem eq_of_line_eq {s : Site} {n : Nat} {lines : List Text} (hl : l ∈ ofLines s n lines)
    (hl' : l' ∈ ofLines s n lines) (h : l.line = l'.line) : l = l' := by
  have hnodup : ((ofLines s n lines).map fun l => l.line).Nodup := by
    rw [map_line_ofLines]
    exact List.nodup_range'
  exact List.inj_on_of_nodup_map hnodup hl hl' h

/-- The other lines have other numbers. -/
theorem line_ne_of_split {before rest : List TextLine} (h : ofText text = before ++ l :: rest) :
    (∀ l' ∈ before, l'.line ≠ l.line) ∧ ∀ l' ∈ rest, l'.line ≠ l.line := by
  have hpairwise := pairwise_line_ofText text
  rw [h] at hpairwise
  obtain ⟨-, hcons, hcross⟩ := List.pairwise_append.mp hpairwise
  constructor
  · exact fun l' hl' => Nat.ne_of_lt (hcross l' hl' l (List.mem_cons_self ..))
  · exact fun l' hl' => Nat.ne_of_gt ((List.pairwise_cons.mp hcons).1 l' hl')

end TextLine

namespace Reading

variable {W : Type} {reg : Registry W} {r : Reading} {text : Text}

theorem mem_arityFaults {steps : List Step} {n : Nat} {e : ArityFault} :
    (n, e) ∈ arityFaults reg steps ↔
      ∃ s ∈ steps, s.line = n ∧ ∃ shapes, reg.shapes? s.found.handler = some shapes ∧
        Arity.check s.text shapes s.arguments.length = .error e := by
  unfold arityFaults
  rw [List.mem_filterMap]
  refine exists_congr fun s => and_congr_right fun _ => ?_
  cases hshapes : reg.shapes? s.found.handler with
  | none => simp
  | some shapes =>
    dsimp only
    cases hcheck : Arity.check s.text shapes s.arguments.length with
    | ok _ => simp [hcheck]
    | error e' => simp [hcheck]

/-- A step has its captures and its doc string for arguments, by the lines after it. -/
theorem length_arguments {site : Site} (h : Surveys reg site (TextLine.ofText text) r) {s : Step}
    (hs : s ∈ r.close.stepsRead) {l : TextLine} (hentry : l.toEntry = s.entry)
    {before rest : List TextLine} (hsplit : TextLine.ofText text = before ++ l :: rest) :
    s.arguments.length
      = s.found.captures.length + if TextLine.hasDocString rest = true then 1 else 0 := by
  obtain ⟨hbefore, hrest⟩ := TextLine.line_ne_of_split hsplit
  have hbound : s.entry.isBound reg = true :=
    ((mem_map_entry_close h).mp (List.mem_map_of_mem hs)).2.1
  have harguments := h.owns.close h.at_site s hs
  have hline : l.line = s.line := congrArg Entry.line hentry
  rw [hsplit, ← hline,
    Ownership.count_ofLines (congrArg Entry.role hentry) hbound hbefore hrest] at harguments
  exact harguments

/-- **The handlers that do not accept their arguments, said of the lines alone.** -/
theorem mem_arityFaults_iff (h : takeLines reg {} 1 (Text.lines text) = .ok r) {n : Nat}
    {e : ArityFault} :
    (n, e) ∈ arityFaults reg r.close.stepsRead ↔
      ∃ l ∈ TextLine.ofText text, l.line = n ∧ l.Mismatched reg (TextLine.ofText text) e := by
  obtain ⟨site, hsurveys⟩ := surveys_of_takeLines h
  have hfound := found_of_takeLines h
  rw [mem_arityFaults]
  constructor
  · rintro ⟨s, hs, rfl, shapes, hshapes, hcheck⟩
    obtain ⟨hmem, -, -⟩ := (mem_map_entry_close hsurveys).mp (List.mem_map_of_mem hs)
    obtain ⟨l, hl, hentry⟩ := List.mem_map.mp hmem
    obtain ⟨before, rest, hsplit⟩ := List.append_of_mem hl
    refine ⟨l, hl, congrArg Entry.line hentry, before, rest, _, s.text, s.found, shapes, hsplit,
      congrArg Entry.role hentry, hfound s hs, hshapes, ?_⟩
    rw [← length_arguments hsurveys hs hentry hsplit]
    exact hcheck
  · rintro ⟨l, hl, rfl, before, rest, keyword, stepText, found, shapes, hsplit, hrole, hfind,
      hshapes, hcheck⟩
    have hmem : l.toEntry ∈ r.close.stepsRead.map Step.entry := by
      refine (mem_map_entry_close hsurveys).mpr ⟨List.mem_map_of_mem hl, ?_, ?_⟩
      · unfold Entry.isBound
        rw [hrole]
        dsimp only
        rw [hfind]
        rfl
      · unfold Entry.isStep
        rw [hrole]
    obtain ⟨s, hs, hentry⟩ := List.mem_map.mp hmem
    have htext : s.text = stepText :=
      (Role.step.inj ((congrArg Entry.role hentry).trans hrole)).2
    have hsame : s.found = found := by
      have hfindStep : reg.find s.text = .ok s.found := hfound s hs
      rw [htext, hfind] at hfindStep
      exact (Except.ok.inj hfindStep).symm
    refine ⟨s, hs, congrArg Entry.line hentry, shapes, hsame ▸ hshapes, ?_⟩
    rw [htext, length_arguments hsurveys hs hentry.symm hsplit, hsame]
    exact hcheck

end Reading

end Gherkin
