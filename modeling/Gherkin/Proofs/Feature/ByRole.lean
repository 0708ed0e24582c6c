import Gherkin.Proofs.Feature.Division
import Gherkin.Proofs.Feature.Gathered
import Gherkin.Proofs.Feature.Site

/-!
# What a line does is said by its role

The modes of a reading make a `Site`, and with it the role that the reading gives to the next line
(`Reading.role`). What the line does to the reading can be said by this role alone, once for each
part of a reading:

* `gathered_reads` — what the reading gathers;
* `division_reads` — how its steps are divided between the background and the items;
* `tells_reads` — what it calls unsupported, and the remark that the line gets.
-/

namespace Gherkin

namespace TextLine

/-- The line as one that is not supported: what is none of the things a feature is made of. -/
def unsupported? (l : TextLine) : Option (Nat × Text) :=
  match l.role with
  | .stray => some (l.line, Text.trim l.raw)
  | _ => none

/-- What is said of the line when it is read. -/
def remark? {W : Type} (reg : Registry W) (l : TextLine) : Option Remark :=
  match l.role with
  | .step _ text =>
    match reg.find text with
    | .ok found => some (.matched found.location)
    | .error e => some (.failed e.message)
  | .stray => some (.failed (FeatureFault.unsupported l.line (Text.trim l.raw)).message)
  | _ => none

end TextLine

/-- The place that an innermost mode makes. -/
def Place.ofMode : Mode → Place
  | .docString => .docString
  | .narrative => .narrative
  | .declaration | .background | .steps _ | .examples => .outside

namespace Place

variable {raw : Text}

theorem role_outside : Place.outside.role raw = Role.ofKind (LineKind.ofLine (Text.trim raw)) := by
  unfold role
  cases LineKind.ofLine (Text.trim raw) <;> rfl

theorem role_narrative
    (h : Reading.continuesNarrative (LineKind.ofLine (Text.trim raw)) = true) :
    Place.narrative.role raw = .narrative (Text.trim raw) := by
  unfold role
  cases hkind : LineKind.ofLine (Text.trim raw) with
  | other word => rfl
  | conjunction text => rfl
  | _ => exact absurd (hkind ▸ h) (by simp [Reading.continuesNarrative])

theorem role_docString (h : LineKind.ofLine (Text.trim raw) = .delimiter) :
    Place.docString.role raw = .delimiter := by
  unfold role
  rw [h]

theorem role_docString_of_ne (h : LineKind.ofLine (Text.trim raw) ≠ .delimiter) :
    Place.docString.role raw = .verbatim := by
  unfold role
  cases hkind : LineKind.ofLine (Text.trim raw) with
  | delimiter => exact absurd hkind h
  | _ => rfl

/-- What is neither free text nor a comment ends the narrative. -/
theorem next_narrative {kind : LineKind} (h : kind ≠ .comment) :
    Place.narrative.next (Role.ofKind kind) = Place.outside.next (Role.ofKind kind) := by
  cases kind with
  | comment => exact absurd rfl h
  | _ => rfl

theorem role_narrative_outside
    (h : Reading.continuesNarrative (LineKind.ofLine (Text.trim raw)) = false) :
    Place.narrative.role raw = Place.outside.role raw := by
  unfold role
  cases hkind : LineKind.ofLine (Text.trim raw) with
  | other word => exact absurd (hkind ▸ h) (by simp [Reading.continuesNarrative])
  | conjunction text => exact absurd (hkind ▸ h) (by simp [Reading.continuesNarrative])
  | _ => rfl

end Place

/-- The role of a line of the kind in a mode outside doc strings and free text. -/
def Mode.roleOf (m : Mode) (kind : LineKind) : Role :=
  if !Reading.passesExamples kind && m = .examples then .stray else Role.ofKind kind

namespace Mode

variable {m : Mode} {kind : LineKind}

theorem roleOf_of_passes (h : Reading.passesExamples kind = true) :
    m.roleOf kind = Role.ofKind kind := by
  unfold roleOf
  rw [h]
  rfl

theorem roleOf_of_ne (h : m ≠ .examples) : m.roleOf kind = Role.ofKind kind := by
  unfold roleOf
  rw [if_neg (by simp [h])]

/-- A section of examples refuses what does not pass it. -/
theorem roleOf_examples (h : Reading.passesExamples kind = false) :
    Mode.examples.roleOf kind = .stray := by
  unfold roleOf
  rw [h]
  rfl

theorem passes_ofKind (kind : LineKind) :
    (Role.ofKind kind).passes = Reading.passesExamples kind := by
  cases kind <;> rfl

end Mode

namespace Reading

variable {W : Type} {reg : Registry W} {r r' : Reading} {line : Nat} {raw text : Text}
  {kind : LineKind} {remark : Option Remark} {es : List Entry}

/-- The innermost mode outside doc strings and free text. -/
def outerMode (modes : List Mode) : Mode :=
  if Place.ofMode (modes.headD .declaration) = .outside then modes.headD .declaration
  else modes.tail.headD .declaration

/-- Whether a background that is being read stands in a section of examples. -/
def skippingAround (modes : List Mode) : Option Bool :=
  (aroundBackground? modes).map fun outer => outer.headD .declaration = .examples

/-- The site that the modes make. -/
def siteOf (modes : List Mode) : Site :=
  { place := Place.ofMode (modes.headD .declaration)
    skipping := outerMode modes = .examples
    around := skippingAround modes }

/-- Where the next line stands. -/
def site (r : Reading) : Site := siteOf r.modes

/-- The role that the reading gives to a line. -/
def role (r : Reading) (raw : Text) : Role := r.site.role raw

/-- A mode that `And` continues is no section of examples. -/
theorem ne_examples_of_keyword? {m : Mode} {keyword : Keyword} (h : m.keyword? = some keyword) :
    m ≠ .examples := by
  rintro rfl
  exact absurd h (by simp [Mode.keyword?])

/-! ### Roles -/

theorem role_of_docString (hmode : r.mode = .docString) :
    r.role raw = Place.docString.role raw := by
  have hplace : r.site.place = .docString := congrArg Place.ofMode hmode
  unfold role Site.role
  rw [hplace, if_neg (by simp)]

/-- What the narrative takes passes a section of examples around it. -/
theorem role_of_narrative (hmode : r.mode = .narrative)
    (hkind : continuesNarrative (LineKind.ofLine (Text.trim raw)) = true) :
    r.role raw = .narrative (Text.trim raw) := by
  have hplace : r.site.place = .narrative := congrArg Place.ofMode hmode
  unfold role Site.role
  rw [hplace, Place.role_narrative hkind, if_neg (by simp [Role.passes])]

theorem role_of_narrativeComment (hmode : r.mode = .narrative)
    (hkind : LineKind.ofLine (Text.trim raw) = .comment) : r.role raw = .comment := by
  have hplace : r.site.place = .narrative := congrArg Place.ofMode hmode
  have hrole : Place.narrative.role raw = .comment := by
    rw [Place.role_narrative_outside (by rw [hkind]; rfl), Place.role_outside, hkind]
    rfl
  unfold role Site.role
  rw [hplace, hrole, if_neg (by simp [Role.passes])]

/-- A line that neither a doc string nor the narrative takes has the role of its kind. -/
theorem placeRole_of_outside (hdoc : r.mode ≠ .docString)
    (hfree : r.mode = .narrative →
      continuesNarrative (LineKind.ofLine (Text.trim raw)) = false ∧
        LineKind.ofLine (Text.trim raw) ≠ .comment) :
    (Place.ofMode r.mode).role raw = Role.ofKind (LineKind.ofLine (Text.trim raw)) := by
  cases hmode : r.mode with
  | docString => exact absurd hmode hdoc
  | narrative =>
    show Place.narrative.role raw = _
    rw [Place.role_narrative_outside (hfree hmode).1, Place.role_outside]
  | _ => exact Place.role_outside

/-- Lines that are read outside stand outside, once the narrative is left. -/
theorem place_of_outside (hdoc : r.mode ≠ .docString) (hfree : r.mode ≠ .narrative) :
    Place.ofMode r.mode = .outside := by
  cases hmode : r.mode with
  | docString => exact absurd hmode hdoc
  | narrative => exact absurd hmode hfree
  | _ => rfl

/-- What is left when the narrative is left. -/
theorem mode_leaveNarrative (hdoc : r.mode ≠ .docString) :
    r.leaveNarrative.mode = outerMode r.modes := by
  have hmode : r.modes.headD .declaration = r.mode := rfl
  unfold outerMode
  by_cases hfree : r.mode = .narrative
  · rw [leaveNarrative_of_mode hfree, hmode, hfree, if_neg (by simp [Place.ofMode])]
    rfl
  · rw [leaveNarrative_of_mode_ne hfree, hmode, if_pos (place_of_outside hdoc hfree)]

theorem role_of_outside (hdoc : r.mode ≠ .docString)
    (hfree : r.mode = .narrative →
      continuesNarrative (LineKind.ofLine (Text.trim raw)) = false ∧
        LineKind.ofLine (Text.trim raw) ≠ .comment) :
    r.role raw = r.leaveNarrative.mode.roleOf (LineKind.ofLine (Text.trim raw)) := by
  have hplace : r.site.place = Place.ofMode r.mode := rfl
  have hdocPlace : Place.ofMode r.mode ≠ .docString := by
    cases hmode : r.mode with
    | docString => exact absurd hmode hdoc
    | _ => simp [Place.ofMode]
  have hskipping : r.site.skipping = decide (r.leaveNarrative.mode = .examples) := by
    rw [mode_leaveNarrative hdoc]
    rfl
  unfold role Site.role Mode.roleOf
  rw [hplace, placeRole_of_outside hdoc hfree, Mode.passes_ofKind, hskipping]
  simp [hdocPlace, and_comm]

/-! ### What is gathered -/

theorem gathered_leaveNarrative : r.leaveNarrative.gathered = r.gathered := by
  unfold leaveNarrative
  split <;> rfl

/-- A line outside gives what its role gives. -/
theorem gathered_readsOutside (h : ReadsOutside reg line raw text r kind r' remark) :
    r'.gathered = r.gathered.add reg { line, role := r.mode.roleOf kind } := by
  have hnone (role : Role) (h : role = .blank ∨ role = .comment ∨ role = .delimiter ∨
      (∃ name, role = .background name) ∨ (∃ name, role = .scenario name) ∨ role = .stray) :
      r.gathered.add reg { line, role } = r.gathered := by
    rcases h with rfl | rfl | rfl | ⟨name, rfl⟩ | ⟨name, rfl⟩ | rfl <;>
      exact Gathered.add_of_none rfl rfl rfl rfl
  cases h with
  | blank =>
    rw [Mode.roleOf_of_passes rfl, Role.ofKind, hnone _ (by simp)]
    exact gathered_endBackground
  | comment => rw [Mode.roleOf_of_passes rfl, Role.ofKind, hnone _ (by simp)]
  | beginDocString hmode =>
    rw [Mode.roleOf_of_ne hmode, Role.ofKind, hnone _ (by simp)]
    rfl
  | @feature name hname =>
    rw [Mode.roleOf_of_passes rfl]
    unfold Reading.gathered Gathered.add
    simp [Role.ofKind, Entry.featureName?, Entry.narrative?, Entry.missing?, Entry.ambiguous?]
  | background hclosed hopen =>
    rw [Mode.roleOf_of_passes rfl, Role.ofKind, hnone _ (by simp)]
    rfl
  | scenario =>
    rw [Mode.roleOf_of_passes rfl, Role.ofKind, hnone _ (by simp)]
    exact gathered_endBackground
  | step hmode =>
    rw [Mode.roleOf_of_ne hmode]
    exact gathered_step ..
  | conjunction hkeyword =>
    rw [Mode.roleOf_of_ne (ne_examples_of_keyword? hkeyword)]
    exact gathered_step ..
  | examples hmode =>
    rw [Mode.roleOf_of_ne hmode, Role.ofKind, hnone _ (by simp)]
    rfl
  | refused hmode hkind =>
    rw [hmode, Mode.roleOf_examples hkind, hnone _ (by simp)]
    rfl

/-- **A line gives what its role gives.** -/
theorem gathered_reads (h : Reads reg line raw r r' remark) :
    r'.gathered = r.gathered.add reg { line, role := r.role raw } := by
  cases h with
  | endDocString hmode hkind =>
    rw [role_of_docString hmode, Place.role_docString hkind, Gathered.add_of_none rfl rfl rfl rfl]
    exact gathered_endDocString
  | verbatim hmode hkind =>
    rw [role_of_docString hmode, Place.role_docString_of_ne hkind,
      Gathered.add_of_none rfl rfl rfl rfl]
    rfl
  | narrative hmode hkind =>
    rw [role_of_narrative hmode hkind]
    unfold Reading.gathered Gathered.add
    simp [Entry.featureName?, Entry.narrative?, Entry.missing?, Entry.ambiguous?]
  | narrativeComment hmode hkind =>
    rw [role_of_narrativeComment hmode hkind, Gathered.add_of_none rfl rfl rfl rfl]
  | outside hdoc hfree hread =>
    rw [role_of_outside hdoc hfree, gathered_readsOutside hread, gathered_leaveNarrative]

/-! ### How steps are divided -/

theorem inBackground_endDocString (h : inBackground r.modes) :
    inBackground r.endDocString.modes := by
  rw [modes_endDocString]
  unfold modesAfterDocString
  split
  next hmode => exact inBackground_tail h (by rw [hmode]; simp)
  next => exact h

theorem division_leaveNarrative (h : Division reg r.modes es r.written) :
    Division reg r.leaveNarrative.modes es r.leaveNarrative.written := by
  by_cases hmode : r.mode = .narrative
  · rw [leaveNarrative_of_mode hmode]
    exact h.mono fun hin => inBackground_tail hin (by rw [hmode]; simp)
  · rw [leaveNarrative_of_mode_ne hmode]
    exact h

/-- A step goes to the items if it is found. -/
theorem division_step (h : Division reg r.modes es r.written) (keyword : Keyword)
    (conjunction : Bool) :
    Division reg (r.step reg line keyword conjunction text).1.modes
      (es ++ [{ line, role := .step (if conjunction then none else some keyword) text }])
      (r.step reg line keyword conjunction text).1.written := by
  rw [written_step, modes_step]
  refine h.append ?_ rfl rfl
  intro hin
  unfold modesAfterStep
  split
  next hkeyword =>
    -- the step continues a run, which it takes the place of
    refine inBackground_tail hin fun hmode => ?_
    rw [hmode] at hkeyword
    exact absurd hkeyword (by simp [Mode.keyword?])
  next => exact hin

/-- A line outside is divided by its role. -/
theorem division_readsOutside (h : Division reg r.modes es r.written)
    (hread : ReadsOutside reg line raw text r kind r' remark) :
    Division reg r'.modes (es ++ [{ line, role := r.mode.roleOf kind }]) r'.written := by
  cases hread with
  | blank =>
    have hended : Division reg r.endBackground.modes _ _ :=
      h.ending (e := { line, role := .blank }) rfl
    rw [Mode.roleOf_of_passes rfl]
    exact Written.add_nil r.endBackground.written ▸ hended
  | comment =>
    rw [Mode.roleOf_of_passes rfl]
    exact h.append_unbound id rfl rfl rfl
  | beginDocString hmode =>
    rw [Mode.roleOf_of_ne hmode]
    exact h.append_unbound id rfl rfl rfl
  | feature hname =>
    rw [Mode.roleOf_of_passes rfl]
    exact h.append_unbound id rfl rfl rfl
  | @background name hclosed hopen =>
    have hnone : r.written.background = none := by
      unfold written
      rw [hclosed]
      rfl
    have hbegin : Division reg (.background :: r.modes)
        (es ++ [{ line, role := .background name }]) _ := h.begin hnone hopen
    have hlength : r.written.items.length = r.items.length := List.length_map ..
    rw [hlength] at hbegin
    rw [Mode.roleOf_of_passes rfl, written_mark]
    exact hbegin
  | @scenario name =>
    rw [Mode.roleOf_of_passes rfl, written_mark]
    exact h.ending rfl
  | step hmode =>
    rw [Mode.roleOf_of_ne hmode]
    exact division_step h _ false
  | conjunction hkeyword =>
    rw [Mode.roleOf_of_ne (ne_examples_of_keyword? hkeyword)]
    exact division_step h _ true
  | examples hmode =>
    rw [Mode.roleOf_of_ne hmode]
    exact h.append_unbound id rfl rfl rfl
  | refused hmode hkind =>
    rw [hmode, Mode.roleOf_examples hkind]
    exact h.append_unbound id rfl rfl rfl

/-- **A line is divided by its role.** -/
theorem division_reads (h : Division reg r.modes es r.written)
    (hread : Reads reg line raw r r' remark) :
    Division reg r'.modes (es ++ [{ line, role := r.role raw }]) r'.written := by
  cases hread with
  | endDocString hmode hkind =>
    rw [role_of_docString hmode, Place.role_docString hkind, written_endDocString]
    exact h.append_unbound inBackground_endDocString rfl rfl rfl
  | verbatim hmode hkind =>
    rw [role_of_docString hmode, Place.role_docString_of_ne hkind]
    exact h.append_unbound id rfl rfl rfl
  | narrative hmode hkind =>
    rw [role_of_narrative hmode hkind]
    exact h.append_unbound id rfl rfl rfl
  | narrativeComment hmode hkind =>
    rw [role_of_narrativeComment hmode hkind]
    exact h.append_unbound id rfl rfl rfl
  | outside hdoc hfree hread =>
    rw [role_of_outside hdoc hfree]
    exact division_readsOutside (division_leaveNarrative h) hread

/-! ### What is unsupported, and what is remarked -/

/-- The reading and the remark tell of the line what its role tells. Listing it is left to do. -/
structure Tells (reg : Registry W) (r r' : Reading) (remark : Option Remark) (l : TextLine) :
    Prop where
  unsupported : r'.unsupported = (r.unsupported <|> l.unsupported?)
  remark : remark = l.remark? reg
  listing : r'.listing = r.listing

theorem listing_endBackground : r.endBackground.listing = r.listing := by
  obtain ⟨_, _, _, _, _, h⟩ := r.endBackground_eq_with
  rw [h]

theorem listing_endDocString : r.endDocString.listing = r.listing := by
  obtain ⟨_, _, _, _, h⟩ := r.endDocString_eq_with
  rw [h]

theorem listing_close (r : Reading) : r.close.listing = r.listing := by
  unfold close
  rw [listing_endBackground]
  split
  next => exact listing_endDocString
  next => rfl

/-- A line that is neither a step nor unsupported. -/
theorem tells_of_eq {l : TextLine} (hrole : l.unsupported? = none ∧ l.remark? reg = none)
    (hunsupported : r'.unsupported = r.unsupported) (hlisting : r'.listing = r.listing) :
    Tells reg r r' none l := by
  refine ⟨?_, hrole.2.symm, hlisting⟩
  rw [hunsupported, hrole.1]
  cases r.unsupported <;> rfl

theorem tells_step (keyword : Keyword) (conjunction : Bool) :
    Tells reg r (r.step reg line keyword conjunction text).1
      (some (r.step reg line keyword conjunction text).2)
      { line, role := .step (if conjunction then none else some keyword) text, raw } := by
  refine ⟨?_, ?_, ?_⟩
  · rw [unsupported_step]
    simp [TextLine.unsupported?]
  · unfold step
    cases hfind : reg.find text with
    | ok found => simp [TextLine.remark?, hfind]
    | error e => cases e <;> simp [TextLine.remark?, hfind]
  · cases hfind : reg.find text with
    | ok found => rw [step_of_ok hfind]
    | error e =>
      cases e with
      | notFound => rw [step_of_notFound hfind]
      | ambiguous e => rw [step_of_ambiguous hfind]

theorem tells_refuse {q : Reading} (hunsupported : q.unsupported = r.unsupported)
    (hlisting : q.listing = r.listing) :
    Tells reg r (q.refuse line (Text.trim raw)).1 (some (q.refuse line (Text.trim raw)).2)
      { line, role := .stray, raw } := by
  refine ⟨?_, rfl, hlisting⟩
  show (q.unsupported <|> _) = _
  rw [hunsupported]
  rfl

theorem tells_readsOutside (h : ReadsOutside reg line raw (Text.trim raw) r kind r' remark) :
    Tells reg r r' remark { line, role := r.mode.roleOf kind, raw } := by
  cases h with
  | blank =>
    rw [Mode.roleOf_of_passes rfl]
    exact tells_of_eq ⟨rfl, rfl⟩ unsupported_endBackground listing_endBackground
  | comment =>
    rw [Mode.roleOf_of_passes rfl]
    exact tells_of_eq ⟨rfl, rfl⟩ rfl rfl
  | beginDocString hmode =>
    rw [Mode.roleOf_of_ne hmode]
    exact tells_of_eq ⟨rfl, rfl⟩ rfl rfl
  | feature hname =>
    rw [Mode.roleOf_of_passes rfl]
    exact tells_of_eq ⟨rfl, rfl⟩ rfl rfl
  | background hclosed hopen =>
    rw [Mode.roleOf_of_passes rfl]
    exact tells_of_eq ⟨rfl, rfl⟩ rfl rfl
  | scenario =>
    rw [Mode.roleOf_of_passes rfl]
    exact tells_of_eq ⟨rfl, rfl⟩ unsupported_endBackground listing_endBackground
  | step hmode =>
    rw [Mode.roleOf_of_ne hmode]
    exact tells_step _ false
  | conjunction hkeyword =>
    rw [Mode.roleOf_of_ne (ne_examples_of_keyword? hkeyword)]
    exact tells_step _ true
  | examples hmode =>
    rw [Mode.roleOf_of_ne hmode]
    exact tells_refuse rfl rfl
  | refused hmode hkind =>
    rw [hmode, Mode.roleOf_examples hkind]
    exact tells_refuse rfl rfl

/-- **What is said of a line is said by its role.** -/
theorem tells_reads (h : Reads reg line raw r r' remark) :
    Tells reg r r' remark { line, role := r.role raw, raw } := by
  cases h with
  | endDocString hmode hkind =>
    rw [role_of_docString hmode, Place.role_docString hkind]
    exact tells_of_eq ⟨rfl, rfl⟩ unsupported_endDocString listing_endDocString
  | verbatim hmode hkind =>
    rw [role_of_docString hmode, Place.role_docString_of_ne hkind]
    exact tells_of_eq ⟨rfl, rfl⟩ rfl rfl
  | narrative hmode hkind =>
    rw [role_of_narrative hmode hkind]
    exact tells_of_eq ⟨rfl, rfl⟩ rfl rfl
  | narrativeComment hmode hkind =>
    rw [role_of_narrativeComment hmode hkind]
    exact tells_of_eq ⟨rfl, rfl⟩ rfl rfl
  | outside hdoc hfree hread =>
    have hlisting : r.leaveNarrative.listing = r.listing := by
      unfold leaveNarrative
      split <;> rfl
    have htells := tells_readsOutside hread
    rw [role_of_outside hdoc hfree]
    have hunsupported := htells.unsupported
    rw [unsupported_leaveNarrative] at hunsupported
    exact ⟨hunsupported, htells.remark, htells.listing.trans hlisting⟩

end Reading

end Gherkin
