import Gherkin.Proofs.Feature.ByRole

/-!
# A reading covers the lines it has read

`Covers reg p es r` says all that the entries `es` of the lines read so far tell about the reading
`r`, and that the next line stands at the place `p`. It holds at the beginning, every line that is
read keeps it, and so it holds at the end of the text (`takeLines_covers`).

Sections of examples are left out: a line of one makes the feature unsupported for good
(`unsupported_of_takeLines`), so a reading that is not unsupported has seen none.
-/

namespace Gherkin

/-- The modes make the place: only the innermost may be a doc string or the narrative, and none is
a section of examples. -/
structure Standing (p : Place) (modes : List Mode) : Prop where
  innermost : Place.ofMode (modes.headD .declaration) = p
  below : ∀ m ∈ modes.tail, Place.ofMode m = .outside
  plain : .examples ∉ modes

namespace Standing

variable {p : Place} {m : Mode} {modes outer : List Mode}

/-- Outside doc strings and the narrative all modes are alike. -/
theorem outside_iff :
    Standing .outside modes ↔ ∀ m ∈ modes, Place.ofMode m = .outside ∧ m ≠ .examples := by
  constructor
  · rintro ⟨hinnermost, hbelow, hplain⟩ m hm
    refine ⟨?_, fun he => hplain (he ▸ hm)⟩
    cases modes with
    | nil => exact absurd hm (by simp)
    | cons first rest =>
      rcases List.mem_cons.mp hm with rfl | hrest
      · exact hinnermost
      · exact hbelow m hrest
  · intro h
    refine ⟨?_, fun m hm => (h m (List.mem_of_mem_tail hm)).1, fun he => (h _ he).2 rfl⟩
    cases modes with
    | nil => rfl
    | cons first rest => exact (h first (List.mem_cons_self ..)).1

/-- A mode that is entered makes its place. -/
theorem push (h : Standing .outside modes) (hp : Place.ofMode m = p) (hm : m ≠ .examples) :
    Standing p (m :: modes) := by
  refine ⟨hp, fun m' hm' => (outside_iff.mp h m' hm').1, ?_⟩
  rintro (_ | ⟨_, he⟩)
  · exact hm rfl
  · exact h.plain he

/-- Whatever the innermost mode is, it stands outside of it. -/
theorem pop (h : Standing p modes) : Standing .outside modes.tail :=
  outside_iff.mpr fun m hm =>
    ⟨h.below m hm, fun he => h.plain (List.mem_of_mem_tail (he ▸ hm))⟩

/-- Some of the modes stand outside if all do. -/
theorem mono (h : Standing .outside modes) (hsub : ∀ m ∈ outer, m ∈ modes) :
    Standing .outside outer :=
  outside_iff.mpr fun m hm => outside_iff.mp h m (hsub m hm)

section Reads

open Reading

variable {W : Type} {reg : Registry W} {r r' : Reading} {line : Nat} {raw text : Text}
  {kind : LineKind} {remark : Option Remark}

/-- Without sections of examples a place is all that the role of a line depends on. -/
theorem role_eq (h : Standing p r.modes) : r.role raw = p.role raw := by
  have houter : outerMode r.modes ≠ .examples := by
    intro he
    have hmem {modes : List Mode} (hm : modes.headD .declaration = .examples) :
        .examples ∈ modes := by
      cases modes with
      | nil => exact absurd hm (by simp)
      | cons first rest => exact List.mem_cons.mpr (Or.inl hm.symm)
    unfold outerMode at he
    split at he
    next => exact h.plain (hmem he)
    next => exact h.plain (List.mem_of_mem_tail (hmem he))
  have hsite : r.site.skipping = false := decide_eq_false houter
  have hplace : r.site.place = p := h.innermost
  unfold Reading.role Site.role
  rw [hsite, hplace, if_neg (by simp)]

/-- Leaving the narrative, a reading stands outside. -/
theorem leaveNarrative (h : Standing p r.modes) (hdoc : r.mode ≠ .docString) :
    Standing .outside r.leaveNarrative.modes := by
  by_cases hmode : r.mode = .narrative
  · rw [leaveNarrative_of_mode hmode]
    exact h.pop
  · rw [leaveNarrative_of_mode_ne hmode]
    -- there is nothing to leave, so the line stands outside already
    have houtside : p = .outside := h.innermost.symm.trans (place_of_outside hdoc hmode)
    exact houtside ▸ h

/-- A line outside doc strings and free text makes the next place. -/
theorem readsOutside (h : Standing .outside r.modes)
    (hread : ReadsOutside reg line raw text r kind r' remark)
    (hsupported : r'.unsupported = none) :
    Standing (Place.outside.next (Role.ofKind kind)) r'.modes := by
  have hended : Standing .outside r.endBackground.modes :=
    h.mono fun m => mem_modes_of_mem_endBackground
  have hstep (keyword : Keyword) : Standing .outside (r.modesAfterStep keyword) := by
    unfold modesAfterStep
    split
    next => exact h.pop.push rfl (by simp)
    next => exact h.push rfl (by simp)
  cases hread with
  | blank => exact hended
  | comment => exact h
  | beginDocString hmode => exact h.push rfl (by simp)
  | feature hname => exact h.push rfl (by simp)
  | background hclosed hopen => exact h.push rfl (by simp)
  | scenario => exact hended.push rfl (by simp)
  | step hmode =>
    rw [modes_step]
    exact hstep _
  | conjunction hkeyword =>
    rw [modes_step]
    exact hstep _
  -- a section of examples would have made the feature unsupported
  | examples hmode => exact absurd hsupported (by simp [refuse])
  | refused hmode hkind => exact absurd hsupported (by simp [refuse])

/-- A line that is read makes the next place. -/
theorem reads (h : Standing p r.modes) (hread : Reads reg line raw r r' remark)
    (hsupported : r'.unsupported = none) :
    Standing (p.next (p.role raw)) r'.modes := by
  have hplace : Place.ofMode r.mode = p := h.innermost
  cases hread with
  | endDocString hmode hkind =>
    obtain rfl : .docString = p := by rw [← hplace, hmode]; rfl
    have hmodes : r.endDocString.modes = r.modes.tail := modes_endDocString.trans (if_pos hmode)
    rw [Place.role_docString hkind, hmodes]
    exact h.pop
  | verbatim hmode hkind =>
    obtain rfl : .docString = p := by rw [← hplace, hmode]; rfl
    rw [Place.role_docString_of_ne hkind]
    exact h
  | narrative hmode hkind =>
    obtain rfl : .narrative = p := by rw [← hplace, hmode]; rfl
    rw [Place.role_narrative hkind]
    exact h
  | narrativeComment hmode hkind =>
    obtain rfl : .narrative = p := by rw [← hplace, hmode]; rfl
    -- a comment leaves the narrative where it is
    rw [Place.role_narrative_outside (by rw [hkind]; rfl), Place.role_outside, hkind]
    exact h
  | outside hdoc hfree hread =>
    have hstanding := (h.leaveNarrative hdoc).readsOutside hread hsupported
    rw [← hplace, placeRole_of_outside hdoc hfree]
    by_cases hmode : r.mode = .narrative
    · rw [hmode]
      exact (Place.next_narrative (hfree hmode).2).symm ▸ hstanding
    · rw [place_of_outside hdoc hmode]
      exact hstanding

end Reads

end Standing

/-- **What the lines read so far tell about a reading**, and where the next line stands. -/
structure Covers {W : Type} (reg : Registry W) (p : Place) (es : List Entry) (r : Reading) :
    Prop where
  standing : Standing p r.modes
  supported : r.unsupported = none
  noStray : ∀ e ∈ es, e.role ≠ .stray
  gathered : r.gathered = .ofEntries reg es
  division : Division reg r.modes es r.written

namespace Covers

open Reading

variable {W : Type} {reg : Registry W} {r r' : Reading} {p p' : Place} {es : List Entry}
  {e : Entry} {line : Nat} {raw text : Text} {kind : LineKind} {remark : Option Remark}

/-- Before the first line. -/
theorem initial : Covers reg .outside [] {} where
  standing := ⟨rfl, by simp, by simp⟩
  supported := rfl
  noStray := by simp
  gathered := rfl
  division := .absent (by simp)

/-- The listing tells nothing. -/
theorem list (h : Covers reg p es r) : Covers reg p es (r.list line raw remark) :=
  ⟨h.standing, h.supported, h.noStray, h.gathered, h.division⟩

/-- **Every line that is read is covered.** -/
theorem reads (h : Covers reg p es r) (hread : Reads reg line raw r r' remark)
    (hsupported : r'.unsupported = none) :
    Covers reg (p.next (p.role raw)) (es ++ [{ line, role := p.role raw }]) r' := by
  have hrole : r.role raw = p.role raw := h.standing.role_eq
  have hgathered := gathered_reads hread
  have hdivision := division_reads h.division hread
  have htells := (tells_reads hread).unsupported
  rw [hrole] at hgathered hdivision htells
  have hstray : p.role raw ≠ .stray := by
    intro hstray
    rw [hsupported, h.supported, hstray] at htells
    exact absurd htells (by simp [TextLine.unsupported?])
  exact
    { standing := h.standing.reads hread hsupported
      supported := hsupported
      noStray := List.forall_mem_append.mpr ⟨h.noStray, List.forall_mem_singleton.mpr hstray⟩
      gathered := by rw [hgathered, h.gathered, Gathered.ofEntries_concat]
      division := hdivision }

end Covers

namespace Reading

variable {W : Type} {reg : Registry W} {r r' : Reading} {p : Place} {es : List Entry}
  {line : Nat} {raw : Text} {remark : Option Remark}

/-- A feature that has become unsupported stays so. -/
theorem unsupported_of_reads (h : Reads reg line raw r r' remark)
    (hsupported : r'.unsupported = none) : r.unsupported = none := by
  have htells := (tells_reads h).unsupported
  rw [hsupported] at htells
  cases hr : r.unsupported with
  | none => rfl
  | some refused =>
    rw [hr] at htells
    exact absurd htells (by simp)

theorem unsupported_of_takeLines {lines : List Text}
    (h : takeLines reg r line lines = .ok r') (hsupported : r'.unsupported = none) :
    r.unsupported = none := by
  induction lines generalizing r line with
  | nil =>
    rw [Except.ok.inj h]
    exact hsupported
  | cons raw rest ih =>
    obtain ⟨r₁, htake, hrest⟩ := takeLines_cons_eq_ok_iff.mp h
    obtain ⟨r₂, remark, hread, rfl⟩ := take_eq_ok_iff.mp htake
    have hlisted : (r₂.list line raw remark).unsupported = none := ih hrest
    exact unsupported_of_reads hread hlisted

/-- **A reading that is not unsupported covers all lines it has read.** -/
theorem takeLines_covers {lines : List Text} (h : takeLines reg r line lines = .ok r')
    (hsupported : r'.unsupported = none) (hcovers : Covers reg p es r) :
    ∃ p', Covers reg p' (es ++ Entry.ofLines p line lines) r' := by
  induction lines generalizing r line p es with
  | nil =>
    rw [← Except.ok.inj h, Entry.ofLines, List.append_nil]
    exact ⟨p, hcovers⟩
  | cons raw rest ih =>
    obtain ⟨r₁, htake, hrest⟩ := takeLines_cons_eq_ok_iff.mp h
    obtain ⟨r₂, remark, hread, rfl⟩ := take_eq_ok_iff.mp htake
    -- what is unsupported stays so, and at the end nothing is
    have hlisted : (r₂.list line raw remark).unsupported = none :=
      unsupported_of_takeLines hrest hsupported
    obtain ⟨p', hp'⟩ := ih hrest (hcovers.reads hread hlisted).list
    refine ⟨p', ?_⟩
    rw [Entry.ofLines, List.append_cons]
    exact hp'

end Reading

end Gherkin
