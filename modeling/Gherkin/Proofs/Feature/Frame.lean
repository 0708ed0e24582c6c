import Gherkin.Proofs.Feature.Gathered

/-!
# Reading with other steps registered

Which steps are registered decides what is kept of a step, and nothing else: not which line is read
in which way, nor whether it is read at all. All that decides this is the frame of a reading, and
what becomes of the frame does not depend on what is kept of steps.

So readings of one text with two registries, whatever these are, go in lockstep: as long as the
frames are the same, a line that the one reads is read by the other, and the frames are the same
afterwards (`reads_of_frame_eq`). The one comes to the end of the lines if the other does
(`takeLines_of_frame_eq`), and otherwise both stop at the same line for the same fault
(`takeLines_error_of_frame_eq`).
-/

namespace Gherkin

namespace Reading

/-- What decides how a line is read, and whether the lines so far make a feature at all. -/
structure Frame where
  modes : List Mode
  /-- Whether there is a background. -/
  hasBackground : Bool
  /-- Whether a background is being read. -/
  inBackground : Bool
  unsupported : Option (Nat × Text)
  deriving DecidableEq, Repr

/-- The frame of a reading. -/
def frame (r : Reading) : Frame :=
  { modes := r.modes
    hasBackground := r.background.isSome
    inBackground := r.openBackground.isSome
    unsupported := r.unsupported }

variable {W V : Type} {reg : Registry W} {reg' : Registry V} {r q r' : Reading} {line : Nat}
  {raw text : Text} {kind : LineKind} {remark : Option Remark}

/-! ## What becomes of the frame -/

theorem frame_attach (r : Reading) (target : Option StepPlace) (doc : Text) :
    (r.attach target doc).frame = r.frame := by
  match target with
  | none => rfl
  | some (.item i) => rfl
  | some (.background i) =>
    unfold attach frame
    dsimp only
    rw [Option.isSome_map]

theorem frame_endDocString (r : Reading) :
    r.endDocString.frame = { r.frame with modes := r.modesAfterDocString } := by
  cases hblock : r.docString with
  | none =>
    rw [endDocString_of_none hblock]
    rfl
  | some block =>
    rw [endDocString_of_some hblock]
    exact frame_attach { r with modes := r.modesAfterDocString, docString := none } block.target
      block.text

/-- What ending a background makes of the frame. -/
def Frame.endBackground (f : Frame) : Frame :=
  match aroundBackground? f.modes, f.inBackground with
  | some outer, true => { f with modes := outer, inBackground := false, hasBackground := true }
  | _, _ => f

theorem frame_endBackground (r : Reading) : r.endBackground.frame = r.frame.endBackground := by
  have hmodes : r.frame.modes = r.modes := rfl
  have hin : r.frame.inBackground = r.openBackground.isSome := rfl
  unfold Frame.endBackground
  rw [hmodes, hin]
  cases houter : aroundBackground? r.modes with
  | none => rw [endBackground_of_not_around houter]
  | some outer =>
    cases hopen : r.openBackground with
    | none => rw [endBackground_of_none hopen]; rfl
    | some start => rw [endBackground_of_some houter hopen]; rfl

/-- A step that is found and one that is not leave the same frame. -/
theorem frame_step (reg : Registry W) (r : Reading) (line : Nat) (keyword : Keyword)
    (conjunction : Bool) (text : Text) :
    (r.step reg line keyword conjunction text).1.frame
      = { r.frame with modes := r.modesAfterStep keyword } := by
  cases hfind : reg.find text with
  | ok found => rw [step_of_ok hfind]; rfl
  | error e =>
    cases e with
    | notFound => rw [step_of_notFound hfind]; rfl
    | ambiguous e => rw [step_of_ambiguous hfind]; rfl

/-! ## Lockstep -/

theorem modes_of_frame_eq (h : r.frame = q.frame) : r.modes = q.modes := congrArg Frame.modes h

theorem mode_of_frame_eq (h : r.frame = q.frame) : r.mode = q.mode :=
  congrArg (fun f : Frame => f.modes.headD .declaration) h

theorem unsupported_of_frame_eq (h : r.frame = q.frame) : r.unsupported = q.unsupported :=
  congrArg Frame.unsupported h

theorem frame_leaveNarrative (h : r.frame = q.frame) :
    r.leaveNarrative.frame = q.leaveNarrative.frame := by
  by_cases hmode : r.mode = .narrative
  · rw [leaveNarrative_of_mode hmode, leaveNarrative_of_mode (mode_of_frame_eq h ▸ hmode)]
    exact congrArg (fun f : Frame => { f with modes := f.modes.tail }) h
  · rw [leaveNarrative_of_mode_ne hmode, leaveNarrative_of_mode_ne (mode_of_frame_eq h ▸ hmode)]
    exact h

/-- Steps leave the same frame, whatever they are found with. -/
theorem frame_step_eq (h : r.frame = q.frame) (keyword : Keyword) (conjunction : Bool) :
    (r.step reg line keyword conjunction text).1.frame
      = (q.step reg' line keyword conjunction text).1.frame := by
  have hmodes : r.modesAfterStep keyword = q.modesAfterStep keyword := by
    unfold modesAfterStep
    rw [mode_of_frame_eq h, modes_of_frame_eq h]
  rw [frame_step, frame_step, h, hmodes]

/-- A line outside doc strings and free text is read with any steps registered. -/
theorem readsOutside_of_frame_eq (reg' : Registry V) (h : r.frame = q.frame)
    (hread : ReadsOutside reg line raw text r kind r' remark) :
    ∃ q' remark', ReadsOutside reg' line raw text q kind q' remark' ∧ r'.frame = q'.frame := by
  have hmode : r.mode = q.mode := mode_of_frame_eq h
  have hended : r.endBackground.frame = q.endBackground.frame := by
    rw [frame_endBackground, frame_endBackground, h]
  cases hread with
  | blank => exact ⟨_, _, .blank, hended⟩
  | comment => exact ⟨_, _, .comment, h⟩
  | beginDocString hexamples =>
    exact ⟨_, _, .beginDocString (hmode ▸ hexamples),
      congrArg (fun f : Frame => { f with modes := .docString :: f.modes }) h⟩
  | feature hname =>
    exact ⟨_, _, .feature hname,
      congrArg (fun f : Frame => { f with modes := .narrative :: f.modes }) h⟩
  | background hclosed hopen =>
    have hclosed' : q.background = none := by
      have hnone : q.background.isSome = false :=
        (congrArg Frame.hasBackground h).symm.trans (congrArg Option.isSome hclosed)
      simpa using hnone
    have hopen' : q.openBackground = none := by
      have hnone : q.openBackground.isSome = false :=
        (congrArg Frame.inBackground h).symm.trans (congrArg Option.isSome hopen)
      simpa using hnone
    exact ⟨_, _, .background hclosed' hopen', congrArg
      (fun f : Frame => { f with modes := .background :: f.modes, inBackground := true }) h⟩
  | scenario =>
    exact ⟨_, _, .scenario,
      congrArg (fun f : Frame => { f with modes := .declaration :: f.modes }) hended⟩
  | step hexamples => exact ⟨_, _, .step (hmode ▸ hexamples), frame_step_eq h _ _⟩
  | conjunction hkeyword => exact ⟨_, _, .conjunction (hmode ▸ hkeyword), frame_step_eq h _ _⟩
  | examples hexamples =>
    exact ⟨_, _, .examples (hmode ▸ hexamples), congrArg (fun f : Frame =>
      { f with
        modes := .examples :: f.modes
        unsupported := f.unsupported <|> some (line, text) }) h⟩
  | refused hexamples hkind =>
    exact ⟨_, _, .refused (hmode ▸ hexamples) hkind, congrArg (fun f : Frame =>
      { f with unsupported := f.unsupported <|> some (line, text) }) h⟩

/-- **A line that is read is read with any steps registered**, and leaves the same frame. -/
theorem reads_of_frame_eq (reg' : Registry V) (h : r.frame = q.frame)
    (hread : Reads reg line raw r r' remark) :
    ∃ q' remark', Reads reg' line raw q q' remark' ∧ r'.frame = q'.frame := by
  have hmode : r.mode = q.mode := mode_of_frame_eq h
  cases hread with
  | endDocString hdoc hkind =>
    refine ⟨_, _, .endDocString (hmode ▸ hdoc) hkind, ?_⟩
    have hmodes : r.modesAfterDocString = q.modesAfterDocString := by
      unfold modesAfterDocString
      rw [hmode, modes_of_frame_eq h]
    rw [frame_endDocString, frame_endDocString, h, hmodes]
  | verbatim hdoc hkind => exact ⟨_, _, .verbatim (hmode ▸ hdoc) hkind, h⟩
  | narrative hfree hkind => exact ⟨_, _, .narrative (hmode ▸ hfree) hkind, h⟩
  | narrativeComment hfree hkind => exact ⟨_, _, .narrativeComment (hmode ▸ hfree) hkind, h⟩
  | outside hdoc hfree hread =>
    obtain ⟨q', remark', hread', hframe⟩ :=
      readsOutside_of_frame_eq reg' (frame_leaveNarrative h) hread
    exact ⟨q', remark', .outside (hmode ▸ hdoc) (hmode ▸ hfree) hread', hframe⟩

/-- **Lines that are read are read with any steps registered**, and leave the same frame. -/
theorem takeLines_of_frame_eq (reg' : Registry V) {lines : List Text} (h : r.frame = q.frame)
    (hlines : takeLines reg r line lines = .ok r') :
    ∃ q', takeLines reg' q line lines = .ok q' ∧ r'.frame = q'.frame := by
  induction lines generalizing r q line with
  | nil =>
    obtain rfl := Except.ok.inj hlines
    exact ⟨q, rfl, h⟩
  | cons raw rest ih =>
    obtain ⟨r₁, htake, hrest⟩ := takeLines_cons_eq_ok_iff.mp hlines
    obtain ⟨r₂, remark, hread, rfl⟩ := take_eq_ok_iff.mp htake
    obtain ⟨q₂, remark', hread', hframe⟩ := reads_of_frame_eq reg' h hread
    -- what is listed of the line is not in the frame
    have hlisted : (r₂.list line raw remark).frame = (q₂.list line raw remark').frame := hframe
    obtain ⟨q', hq', hframe'⟩ := ih hlisted hrest
    exact ⟨q', takeLines_cons_eq_ok_iff.mpr
      ⟨_, take_eq_ok_iff.mpr ⟨q₂, remark', hread', rfl⟩, hq'⟩, hframe'⟩

/-! ## Lines that are not read -/

/-- What is wrong with a line is wrong with it in every reading of the same frame. -/
theorem Faults.of_frame_eq {fault : FeatureFault} (h : r.frame = q.frame)
    (hfaults : Faults line raw r fault) : Faults line raw q fault := by
  obtain ⟨hdoc, hfree, houtside⟩ := hfaults
  have hmode : r.mode = q.mode := mode_of_frame_eq h
  refine ⟨hmode ▸ hdoc, hmode ▸ hfree, ?_⟩
  have hleft : r.leaveNarrative.frame = q.leaveNarrative.frame := frame_leaveNarrative h
  have hleftMode : r.leaveNarrative.mode = q.leaveNarrative.mode := mode_of_frame_eq hleft
  generalize LineKind.ofLine (Text.trim raw) = kind at houtside
  cases houtside with
  | unnamedFeature => exact .unnamedFeature
  | secondBackground hsecond =>
    have hhas : r.leaveNarrative.background.isSome = q.leaveNarrative.background.isSome :=
      congrArg Frame.hasBackground hleft
    have hin : r.leaveNarrative.openBackground.isSome = q.leaveNarrative.openBackground.isSome :=
      congrArg Frame.inBackground hleft
    rw [hhas, hin] at hsecond
    exact .secondBackground hsecond
  | strayConjunction hexamples hkeyword =>
    exact .strayConjunction (hleftMode ▸ hexamples) (hleftMode ▸ hkeyword)
  | unknownLine hexamples => exact .unknownLine (hleftMode ▸ hexamples)

/-- **Reading stops at the same line for the same fault, with any steps registered.** -/
theorem takeLines_error_of_frame_eq (reg' : Registry V) {lines : List Text}
    {rejection : Rejection} (h : r.frame = q.frame)
    (hlines : takeLines reg r line lines = .error rejection) :
    ∃ listing, takeLines reg' q line lines = .error { fault := rejection.fault, listing } := by
  induction lines generalizing r q line with
  | nil => exact absurd hlines (by simp [takeLines])
  | cons raw rest ih =>
    rcases takeLines_cons_eq_error_iff.mp hlines with htake | ⟨r₁, htake, hrest⟩
    · obtain ⟨fault, hfaults, rfl⟩ := take_eq_error_iff.mp htake
      exact ⟨_, takeLines_cons_eq_error_iff.mpr
        (Or.inl (take_eq_error_iff.mpr ⟨fault, hfaults.of_frame_eq h, rfl⟩))⟩
    · obtain ⟨r₂, remark, hread, rfl⟩ := take_eq_ok_iff.mp htake
      obtain ⟨q₂, remark', hread', hframe⟩ := reads_of_frame_eq reg' h hread
      have hlisted : (r₂.list line raw remark).frame = (q₂.list line raw remark').frame := hframe
      obtain ⟨listing, hstops⟩ := ih hlisted hrest
      exact ⟨listing, takeLines_cons_eq_error_iff.mpr
        (Or.inr ⟨_, take_eq_ok_iff.mpr ⟨q₂, remark', hread', rfl⟩, hstops⟩)⟩

end Reading

end Gherkin
