import Gherkin.Feature.Reading
import Gherkin.Proofs.Feature.LineKind

/-!
# What reading a line can do

`Reading.readLine` is a nest of matches on the mode and the kind of the line. Here it is told once
as a relation, with one constructor for each thing that reading a line can do, each with all that
has to hold for it and the whole reading afterwards. Everything that is proved of runs is proved by
cases on this relation; nothing after this file unfolds `readLine`.

There are two layers. `Reads` decides whether the line goes to the doc string or the narrative that
is being read; every other line is read by `ReadsOutside`, from the reading that has left the
narrative. Lines that make no sense where they stand are told in the same way by `Faults` and
`FaultsOutside`, which do not depend on the registered steps.

* `endDocString_of_some`, `endBackground_of_some`, `step_of_ok` and its likes — what the operations
  do that the relations name.
* `readOutside_eq_ok_iff`, `readLine_eq_ok_iff` — the relations are exact: a line is read with
  a result if and only if they say so.
* `readOutside_eq_error_iff`, `readLine_eq_error_iff` — so are those of lines that are not read.
* `takeLines_append` — reading lines in two goes.
-/

namespace Gherkin

namespace Reading

variable {W : Type} {reg : Registry W} {r r' : Reading} {line : Nat} {raw text : Text}
  {kind : LineKind} {remark : Option Remark}

/-! ## What the operations do -/

/-- The modes once a doc string has ended, if one was being read. -/
def modesAfterDocString (r : Reading) : List Mode :=
  if r.mode = .docString then r.modes.tail else r.modes

/-- Where no doc string is being read there is no text to put anywhere. -/
theorem endDocString_of_none (h : r.docString = none) :
    r.endDocString = { r with modes := r.modesAfterDocString } := by
  unfold endDocString modesAfterDocString
  by_cases hmode : r.mode = .docString
  · rw [if_pos hmode, if_pos hmode]
    dsimp only
    split
    next => rfl
    next block hblock => exact absurd (h.symm.trans hblock) (by simp)
  · rw [if_neg hmode, if_neg hmode]
    dsimp only
    split
    next => rfl
    next block hblock => exact absurd (h.symm.trans hblock) (by simp)

/-- The text of a doc string that ends is put into the step it belongs to. -/
theorem endDocString_of_some {block : DocString StepPlace} (h : r.docString = some block) :
    r.endDocString
      = { ({ r with modes := r.modesAfterDocString, docString := none } : Reading).attach
            block.target block.text with lastStep := none } := by
  unfold endDocString modesAfterDocString
  by_cases hmode : r.mode = .docString
  · rw [if_pos hmode, if_pos hmode]
    dsimp only
    rw [h]
  · rw [if_neg hmode, if_neg hmode]
    dsimp only
    rw [h]

/-- Nothing ends where no background is open. -/
theorem endBackground_of_none (h : r.openBackground = none) : r.endBackground = r := by
  unfold endBackground
  rw [h]
  split
  next hopen => exact absurd hopen (by simp)
  next => rfl

/-- Nor does anything end where a scenario began inside the background. -/
theorem endBackground_of_not_around (h : aroundBackground? r.modes = none) :
    r.endBackground = r := by
  unfold endBackground
  rw [h]

/-- An open background is cut out of the items. -/
theorem endBackground_of_some {outer : List Mode} {start : Nat}
    (houter : aroundBackground? r.modes = some outer) (hopen : r.openBackground = some start) :
    r.endBackground
      = { r with
          modes := outer
          openBackground := none
          lastStep := movedStep r.items start r.lastStep
          items := r.items.take start
          background := some (Background.ofItems (r.items.drop start)) } := by
  unfold endBackground
  rw [houter, hopen]

/-- Either a background ends, or nothing changes. -/
theorem endBackground_eq_or (r : Reading) :
    r.endBackground = r ∨
      ∃ outer start, aroundBackground? r.modes = some outer ∧ r.openBackground = some start := by
  cases hopen : r.openBackground with
  | none => exact Or.inl (endBackground_of_none hopen)
  | some start =>
    cases houter : aroundBackground? r.modes with
    | some outer => exact Or.inr ⟨outer, start, rfl, rfl⟩
    | none => exact Or.inl (endBackground_of_not_around houter)

/-- The modes once a step was read: it continues the run of a keyword, or begins one. -/
def modesAfterStep (r : Reading) (keyword : Keyword) : List Mode :=
  .steps keyword :: if r.mode.keyword?.isSome then r.modes.tail else r.modes

/-- A step that is found becomes an item, with the captures for its arguments. -/
theorem step_of_ok {m : Match} (hfind : reg.find text = .ok m) (keyword : Keyword)
    (conjunction : Bool) :
    (r.step reg line keyword conjunction text).1
      = { r with
          modes := r.modesAfterStep keyword
          lastStep := some (.item r.items.length)
          items := r.items ++ [.step
            { keyword, conjunction, line, found := m, arguments := m.captures
              docString := none }] } := by
  unfold step
  rw [hfind]
  rfl

/-- A step that matches nothing is missing. -/
theorem step_of_notFound (hfind : reg.find text = .error .notFound) (keyword : Keyword)
    (conjunction : Bool) :
    (r.step reg line keyword conjunction text).1
      = { r with
          modes := r.modesAfterStep keyword
          lastStep := none
          missing := r.missing ++ [{ line, text }] } := by
  unfold step
  rw [hfind]
  rfl

/-- A step that several patterns match is ambiguous. -/
theorem step_of_ambiguous {e : Ambiguity} (hfind : reg.find text = .error (.ambiguous e))
    (keyword : Keyword) (conjunction : Bool) :
    (r.step reg line keyword conjunction text).1
      = { r with
          modes := r.modesAfterStep keyword
          lastStep := none
          ambiguous := r.ambiguous ++ [(line, e)] } := by
  unfold step
  rw [hfind]
  rfl

/-- The reading that has left the narrative, if it was reading one. -/
def leaveNarrative (r : Reading) : Reading :=
  if r.mode = .narrative then { r with modes := r.modes.tail } else r

/-! ## What a line does -/

/-- What reading a line outside doc strings and free text can do. -/
inductive ReadsOutside (reg : Registry W) (line : Nat) (raw text : Text) (r : Reading) :
    LineKind → Reading → Option Remark → Prop
  | blank : ReadsOutside reg line raw text r .blank r.endBackground none
  | comment : ReadsOutside reg line raw text r .comment r none
  | beginDocString (hmode : r.mode ≠ .examples) :
    ReadsOutside reg line raw text r .delimiter
      { r with
        modes := .docString :: r.modes
        docString := some { column := Text.indent raw, target := r.lastStep } }
      none
  | feature {name : Text} (hname : name ≠ []) :
    ReadsOutside reg line raw text r (.feature name)
      { r with name := some name, modes := .narrative :: r.modes } none
  | background {name : Text} (hclosed : r.background = none) (hopen : r.openBackground = none) :
    ReadsOutside reg line raw text r (.background name)
      ({ r with
          modes := .background :: r.modes
          openBackground := some r.items.length }.mark .background name line)
      none
  | scenario {name : Text} :
    ReadsOutside reg line raw text r (.scenario name)
      ({ r.endBackground with modes := .declaration :: r.endBackground.modes }.mark
        .scenario name line)
      none
  | step {keyword : Keyword} {stepText : Text} (hmode : r.mode ≠ .examples) :
    ReadsOutside reg line raw text r (.step keyword stepText)
      (r.step reg line keyword false stepText).1
      (some (r.step reg line keyword false stepText).2)
  | conjunction {keyword : Keyword} {stepText : Text} (hkeyword : r.mode.keyword? = some keyword) :
    ReadsOutside reg line raw text r (.conjunction stepText)
      (r.step reg line keyword true stepText).1
      (some (r.step reg line keyword true stepText).2)
  | examples (hmode : r.mode ≠ .examples) :
    ReadsOutside reg line raw text r .examples
      ({ r with modes := .examples :: r.modes }.refuse line text).1
      (some ({ r with modes := .examples :: r.modes }.refuse line text).2)
  | refused {kind : LineKind} (hmode : r.mode = .examples) (hkind : passesExamples kind = false) :
    ReadsOutside reg line raw text r kind (r.refuse line text).1 (some (r.refuse line text).2)

/-- What reading a line can do. -/
inductive Reads (reg : Registry W) (line : Nat) (raw : Text) (r : Reading) :
    Reading → Option Remark → Prop
  | endDocString (hmode : r.mode = .docString)
    (hkind : LineKind.ofLine (Text.trim raw) = .delimiter) :
    Reads reg line raw r r.endDocString none
  | verbatim (hmode : r.mode = .docString)
    (hkind : LineKind.ofLine (Text.trim raw) ≠ .delimiter) :
    Reads reg line raw r { r with docString := r.docString.map (·.push raw) } none
  | narrative (hmode : r.mode = .narrative)
    (hkind : continuesNarrative (LineKind.ofLine (Text.trim raw)) = true) :
    Reads reg line raw r { r with narrative := r.narrative ++ [Text.trim raw] } none
  | narrativeComment (hmode : r.mode = .narrative)
    (hkind : LineKind.ofLine (Text.trim raw) = .comment) : Reads reg line raw r r none
  | outside {r' : Reading} {remark : Option Remark} (hdoc : r.mode ≠ .docString)
    (hfree : r.mode = .narrative →
      continuesNarrative (LineKind.ofLine (Text.trim raw)) = false ∧
        LineKind.ofLine (Text.trim raw) ≠ .comment)
    (hread : ReadsOutside reg line raw (Text.trim raw) r.leaveNarrative
      (LineKind.ofLine (Text.trim raw)) r' remark) :
    Reads reg line raw r r' remark

/-- Why a line outside doc strings and free text is not read. -/
inductive FaultsOutside (line : Nat) (r : Reading) : LineKind → FeatureFault → Prop
  | unnamedFeature : FaultsOutside line r (.feature []) (.unnamedFeature line)
  | secondBackground {name : Text}
    (hsecond : r.background.isSome = true ∨ r.openBackground.isSome = true) :
    FaultsOutside line r (.background name) (.secondBackground line)
  | strayConjunction {stepText : Text} (hmode : r.mode ≠ .examples)
    (hkeyword : r.mode.keyword? = none) :
    FaultsOutside line r (.conjunction stepText) (.strayConjunction line)
  | unknownLine {word : Text} (hmode : r.mode ≠ .examples) :
    FaultsOutside line r (.other word) (.unknownLine line word)

/-- Why a line is not read: nothing takes it where every line makes sense. -/
structure Faults (line : Nat) (raw : Text) (r : Reading) (fault : FeatureFault) : Prop where
  docString : r.mode ≠ .docString
  free : r.mode = .narrative →
    continuesNarrative (LineKind.ofLine (Text.trim raw)) = false ∧
      LineKind.ofLine (Text.trim raw) ≠ .comment
  outside : FaultsOutside line r.leaveNarrative (LineKind.ofLine (Text.trim raw)) fault

theorem leaveNarrative_of_mode (h : r.mode = .narrative) :
    r.leaveNarrative = { r with modes := r.modes.tail } := if_pos h

theorem leaveNarrative_of_mode_ne (h : r.mode ≠ .narrative) : r.leaveNarrative = r := if_neg h

/-- A line is read outside sections of examples, or passes through them. -/
theorem readOutside_eq_readKind (h : r.mode = .examples → passesExamples kind = true) :
    r.readOutside reg line raw text kind = r.readKind reg line raw text kind := by
  unfold readOutside
  by_cases hmode : r.mode = .examples
  · rw [h hmode]
    simp
  · rw [if_neg (by simp [hmode])]

/-- **The relation for lines outside doc strings and free text is exact.** -/
theorem readOutside_eq_ok_iff :
    r.readOutside reg line raw text kind = .ok (r', remark) ↔
      ReadsOutside reg line raw text r kind r' remark := by
  constructor
  · intro h
    by_cases hrefused : r.mode = .examples ∧ passesExamples kind = false
    · obtain ⟨hmode, hkind⟩ := hrefused
      -- a section of examples refuses the line, whatever its kind
      unfold readOutside at h
      rw [if_pos (by simp [hmode, hkind])] at h
      obtain ⟨rfl, rfl⟩ : (r.refuse line text).1 = r' ∧ some (r.refuse line text).2 = remark := by
        simpa using h
      exact .refused hmode hkind
    -- every other line is read by its kind
    · have hpass : r.mode = .examples → passesExamples kind = true := fun hmode =>
        Bool.not_eq_false _ ▸ fun hkind => hrefused ⟨hmode, hkind⟩
      rw [readOutside_eq_readKind hpass] at h
      cases kind with
      | blank =>
        obtain ⟨rfl, rfl⟩ := Prod.mk.inj (Except.ok.inj h)
        exact .blank
      | comment =>
        obtain ⟨rfl, rfl⟩ := Prod.mk.inj (Except.ok.inj h)
        exact .comment
      | delimiter =>
        obtain ⟨rfl, rfl⟩ := Prod.mk.inj (Except.ok.inj h)
        exact .beginDocString fun hmode => absurd (hpass hmode) (by simp [passesExamples])
      | feature name =>
        simp only [readKind] at h
        split at h
        next => exact absurd h (by simp)
        next hname =>
          obtain ⟨rfl, rfl⟩ := Prod.mk.inj (Except.ok.inj h)
          exact .feature hname
      | background name =>
        simp only [readKind] at h
        split at h
        next => exact absurd h (by simp)
        next hnone =>
          obtain ⟨rfl, rfl⟩ := Prod.mk.inj (Except.ok.inj h)
          simp only [Bool.or_eq_true, Option.isSome_iff_ne_none, ne_eq, not_or,
            Decidable.not_not] at hnone
          exact .background hnone.1 hnone.2
      | scenario name =>
        obtain ⟨rfl, rfl⟩ := Prod.mk.inj (Except.ok.inj h)
        exact .scenario
      | step keyword stepText =>
        obtain ⟨rfl, rfl⟩ := Prod.mk.inj (Except.ok.inj h)
        exact .step fun hmode => absurd (hpass hmode) (by simp [passesExamples])
      | conjunction stepText =>
        simp only [readKind] at h
        split at h
        next => exact absurd h (by simp)
        next keyword hkeyword =>
          obtain ⟨rfl, rfl⟩ := Prod.mk.inj (Except.ok.inj h)
          exact .conjunction hkeyword
      | examples =>
        obtain ⟨rfl, rfl⟩ := Prod.mk.inj (Except.ok.inj h)
        exact .examples fun hmode => absurd (hpass hmode) (by simp [passesExamples])
      | other word => exact absurd h (by simp [readKind])
  · intro h
    cases h with
    | blank => exact readOutside_eq_readKind fun _ => rfl
    | comment => exact readOutside_eq_readKind fun _ => rfl
    | beginDocString hmode => exact readOutside_eq_readKind fun he => absurd he hmode
    | feature hname =>
      rw [readOutside_eq_readKind fun _ => rfl, readKind, if_neg hname]
    | background hclosed hopen =>
      rw [readOutside_eq_readKind fun _ => rfl, readKind, hclosed, hopen]
      rfl
    | scenario => exact readOutside_eq_readKind fun _ => rfl
    | step hmode => exact readOutside_eq_readKind fun he => absurd he hmode
    | conjunction hkeyword =>
      have hmode : r.mode ≠ .examples := fun he => by
        rw [he] at hkeyword
        exact absurd hkeyword (by simp [Mode.keyword?])
      rw [readOutside_eq_readKind fun he => absurd he hmode, readKind, hkeyword]
    | examples hmode => exact readOutside_eq_readKind fun he => absurd he hmode
    | refused hmode hkind =>
      unfold readOutside
      rw [if_pos (by simp [hmode, hkind])]

/-- **The relation for lines outside that are not read is exact.** -/
theorem readOutside_eq_error_iff {fault : FeatureFault} :
    r.readOutside reg line raw text kind = .error fault ↔ FaultsOutside line r kind fault := by
  constructor
  · intro h
    by_cases hrefused : r.mode = .examples ∧ passesExamples kind = false
    · unfold readOutside at h
      rw [if_pos (by simp [hrefused])] at h
      exact absurd h (by simp)
    · have hpass : r.mode = .examples → passesExamples kind = true := fun hmode =>
        Bool.not_eq_false _ ▸ fun hkind => hrefused ⟨hmode, hkind⟩
      rw [readOutside_eq_readKind hpass] at h
      cases kind with
      | feature name =>
        simp only [readKind] at h
        split at h
        next hname =>
          obtain rfl := Except.error.inj h
          exact hname ▸ .unnamedFeature
        next => exact absurd h (by simp)
      | background name =>
        simp only [readKind] at h
        split at h
        next hsecond =>
          obtain rfl := Except.error.inj h
          exact .secondBackground (Bool.or_eq_true _ _ ▸ hsecond)
        next => exact absurd h (by simp)
      | conjunction stepText =>
        simp only [readKind] at h
        split at h
        next hkeyword =>
          obtain rfl := Except.error.inj h
          exact .strayConjunction (fun hmode => absurd (hpass hmode) (by simp [passesExamples]))
            hkeyword
        next => exact absurd h (by simp)
      | other word =>
        obtain rfl := Except.error.inj h
        exact .unknownLine fun hmode => absurd (hpass hmode) (by simp [passesExamples])
      | _ => exact absurd h (by simp [readKind])
  · intro h
    cases h with
    | unnamedFeature => exact readOutside_eq_readKind fun _ => rfl
    | secondBackground hsecond =>
      rw [readOutside_eq_readKind fun _ => rfl, readKind, if_pos (by simpa using hsecond)]
    | strayConjunction hmode hkeyword =>
      rw [readOutside_eq_readKind fun he => absurd he hmode, readKind, hkeyword]
    | unknownLine hmode => exact readOutside_eq_readKind fun he => absurd he hmode

/-- A line that neither a doc string nor the narrative takes is read outside. -/
theorem readLine_eq_readOutside (hdoc : r.mode ≠ .docString)
    (hfree : r.mode = .narrative →
      continuesNarrative (LineKind.ofLine (Text.trim raw)) = false ∧
        LineKind.ofLine (Text.trim raw) ≠ .comment) :
    r.readLine reg line raw
      = r.leaveNarrative.readOutside reg line raw (Text.trim raw)
          (LineKind.ofLine (Text.trim raw)) := by
  unfold readLine
  split
  next hmode => exact absurd hmode hdoc
  next hmode =>
    rw [leaveNarrative_of_mode hmode, if_neg (by simp [(hfree hmode).1]),
      if_neg (hfree hmode).2]
  next _ hmode => rw [leaveNarrative_of_mode_ne hmode]

/-- **The relation for lines is exact.** -/
theorem readLine_eq_ok_iff :
    r.readLine reg line raw = .ok (r', remark) ↔ Reads reg line raw r r' remark := by
  constructor
  · intro h
    by_cases hdoc : r.mode = .docString
    · simp only [readLine, hdoc] at h
      split at h
      next hquotes =>
        obtain ⟨rfl, rfl⟩ := Prod.mk.inj (Except.ok.inj h)
        exact .endDocString hdoc (LineKind.ofLine_eq_delimiter_iff.mpr hquotes)
      next hquotes =>
        obtain ⟨rfl, rfl⟩ := Prod.mk.inj (Except.ok.inj h)
        exact .verbatim hdoc fun hkind =>
          hquotes (LineKind.ofLine_eq_delimiter_iff.mp hkind)
    · by_cases hfree : r.mode = .narrative →
          continuesNarrative (LineKind.ofLine (Text.trim raw)) = false ∧
            LineKind.ofLine (Text.trim raw) ≠ .comment
      · rw [readLine_eq_readOutside hdoc hfree, readOutside_eq_ok_iff] at h
        exact .outside hdoc hfree h
      · obtain ⟨hmode, htaken⟩ := Classical.not_imp.mp hfree
        simp only [readLine, hmode] at h
        split at h
        next hcontinues =>
          obtain ⟨rfl, rfl⟩ := Prod.mk.inj (Except.ok.inj h)
          exact .narrative hmode hcontinues
        next hcontinues =>
          have hcomment : LineKind.ofLine (Text.trim raw) = .comment :=
            Decidable.not_not.mp fun hne => htaken ⟨by simpa using hcontinues, hne⟩
          rw [if_pos hcomment] at h
          obtain ⟨rfl, rfl⟩ := Prod.mk.inj (Except.ok.inj h)
          exact .narrativeComment hmode hcomment
  · intro h
    cases h with
    | endDocString hmode hkind =>
      simp only [readLine, hmode]
      rw [if_pos (LineKind.ofLine_eq_delimiter_iff.mp hkind)]
    | verbatim hmode hkind =>
      simp only [readLine, hmode]
      rw [if_neg fun hquotes => hkind (LineKind.ofLine_eq_delimiter_iff.mpr hquotes)]
    | narrative hmode hkind =>
      simp only [readLine, hmode]
      rw [if_pos hkind]
    | narrativeComment hmode hkind =>
      simp only [readLine, hmode, hkind]
      rfl
    | outside hdoc hfree hread =>
      rw [readLine_eq_readOutside hdoc hfree, readOutside_eq_ok_iff]
      exact hread

/-- Reading a line outside doc strings and free text has one result. -/
theorem ReadsOutside.unique {r₁ r₂ : Reading} {remark₁ remark₂ : Option Remark}
    (h₁ : ReadsOutside reg line raw text r kind r₁ remark₁)
    (h₂ : ReadsOutside reg line raw text r kind r₂ remark₂) : r₁ = r₂ := by
  have h := (readOutside_eq_ok_iff.mpr h₁).symm.trans (readOutside_eq_ok_iff.mpr h₂)
  exact (Prod.mk.inj (Except.ok.inj h)).1

/-- Reading a line has one result. -/
theorem Reads.unique {r₁ r₂ : Reading} {remark₁ remark₂ : Option Remark}
    (h₁ : Reads reg line raw r r₁ remark₁) (h₂ : Reads reg line raw r r₂ remark₂) : r₁ = r₂ := by
  have h := (readLine_eq_ok_iff.mpr h₁).symm.trans (readLine_eq_ok_iff.mpr h₂)
  exact (Prod.mk.inj (Except.ok.inj h)).1

/-- **The relation for lines that are not read is exact.** -/
theorem readLine_eq_error_iff {fault : FeatureFault} :
    r.readLine reg line raw = .error fault ↔ Faults line raw r fault := by
  constructor
  · intro h
    have hdoc : r.mode ≠ .docString := by
      intro hmode
      simp only [readLine, hmode] at h
      split at h
      next => exact absurd h (by simp)
      next => exact absurd h (by simp)
    have hfree : r.mode = .narrative →
        continuesNarrative (LineKind.ofLine (Text.trim raw)) = false ∧
          LineKind.ofLine (Text.trim raw) ≠ .comment := by
      intro hmode
      simp only [readLine, hmode] at h
      split at h
      next => exact absurd h (by simp)
      next hcontinues =>
        split at h
        next => exact absurd h (by simp)
        next hcomment => exact ⟨by simpa using hcontinues, hcomment⟩
    rw [readLine_eq_readOutside hdoc hfree, readOutside_eq_error_iff] at h
    exact ⟨hdoc, hfree, h⟩
  · rintro ⟨hdoc, hfree, houtside⟩
    rw [readLine_eq_readOutside hdoc hfree, readOutside_eq_error_iff]
    exact houtside

/-- A line that is read is listed with its remark. -/
theorem take_eq_ok_iff {r₂ : Reading} :
    r.take reg line raw = .ok r₂ ↔
      ∃ r₁ remark, Reads reg line raw r r₁ remark ∧ r₂ = r₁.list line raw remark := by
  unfold take
  constructor
  · intro h
    split at h
    next read hread =>
      exact ⟨read.1, read.2, readLine_eq_ok_iff.mp hread, (Except.ok.inj h).symm⟩
    next => exact absurd h (by simp)
  · rintro ⟨r₁, remark, hread, rfl⟩
    rw [readLine_eq_ok_iff.mpr hread]

/-- Lines are read one after another. -/
theorem takeLines_cons_eq_ok_iff {rest : List Text} :
    takeLines reg r line (raw :: rest) = .ok r' ↔
      ∃ r₁, r.take reg line raw = .ok r₁ ∧ takeLines reg r₁ (line + 1) rest = .ok r' := by
  rw [takeLines]
  cases r.take reg line raw with
  | error e => simp [bind, Except.bind]
  | ok r₁ => simp [bind, Except.bind]

/-- A line that is not read is listed with what is wrong with it. -/
theorem take_eq_error_iff {rejection : Rejection} :
    r.take reg line raw = .error rejection ↔
      ∃ fault, Faults line raw r fault ∧
        rejection =
          { fault, listing := (r.list line raw (some (.failed fault.message))).listing } := by
  unfold take
  constructor
  · intro h
    split at h
    next => exact absurd h (by simp)
    next fault hfault =>
      exact ⟨fault, readLine_eq_error_iff.mp hfault, (Except.error.inj h).symm⟩
  · rintro ⟨fault, hfaults, rfl⟩
    rw [readLine_eq_error_iff.mpr hfaults]

/-- Reading stops at the first line that is not read. -/
theorem takeLines_cons_eq_error_iff {rest : List Text} {rejection : Rejection} :
    takeLines reg r line (raw :: rest) = .error rejection ↔
      r.take reg line raw = .error rejection ∨
        ∃ r₁, r.take reg line raw = .ok r₁ ∧
          takeLines reg r₁ (line + 1) rest = .error rejection := by
  rw [takeLines]
  cases r.take reg line raw with
  | error e => simp [bind, Except.bind]
  | ok r₁ => simp [bind, Except.bind]

/-- Lines are read in two goes as they are in one. -/
theorem takeLines_append {lines more : List Text} {r₁ : Reading}
    (h : takeLines reg r line lines = .ok r₁) :
    takeLines reg r line (lines ++ more) = takeLines reg r₁ (line + lines.length) more := by
  induction lines generalizing r line with
  | nil =>
    rw [Except.ok.inj h]
    rfl
  | cons raw rest ih =>
    obtain ⟨r₂, htake, hrest⟩ := takeLines_cons_eq_ok_iff.mp h
    rw [List.cons_append, takeLines, htake]
    show takeLines reg r₂ (line + 1) (rest ++ more) = _
    rw [ih hrest, List.length_cons]
    congr 1
    omega

end Reading

end Gherkin
