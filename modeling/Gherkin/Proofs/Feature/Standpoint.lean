import Gherkin.Proofs.Feature.ByRole

/-!
# Where the next line stands

The modes of a reading are a stack, and ending a background cuts it in the middle. A site knows of
all this only what matters for lines to come. `Reading.At` says that a reading stands at a site; a
line that is read takes it to the site after the line, which is said by the line's role alone
(`At.reads`).
-/

namespace Gherkin

namespace Reading

variable {W : Type} {reg : Registry W} {r r' : Reading} {line : Nat} {raw text : Text}
  {kind : LineKind} {remark : Option Remark}

theorem openBackground_step {keyword : Keyword} {conjunction : Bool} :
    (r.step reg line keyword conjunction text).1.openBackground = r.openBackground := by
  cases hfind : reg.find text with
  | ok found => rw [step_of_ok hfind]
  | error e =>
    cases e with
    | notFound => rw [step_of_notFound hfind]
    | ambiguous e => rw [step_of_ambiguous hfind]

theorem docString_step {keyword : Keyword} {conjunction : Bool} :
    (r.step reg line keyword conjunction text).1.docString = r.docString := by
  cases hfind : reg.find text with
  | ok found => rw [step_of_ok hfind]
  | error e =>
    cases e with
    | notFound => rw [step_of_notFound hfind]
    | ambiguous e => rw [step_of_ambiguous hfind]

/-- The reading stands at the site. -/
structure At (s : Site) (r : Reading) : Prop where
  site : r.site = s
  /-- Only the innermost mode may be a doc string or the narrative. -/
  below : ∀ m ∈ r.modes.tail, Place.ofMode m = .outside
  /-- There is one background at most. -/
  once : ∀ outer, aroundBackground? r.modes = some outer → aroundBackground? outer = none
  opened : r.openBackground.isSome = (aroundBackground? r.modes).isSome
  reading : r.docString.isSome = decide (r.mode = .docString)

theorem openBackground_endDocString : r.endDocString.openBackground = r.openBackground := by
  obtain ⟨_, _, _, _, h⟩ := r.endDocString_eq_with
  rw [h]

theorem docString_endDocString : r.endDocString.docString = none := by
  cases hblock : r.docString with
  | none =>
    rw [endDocString_of_none hblock]
    exact hblock
  | some block =>
    obtain ⟨background, items, hattach⟩ := attach_eq_with
      { r with modes := r.modesAfterDocString, docString := none } block.target block.text
    rw [endDocString_of_some hblock, hattach]

/-- The innermost of modes that all stand outside. -/
theorem place_headD {modes : List Mode} (h : ∀ m ∈ modes, Place.ofMode m = .outside) :
    Place.ofMode (modes.headD .declaration) = .outside := by
  cases modes with
  | nil => rfl
  | cons m outer => exact h m (List.mem_cons_self ..)

/-- Where all modes stand outside, no doc string is being read. -/
theorem reading_of_outside {modes : List Mode} {docString : Option (DocString StepPlace)}
    (h : ∀ m ∈ modes, Place.ofMode m = .outside) (hdoc : docString = none) :
    docString.isSome = decide (modes.headD .declaration = .docString) := by
  have hne : modes.headD .declaration ≠ .docString := by
    intro hmode
    have hplace := place_headD h
    rw [hmode] at hplace
    exact absurd hplace (by simp [Place.ofMode])
  rw [hdoc, decide_eq_false hne]
  rfl

/-- The site of modes that all stand outside. -/
theorem siteOf_of_outside {modes : List Mode} (h : ∀ m ∈ modes, Place.ofMode m = .outside) :
    siteOf modes
      = { place := .outside
          skipping := modes.headD .declaration = .examples
          around := skippingAround modes } := by
  unfold siteOf outerMode
  rw [if_pos (place_headD h), place_headD h]

/-- What is around a background is below the innermost mode. -/
theorem mem_tail_of_aroundBackground? {modes outer : List Mode} {m : Mode}
    (h : aroundBackground? modes = some outer) (hm : m ∈ outer) : m ∈ modes.tail := by
  cases modes with
  | nil => exact absurd h (by simp [aroundBackground?])
  | cons first rest =>
    cases first with
    | background =>
      obtain rfl : rest = outer := Option.some.inj h
      exact hm
    | declaration => exact absurd h (by simp [aroundBackground?])
    | _ => exact mem_of_aroundBackground? h hm

/-- The modes around a background that is open. -/
theorem exists_outer_of_open {start : Nat}
    (hopened : r.openBackground.isSome = (aroundBackground? r.modes).isSome)
    (hopen : r.openBackground = some start) : ∃ outer, aroundBackground? r.modes = some outer :=
  Option.isSome_iff_exists.mp (by rw [← hopened, hopen]; rfl)

/-- A mode that is no declaration has been entered. -/
theorem exists_modes_eq_cons {m : Mode} (hmode : r.mode = m) (hm : m ≠ .declaration) :
    ∃ outer, r.modes = m :: outer := by
  unfold mode at hmode
  cases hmodes : r.modes with
  | nil =>
    rw [hmodes] at hmode
    exact absurd hmode.symm hm
  | cons first outer =>
    rw [hmodes] at hmode
    exact ⟨outer, congrArg (· :: outer) hmode⟩

namespace At

variable {s : Site}

/-- Before the first line. -/
theorem initial : At {} {} where
  site := rfl
  below := by simp
  once := by simp [aroundBackground?]
  opened := rfl
  reading := rfl

theorem list (h : At s r) : At s (r.list line raw remark) :=
  ⟨h.site, h.below, h.once, h.opened, h.reading⟩

theorem place (h : At s r) : Place.ofMode r.mode = s.place := congrArg Site.place h.site

/-- Outside doc strings and free text all modes stand outside. -/
theorem outside (h : At s r) (hs : s.place = .outside) :
    ∀ m ∈ r.modes, Place.ofMode m = .outside := by
  have hmode : Place.ofMode r.mode = .outside := h.place.trans hs
  intro m hm
  cases hmodes : r.modes with
  | nil => exact absurd (hmodes ▸ hm) (by simp)
  | cons first outer =>
    rw [hmodes] at hm
    rcases List.mem_cons.mp hm with rfl | hm
    · unfold mode at hmode
      rwa [hmodes] at hmode
    · exact h.below m (by rw [hmodes]; exact hm)

/-- Outside doc strings none is being read. -/
theorem docString_eq_none (h : At s r) (hmode : r.mode ≠ .docString) : r.docString = none := by
  have hreading := h.reading
  rw [decide_eq_false hmode] at hreading
  simpa using hreading

/-- The modes outside are no doc strings. -/
theorem mode_ne_docString (h : At s r) (hs : s.place = .outside) : r.mode ≠ .docString := by
  intro hmode
  have hplace := h.place
  rw [hmode, hs] at hplace
  exact absurd hplace (by simp [Place.ofMode])

/-- A mode that is entered, other than a background or a declaration. -/
theorem push (h : At s r) (hs : s.place = .outside) {m : Mode} (hmodes : r'.modes = m :: r.modes)
    (hopened : r'.openBackground = r.openBackground)
    (haround : aroundBackground? (m :: r.modes) = aroundBackground? r.modes)
    (hreading : r'.docString.isSome = decide (m = .docString)) :
    At (siteOf (m :: r.modes)) r' where
  site := congrArg siteOf hmodes
  below := by
    rw [hmodes]
    exact h.outside hs
  once := by
    rw [hmodes, haround]
    exact h.once
  opened := by
    rw [hopened, hmodes, haround]
    exact h.opened
  reading := by
    unfold mode
    rw [hmodes]
    exact hreading

/-- The innermost mode is left, unless it is a background or a declaration. -/
theorem pop (h : At s r) {m : Mode} {outer : List Mode} (hmodes : r.modes = m :: outer)
    (hmodes' : r'.modes = outer) (hopened : r'.openBackground = r.openBackground)
    (haround : aroundBackground? (m :: outer) = aroundBackground? outer)
    (hdoc : r'.docString = none) : At (siteOf outer) r' where
  site := congrArg siteOf hmodes'
  below := by
    rw [hmodes']
    exact fun m hm => h.below m (by rw [hmodes]; exact List.mem_of_mem_tail hm)
  once := by
    rw [hmodes', ← haround, ← hmodes]
    exact h.once
  opened := by
    rw [hopened, hmodes', ← haround, ← hmodes]
    exact h.opened
  reading := by
    unfold mode
    rw [hmodes']
    exact reading_of_outside (fun m hm => h.below m (by rw [hmodes]; exact hm)) hdoc

/-- Where the narrative has been left. -/
theorem leaveNarrative (h : At s r) (hdoc : r.mode ≠ .docString) :
    At { s with place := .outside } r.leaveNarrative := by
  by_cases hmode : r.mode = .narrative
  · obtain ⟨outer, hmodes⟩ := exists_modes_eq_cons hmode (by simp)
    have hleft : At (siteOf outer) r.leaveNarrative := h.pop hmodes
      (by rw [leaveNarrative_of_mode hmode, hmodes]; rfl)
      (by rw [leaveNarrative_of_mode hmode]) rfl
      (by rw [leaveNarrative_of_mode hmode]; exact h.docString_eq_none hdoc)
    have hsite : siteOf outer = { s with place := .outside } := by
      rw [siteOf_of_outside fun m hm => h.below m (by rw [hmodes]; exact hm), ← h.site]
      unfold Reading.site
      rw [hmodes]
      rfl
    rwa [hsite] at hleft
  · rw [leaveNarrative_of_mode_ne hmode]
    have hs : s.place = .outside := h.place.symm.trans (place_of_outside hdoc hmode)
    rwa [← hs]

/-- Where no background is being read, none is around the modes. -/
theorem aroundBackground?_eq_none (h : At s r) (hs : s.around = none) :
    aroundBackground? r.modes = none :=
  Option.map_eq_none_iff.mp ((congrArg Site.around h.site).trans hs)

/-- Where a background has ended, if one was being read. -/
theorem endBackground (h : At s r) (hs : s.place = .outside) :
    At { place := .outside, skipping := s.around.getD s.skipping, around := none }
      r.endBackground := by
  have hsite := siteOf_of_outside (h.outside hs)
  have hskipping : s.skipping = decide (r.modes.headD .declaration = .examples) :=
    (congrArg Site.skipping h.site).symm.trans (congrArg Site.skipping hsite)
  have haround : s.around = skippingAround r.modes := (congrArg Site.around h.site).symm
  cases houter : aroundBackground? r.modes with
  | none =>
    have hnone : skippingAround r.modes = none := by
      unfold skippingAround
      rw [houter]
      rfl
    rw [endBackground_of_not_around houter, haround, hskipping, hnone]
    rw [hnone] at hsite
    exact ⟨hsite, h.below, h.once, h.opened, h.reading⟩
  | some outer =>
    obtain ⟨start, hopen⟩ : ∃ start, r.openBackground = some start :=
      Option.isSome_iff_exists.mp (by rw [h.opened, houter]; rfl)
    have hsome : skippingAround r.modes
        = some (decide (outer.headD .declaration = .examples)) := by
      unfold skippingAround
      rw [houter]
      rfl
    have honce : aroundBackground? outer = none := h.once outer houter
    have houtside : ∀ m ∈ outer, Place.ofMode m = .outside := fun m hm =>
      h.below m (mem_tail_of_aroundBackground? houter hm)
    rw [endBackground_of_some houter hopen, haround, hsome]
    refine ⟨(siteOf_of_outside houtside).trans ?_, fun m hm => ?_, ?_, ?_, ?_⟩
    · unfold skippingAround
      rw [honce]
      rfl
    · exact houtside m (List.mem_of_mem_tail hm)
    · simp [honce]
    · simp [honce]
    · exact reading_of_outside houtside (h.docString_eq_none (h.mode_ne_docString hs))

/-- Where a step was read. -/
theorem step (h : At s r) (hs : s.place = .outside) (hmode : r.mode ≠ .examples)
    (keyword : Keyword) (conjunction : Bool) :
    At s (r.step reg line keyword conjunction text).1 := by
  have hmodes : (r.step reg line keyword conjunction text).1.modes = r.modesAfterStep keyword :=
    modes_step
  have hopened : (r.step reg line keyword conjunction text).1.openBackground = r.openBackground :=
    openBackground_step
  have hreading : (r.step reg line keyword conjunction text).1.docString.isSome = false := by
    rw [docString_step, h.docString_eq_none (h.mode_ne_docString hs)]
    rfl
  have hsite : siteOf (.steps keyword :: r.modes) = s := by
    rw [← h.site, Reading.site, siteOf_of_outside (h.outside hs)]
    have hskipping : decide (r.modes.headD .declaration = .examples) = false :=
      decide_eq_false hmode
    rw [hskipping]
    rfl
  by_cases hkeyword : r.mode.keyword?.isSome = true
  · -- the step continues a run, which it takes the place of
    obtain ⟨previous, hprevious⟩ : ∃ previous, r.mode = .steps previous := by
      cases hm : r.mode with
      | steps previous => exact ⟨previous, rfl⟩
      | _ => exact absurd hkeyword (by simp [hm, Mode.keyword?])
    obtain ⟨outer, houter⟩ := exists_modes_eq_cons hprevious (by simp)
    rw [modesAfterStep, if_pos hkeyword, houter] at hmodes
    have haround : aroundBackground? (.steps keyword :: outer) = aroundBackground? r.modes := by
      rw [houter]
      rfl
    refine ⟨?_, ?_, ?_, ?_, ?_⟩
    · rw [Reading.site, hmodes, ← hsite, houter]
      rfl
    · rw [hmodes]
      exact fun m hm => h.below m (by rw [houter]; exact hm)
    · rw [hmodes]
      exact fun outer' => haround ▸ h.once outer'
    · rw [hmodes, hopened]
      exact haround ▸ h.opened
    · unfold mode
      rw [hmodes]
      exact hreading
  · rw [modesAfterStep, if_neg hkeyword] at hmodes
    exact hsite ▸ h.push hs hmodes hopened rfl hreading

/-- **Where a line outside was read, the next one stands where its role says.** -/
theorem readsOutside (h : At s r) (hs : s.place = .outside)
    (hread : ReadsOutside reg line raw text r kind r' remark) :
    At (s.next (r.mode.roleOf kind)) r' := by
  have hsite : s = { place := .outside
                     skipping := r.mode = .examples
                     around := skippingAround r.modes } :=
    h.site.symm.trans (siteOf_of_outside (h.outside hs))
  have hended := h.endBackground hs
  have hdoc : r.docString.isSome = false := by
    rw [h.docString_eq_none (h.mode_ne_docString hs)]
    rfl
  have hstep (keyword : Option Keyword) (text : Text) : s.next (.step keyword text) = s := by
    rw [hsite]
    rfl
  cases hread with
  | blank =>
    rw [Mode.roleOf_of_passes rfl]
    rw [hsite] at hended ⊢
    exact hended
  | comment =>
    rw [Mode.roleOf_of_passes rfl]
    rw [hsite] at h ⊢
    exact h
  | beginDocString hmode =>
    rw [Mode.roleOf_of_ne hmode]
    have hnext : s.next .delimiter = siteOf (.docString :: r.modes) := by rw [hsite]; rfl
    exact hnext ▸ h.push hs rfl rfl rfl rfl
  | @feature name hname =>
    rw [Mode.roleOf_of_passes rfl]
    have hnext : s.next (.feature name) = siteOf (.narrative :: r.modes) := by rw [hsite]; rfl
    exact hnext ▸ h.push hs rfl rfl rfl hdoc
  | @background name hclosed hopen =>
    rw [Mode.roleOf_of_passes rfl]
    have hnone : aroundBackground? r.modes = none := by
      have hopened := h.opened
      rw [hopen] at hopened
      simpa using hopened.symm
    refine ⟨?_, h.outside hs, ?_, rfl, hdoc⟩
    · rw [hsite]
      rfl
    · intro outer houter
      obtain rfl : r.modes = outer := Option.some.inj houter
      exact hnone
  | @scenario name =>
    rw [Mode.roleOf_of_passes rfl]
    refine ⟨?_, hended.outside rfl, ?_, ?_, ?_⟩
    · rw [hsite]
      rfl
    · intro outer houter
      exact absurd houter (by simp [mark, aroundBackground?])
    · have hopened := hended.opened
      rw [hended.aroundBackground?_eq_none rfl] at hopened
      exact hopened
    · have hdoc := hended.docString_eq_none (hended.mode_ne_docString rfl)
      exact congrArg Option.isSome hdoc
  | step hmode =>
    rw [Mode.roleOf_of_ne hmode, Role.ofKind, hstep]
    exact h.step hs hmode _ false
  | conjunction hkeyword =>
    have hmode := ne_examples_of_keyword? hkeyword
    rw [Mode.roleOf_of_ne hmode, Role.ofKind, hstep]
    exact h.step hs hmode _ true
  | examples hmode =>
    rw [Mode.roleOf_of_ne hmode]
    have hnext : s.next .stray = siteOf (.examples :: r.modes) := by rw [hsite]; rfl
    exact hnext ▸ h.push hs rfl rfl rfl hdoc
  | refused hmode hkind =>
    have hnext : s.next .stray = s := by rw [hsite, hmode]; rfl
    rw [hmode, Mode.roleOf_examples hkind, hnext]
    exact ⟨h.site, h.below, h.once, h.opened, h.reading⟩

/-- Where a doc string has ended. -/
theorem endDocString (h : At s r) (hmode : r.mode = .docString) :
    At (s.next .delimiter) r.endDocString := by
  obtain ⟨outer, hmodes⟩ := exists_modes_eq_cons hmode (by simp)
  have hmodes' : r.endDocString.modes = outer := by
    rw [modes_endDocString, modesAfterDocString, if_pos hmode, hmodes]
    rfl
  have hnext : s.next .delimiter = siteOf outer := by
    rw [siteOf_of_outside fun m hm => h.below m (by rw [hmodes]; exact hm), ← h.site]
    unfold Reading.site
    rw [hmodes]
    rfl
  rw [hnext]
  exact h.pop hmodes hmodes' openBackground_endDocString rfl docString_endDocString

/-- At the end of the text a doc string that is being read ends first, and then the background. -/
theorem exists_close (h : At s r) :
    ∃ q s', r.close = q.endBackground ∧ At s' q ∧ q.docString = none ∧
      (q = r ∨ r.mode = .docString ∧ q = r.endDocString) := by
  unfold Reading.close
  by_cases hmode : r.mode = .docString
  · have hdoc : r.docString.isSome = true := h.reading.trans (decide_eq_true hmode)
    rw [if_pos hdoc]
    exact ⟨_, _, rfl, h.endDocString hmode, docString_endDocString, Or.inr ⟨hmode, rfl⟩⟩
  · have hdoc := h.docString_eq_none hmode
    rw [if_neg (by simp [hdoc])]
    exact ⟨r, s, rfl, h, hdoc, Or.inl rfl⟩

/-- **Where a line was read, the next one stands where its role says.** -/
theorem reads (h : At s r) (hread : Reads reg line raw r r' remark) :
    At (s.next (r.role raw)) r' := by
  cases hread with
  | endDocString hmode hkind =>
    rw [role_of_docString hmode, Place.role_docString hkind]
    exact h.endDocString hmode
  | verbatim hmode hkind =>
    have hnext : s.next .verbatim = s :=
      Site.next_eq_self (by rw [← h.place, hmode]; rfl) (by simp)
    rw [role_of_docString hmode, Place.role_docString_of_ne hkind, hnext]
    exact ⟨h.site, h.below, h.once, h.opened, Option.isSome_map.trans h.reading⟩
  | narrative hmode hkind =>
    have hnext : s.next (.narrative (Text.trim raw)) = s :=
      Site.next_eq_self (by rw [← h.place, hmode]; rfl) (by simp)
    rw [role_of_narrative hmode hkind, hnext]
    exact ⟨h.site, h.below, h.once, h.opened, h.reading⟩
  | narrativeComment hmode hkind =>
    have hnext : s.next .comment = s :=
      Site.next_eq_self (by rw [← h.place, hmode]; rfl) (by simp)
    rw [role_of_narrativeComment hmode hkind, hnext]
    exact h
  | outside hdoc hfree hread =>
    have hnext := (h.leaveNarrative hdoc).readsOutside rfl hread
    rw [← role_of_outside hdoc hfree, Site.next_with_place] at hnext
    · exact hnext
    · -- what the narrative does not take ends it
      rw [← h.place, role_of_outside hdoc hfree]
      by_cases hmode : r.mode = .narrative
      · rw [hmode, Mode.roleOf]
        split
        next => rfl
        next => exact (Place.next_narrative (hfree hmode).2).symm
      · rw [place_of_outside hdoc hmode]

end At

end Reading

end Gherkin
