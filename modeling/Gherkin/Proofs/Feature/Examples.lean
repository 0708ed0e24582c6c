import Gherkin.Proofs.Feature.Standpoint

/-!
# Sections of examples

A section begins at a line `Examples:`. It goes on until a line begins another part of the feature,
and all its lines are refused but none of them ends the scan (`takeLines_skips`). If the section
stands in a background, a blank line ends the background and the section with it.

A section does not always end where another part begins. A feature's name interrupts it, and
a background that begins in it is no part of it, but the section goes on when the background has
ended. Only a scenario ends it for good. So a line that is refused stands in a section that began
above it, and no scenario stands between (`Sections`).
-/

namespace Gherkin

/-- Whether a line of the kind begins another part of the feature. -/
def LineKind.beginsPart : LineKind → Bool
  | feature _ | background _ | scenario _ => true
  | blank | comment | delimiter | examples | step _ _ | conjunction _ | other _ => false

/-! ## What a section is -/

namespace TextLine

/-- The line begins a section of examples. -/
def BeginsSection (l : TextLine) : Prop :=
  LineKind.ofLine (Text.trim l.raw) = .examples ∧ l.role = .stray

/-- All backgrounds that begin at the lines end at them. -/
def Ended (ls : List TextLine) : Prop :=
  ∀ before l after, ls = before ++ l :: after → (∃ name, l.role = .background name) →
    ∃ b ∈ after, b.role = .blank

/-- A section begins among the lines, and no scenario after it. -/
def SectionAbove (ls : List TextLine) : Prop :=
  ∃ above e below, ls = above ++ e :: below ∧ e.BeginsSection ∧
    ∀ l ∈ below, ∀ name, l.role ≠ .scenario name

/-- The next line may belong to a section that begins among the lines: no scenario begins after it,
and backgrounds that do have ended. -/
def InSection (ls : List TextLine) : Prop :=
  ∃ above e below, ls = above ++ e :: below ∧ e.BeginsSection ∧
    (∀ l ∈ below, ∀ name, l.role ≠ .scenario name) ∧ Ended below

variable {ls : List TextLine} {l : TextLine}

/-- A background has ended after a blank line, and where none begins none needs to end. -/
theorem Ended.concat
    (h : l.role = .blank ∨ Ended ls ∧ ∀ name, l.role ≠ .background name) : Ended (ls ++ [l]) := by
  rintro before l' after hsplit ⟨name, hrole⟩
  rcases List.eq_nil_or_concat after with rfl | ⟨after, last, rfl⟩
  · obtain ⟨-, hlast⟩ := List.append_inj' hsplit rfl
    obtain rfl : l = l' := List.singleton_inj.mp hlast
    rcases h with hblank | ⟨-, hne⟩
    · exact absurd (hblank.symm.trans hrole) (by simp)
    · exact absurd hrole (hne name)
  · rw [List.concat_eq_append, ← List.cons_append, ← List.append_assoc] at hsplit
    obtain ⟨hls, hlast⟩ := List.append_inj' hsplit rfl
    obtain rfl : l = last := List.singleton_inj.mp hlast
    rw [List.concat_eq_append]
    rcases h with hblank | ⟨hended, -⟩
    · exact ⟨l, by simp, hblank⟩
    · obtain ⟨b, hb, hblank⟩ := hended before l' after hls ⟨name, hrole⟩
      exact ⟨b, List.mem_append_left _ hb, hblank⟩

theorem BeginsSection.inSection (h : l.BeginsSection) : InSection (ls ++ [l]) :=
  ⟨ls, l, [], rfl, h, by simp, by simp [Ended]⟩

theorem InSection.above (h : InSection ls) : SectionAbove ls := by
  obtain ⟨above, e, below, hls, hbegins, hscenario, -⟩ := h
  exact ⟨above, e, below, hls, hbegins, hscenario⟩

theorem SectionAbove.concat (h : SectionAbove ls) (hl : ∀ name, l.role ≠ .scenario name) :
    SectionAbove (ls ++ [l]) := by
  obtain ⟨above, e, below, rfl, hbegins, hscenario⟩ := h
  refine ⟨above, e, below ++ [l], by simp, hbegins, ?_⟩
  exact List.forall_mem_append.mpr ⟨hscenario, by simpa using hl⟩

/-- After a blank line the next one may belong to the section again. -/
theorem SectionAbove.inSection (h : SectionAbove ls) (hl : l.role = .blank) :
    InSection (ls ++ [l]) := by
  obtain ⟨above, e, below, rfl, hbegins, hscenario⟩ := h
  refine ⟨above, e, below ++ [l], by simp, hbegins, ?_, Ended.concat (Or.inl hl)⟩
  exact List.forall_mem_append.mpr ⟨hscenario, by simp [hl]⟩

theorem InSection.concat (h : InSection ls) (hl : ∀ name, l.role ≠ .scenario name)
    (hl' : ∀ name, l.role ≠ .background name) : InSection (ls ++ [l]) := by
  obtain ⟨above, e, below, rfl, hbegins, hscenario, hended⟩ := h
  refine ⟨above, e, below ++ [l], by simp, hbegins, ?_, Ended.concat (Or.inr ⟨hended, hl'⟩)⟩
  exact List.forall_mem_append.mpr ⟨hscenario, by simpa using hl⟩

end TextLine

/-! ## A line that is refused stands in a section -/

/-- **What the lines tell about sections**, if the next one stands at the site. -/
structure Sections (s : Site) (ls : List TextLine) : Prop where
  skipping : s.skipping = true → TextLine.InSection ls
  around : s.around = some true → TextLine.SectionAbove ls
  /-- A line that is not supported begins a section or stands in one. -/
  stray : ∀ before l after, ls = before ++ l :: after → l.role = .stray →
    l.BeginsSection ∨ TextLine.InSection before

namespace Reading

variable {W : Type} {reg : Registry W} {r r' : Reading} {s : Site} {line : Nat} {raw text : Text}
  {kind : LineKind} {remark : Option Remark}

/-- What is read outside and not supported is `Examples:`, or stands in a section. -/
theorem examples_of_stray (h : ReadsOutside reg line raw text r kind r' remark)
    (hrole : r.mode.roleOf kind = .stray) : kind = .examples ∨ r.mode = .examples := by
  cases h with
  | examples => exact Or.inl rfl
  | refused hmode => exact Or.inr hmode
  | beginDocString hmode | step hmode =>
    rw [Mode.roleOf_of_ne hmode] at hrole
    exact absurd hrole (by simp [Role.ofKind])
  | conjunction hkeyword =>
    rw [Mode.roleOf_of_ne (ne_examples_of_keyword? hkeyword)] at hrole
    exact absurd hrole (by simp [Role.ofKind])
  | _ =>
    rw [Mode.roleOf_of_passes rfl] at hrole
    exact absurd hrole (by simp [Role.ofKind])

/-- Whether lines are skipped is seen when the narrative is left. -/
theorem At.skipping_iff (h : r.At s) (hdoc : r.mode ≠ .docString) :
    s.skipping = true ↔ r.leaveNarrative.mode = .examples := by
  rw [mode_leaveNarrative hdoc, ← h.site]
  exact decide_eq_true_iff

/-- What is read and not supported is `Examples:`, or stands in a section. -/
theorem At.examples_of_stray (h : r.At s) (hread : Reads reg line raw r r' remark)
    (hrole : s.role raw = .stray) :
    LineKind.ofLine (Text.trim raw) = .examples ∨ s.skipping = true := by
  have hrole : r.role raw = .stray := by
    unfold Reading.role
    rwa [h.site]
  cases hread with
  | endDocString hmode hkind =>
    rw [role_of_docString hmode, Place.role_docString hkind] at hrole
    exact absurd hrole (by simp)
  | verbatim hmode hkind =>
    rw [role_of_docString hmode, Place.role_docString_of_ne hkind] at hrole
    exact absurd hrole (by simp)
  | narrative hmode hkind =>
    rw [role_of_narrative hmode hkind] at hrole
    exact absurd hrole (by simp)
  | narrativeComment hmode hkind =>
    rw [role_of_narrativeComment hmode hkind] at hrole
    exact absurd hrole (by simp)
  | outside hdoc hfree hread =>
    rw [role_of_outside hdoc hfree] at hrole
    exact (Reading.examples_of_stray hread hrole).imp_right (h.skipping_iff hdoc).mpr

end Reading

namespace Sections

variable {W : Type} {reg : Registry W} {r r' : Reading} {s : Site} {ls : List TextLine}
  {line : Nat} {raw : Text} {remark : Option Remark}

/-- Before the first line. -/
theorem initial : Sections {} [] := ⟨by simp, by simp, by simp⟩

/-- **Every line that is read keeps what the lines tell about sections.** -/
theorem reads (h : Sections s ls) (hat : r.At s) (hread : Reading.Reads reg line raw r r' remark) :
    Sections (s.next (s.role raw)) (ls ++ [{ line, role := s.role raw, raw }]) := by
  have hline : s.role raw = .stray →
      LineKind.ofLine (Text.trim raw) = .examples ∨ s.skipping = true := hat.examples_of_stray hread
  generalize hrole : s.role raw = role at hline ⊢
  generalize hl : ({ line, role, raw } : TextLine) = l
  have hlrole : l.role = role := hl ▸ rfl
  have hlstray : role = .stray → l.BeginsSection ∨ TextLine.InSection ls := by
    rintro rfl
    exact (hline rfl).imp (fun hkind => ⟨hl ▸ hkind, hlrole⟩) h.skipping
  have hstray : ∀ before l' after, ls ++ [l] = before ++ l' :: after → l'.role = .stray →
      l'.BeginsSection ∨ TextLine.InSection before := by
    intro before l' after hsplit hl'
    rcases List.eq_nil_or_concat after with rfl | ⟨after, last, rfl⟩
    · obtain ⟨rfl, hlast⟩ := List.append_inj' hsplit rfl
      obtain rfl : l = l' := List.singleton_inj.mp hlast
      exact hlstray (hlrole.symm.trans hl')
    · rw [List.concat_eq_append, ← List.cons_append, ← List.append_assoc] at hsplit
      exact h.stray before l' after (List.append_inj' hsplit rfl).1 hl'
  -- a line that begins nothing and ends nothing leaves a section as it is
  have hkept (hscenario : ∀ name, role ≠ .scenario name)
      (hbackground : ∀ name, role ≠ .background name) (hs : s.skipping = true) :
      TextLine.InSection (ls ++ [l]) :=
    (h.skipping hs).concat (hlrole ▸ hscenario) (hlrole ▸ hbackground)
  have habove (hscenario : ∀ name, role ≠ .scenario name) (hs : s.around = some true) :
      TextLine.SectionAbove (ls ++ [l]) := (h.around hs).concat (hlrole ▸ hscenario)
  cases role with
  | stray =>
    refine ⟨fun _ => ?_, habove (by simp), hstray⟩
    rcases hlstray rfl with hbegins | hsection
    · exact hbegins.inSection
    · exact hsection.concat (by simp [hlrole]) (by simp [hlrole])
  | blank =>
    refine ⟨fun hs => ?_, fun hs => absurd hs (by simp [Site.next]), hstray⟩
    -- a background that ends gives back what it stands in
    cases haround : s.around with
    | none => exact hkept (by simp) (by simp) (by simpa [Site.next, haround] using hs)
    | some skipping =>
      obtain rfl : skipping = true := by simpa [Site.next, haround] using hs
      exact (h.around haround).inSection hlrole
  | background name =>
    refine ⟨fun hs => absurd hs (by simp [Site.next]), fun hs => ?_, hstray⟩
    have hs : s.skipping = true := by simpa [Site.next] using hs
    exact (h.skipping hs).above.concat (by simp [hlrole])
  | scenario name =>
    exact ⟨fun hs => absurd hs (by simp [Site.next]), fun hs => absurd hs (by simp [Site.next]),
      hstray⟩
  | _ => exact ⟨hkept (by simp) (by simp), habove (by simp), hstray⟩

end Sections

/-! ## A section is skipped -/

namespace Site

variable {s : Site} {raw : Text} {kind : LineKind}

/-- The line stands in a section of examples, and there is nothing else around it. -/
structure Skips (s : Site) : Prop where
  place : s.place = .outside
  skipping : s.skipping = true

/-- `Examples:` is not supported, wherever it stands but in a doc string. -/
theorem role_examples (hplace : s.place ≠ .docString)
    (hkind : LineKind.ofLine (Text.trim raw) = .examples) : s.role raw = .stray := by
  have hrole : s.place.role raw = .stray := by
    cases hs : s.place with
    | docString => exact absurd hs hplace
    | narrative =>
      rw [Place.role_narrative_outside (by rw [hkind]; rfl), Place.role_outside, hkind]
      rfl
    | outside =>
      rw [Place.role_outside, hkind]
      rfl
  unfold role
  rw [hrole]
  split <;> rfl

/-- After `Examples:` lines are skipped. -/
theorem skips_next_stray (hplace : s.place ≠ .docString) : (s.next .stray).Skips := by
  refine ⟨?_, rfl⟩
  show s.place.next .stray = .outside
  cases hs : s.place with
  | docString => exact absurd hs hplace
  | _ => rfl

namespace Skips

theorem role (h : s.Skips) :
    s.role raw = Mode.examples.roleOf (LineKind.ofLine (Text.trim raw)) := by
  unfold Site.role Mode.roleOf
  rw [h.place, h.skipping, Place.role_outside, Mode.passes_ofKind]
  simp

/-- A line that begins no other part is skipped, and so is the next one, unless a blank line ends
a background. -/
theorem next (h : s.Skips) (hkind : kind.beginsPart = false)
    (hblank : s.around = none ∨ kind ≠ .blank) :
    (kind = .blank ∨ kind = .comment ∨ Mode.examples.roleOf kind = .stray) ∧
      (s.next (Mode.examples.roleOf kind)).Skips ∧
      (s.next (Mode.examples.roleOf kind)).around = s.around := by
  have hstray : (s.next .stray).Skips := skips_next_stray (by simp [h.place])
  cases kind with
  | feature name => exact absurd hkind (by simp [LineKind.beginsPart])
  | background name => exact absurd hkind (by simp [LineKind.beginsPart])
  | scenario name => exact absurd hkind (by simp [LineKind.beginsPart])
  | blank =>
    have haround : s.around = none := hblank.resolve_right (by simp)
    refine ⟨Or.inl rfl, ⟨?_, ?_⟩, haround.symm⟩
    · show s.place.next .blank = .outside
      rw [h.place]
      rfl
    · show s.around.getD s.skipping = true
      rw [haround, h.skipping]
      rfl
  | comment =>
    refine ⟨Or.inr (Or.inl rfl), ⟨?_, h.skipping⟩, rfl⟩
    show s.place.next .comment = .outside
    rw [h.place]
    rfl
  | _ => exact ⟨Or.inr (Or.inr rfl), hstray, rfl⟩

end Skips

end Site

/-- **The lines of a section are not supported**, unless they are blank or comments. -/
theorem TextLine.stray_of_skips {s : Site} {n : Nat} {body : List Text} (hs : s.Skips)
    (hbody : ∀ raw ∈ body, (LineKind.ofLine (Text.trim raw)).beginsPart = false)
    (hblank : s.around = none ∨ ∀ raw ∈ body, LineKind.ofLine (Text.trim raw) ≠ .blank) :
    ∀ l ∈ TextLine.ofLines s n body, LineKind.ofLine (Text.trim l.raw) = .blank ∨
      LineKind.ofLine (Text.trim l.raw) = .comment ∨ l.role = .stray := by
  induction body generalizing s n with
  | nil => simp [TextLine.ofLines]
  | cons raw rest ih =>
    obtain ⟨hraw, hrest⟩ := List.forall_mem_cons.mp hbody
    obtain ⟨hkind, hnext, haround⟩ := hs.next hraw (hblank.imp_right fun h => h raw (by simp))
    rw [← hs.role] at hkind hnext haround
    rw [TextLine.ofLines, List.forall_mem_cons]
    refine ⟨hkind, ih hnext hrest ?_⟩
    rw [haround]
    exact hblank.imp_right fun h raw' hmem => h raw' (List.mem_cons_of_mem raw hmem)

namespace Reading

variable {W : Type} {reg : Registry W} {r : Reading} {s : Site} {n : Nat} {raw : Text}
  {body : List Text}

/-- Neither `Examples:` nor a line of a section ends the scan. -/
theorem At.exists_reads (h : r.At s) (reg : Registry W) (n : Nat)
    (hkind : (LineKind.ofLine (Text.trim raw)).beginsPart = false)
    (hsection : LineKind.ofLine (Text.trim raw) = .examples ∨ s.skipping = true) :
    ∃ r' remark, Reads reg n raw r r' remark ∧ r.take reg n raw = .ok (r'.list n raw remark) := by
  cases htake : r.take reg n raw with
  | ok r₁ =>
    obtain ⟨r', remark, hread, rfl⟩ := take_eq_ok_iff.mp htake
    exact ⟨r', remark, hread, rfl⟩
  | error rejection =>
    obtain ⟨fault, hfaults, -⟩ := take_eq_error_iff.mp htake
    have houtside := hfaults.outside
    rw [h.skipping_iff hfaults.docString] at hsection
    generalize LineKind.ofLine (Text.trim raw) = kind at hkind hsection houtside
    cases houtside with
    | unnamedFeature => exact absurd hkind (by simp [LineKind.beginsPart])
    | secondBackground => exact absurd hkind (by simp [LineKind.beginsPart])
    | strayConjunction hmode => exact absurd (hsection.resolve_left (by simp)) hmode
    | unknownLine hmode => exact absurd (hsection.resolve_left (by simp)) hmode

/-- The lines of a section are read to their end. -/
theorem takeLines_of_skips (h : r.At s) (hs : s.Skips)
    (hbody : ∀ raw ∈ body, (LineKind.ofLine (Text.trim raw)).beginsPart = false)
    (hblank : s.around = none ∨ ∀ raw ∈ body, LineKind.ofLine (Text.trim raw) ≠ .blank) :
    ∃ r', takeLines reg r n body = .ok r' := by
  induction body generalizing r s n with
  | nil => exact ⟨r, rfl⟩
  | cons raw rest ih =>
    obtain ⟨hraw, hrest⟩ := List.forall_mem_cons.mp hbody
    obtain ⟨-, hnext, haround⟩ := hs.next hraw (hblank.imp_right fun h => h raw (by simp))
    have hblank : s.around = none ∨ ∀ raw ∈ rest, LineKind.ofLine (Text.trim raw) ≠ .blank :=
      hblank.imp_right fun h raw' hmem => h raw' (List.mem_cons_of_mem raw hmem)
    obtain ⟨r₁, remark, hread, htake⟩ := h.exists_reads reg n hraw (Or.inr hs.skipping)
    have hat : At _ (r₁.list n raw remark) := (h.reads hread).list
    rw [Reading.role, h.site, hs.role] at hat
    obtain ⟨r', hr'⟩ := ih (n := n + 1) hat hnext hrest (haround ▸ hblank)
    exact ⟨r', takeLines_cons_eq_ok_iff.mpr ⟨_, htake, hr'⟩⟩

/-- **A section is read to its end**, from the line that begins it. -/
theorem takeLines_skips (h : r.At s) (hmode : r.mode ≠ .docString)
    (hraw : LineKind.ofLine (Text.trim raw) = .examples)
    (hbody : ∀ raw ∈ body, (LineKind.ofLine (Text.trim raw)).beginsPart = false)
    (hblank : r.openBackground = none ∨
      ∀ raw ∈ body, LineKind.ofLine (Text.trim raw) ≠ .blank) :
    (∃ r', takeLines reg r n (raw :: body) = .ok r') ∧
      ∀ l ∈ TextLine.ofLines s n (raw :: body), LineKind.ofLine (Text.trim l.raw) = .blank ∨
        LineKind.ofLine (Text.trim l.raw) = .comment ∨ l.role = .stray := by
  have hplace : s.place ≠ .docString := by
    rw [← h.place]
    cases hm : r.mode with
    | docString => exact absurd hm hmode
    | _ => simp [Place.ofMode]
  have haround : r.openBackground = none → s.around = none := by
    intro hopen
    have hopened := h.opened
    rw [hopen] at hopened
    have hnone : aroundBackground? r.modes = none := by simpa using hopened.symm
    rw [← h.site]
    exact Option.map_eq_none_iff.mpr hnone
  have hrole : s.role raw = .stray := Site.role_examples hplace hraw
  have hskips : (s.next .stray).Skips := Site.skips_next_stray hplace
  have hblank := hblank.imp_left haround
  constructor
  · obtain ⟨r₁, remark, hread, htake⟩ := h.exists_reads reg n (by rw [hraw]; rfl) (Or.inl hraw)
    have hat : At _ (r₁.list n raw remark) := (h.reads hread).list
    rw [Reading.role, h.site, hrole] at hat
    obtain ⟨r', hr'⟩ := takeLines_of_skips (n := n + 1) hat hskips hbody hblank
    exact ⟨r', takeLines_cons_eq_ok_iff.mpr ⟨_, htake, hr'⟩⟩
  · rw [TextLine.ofLines, hrole, List.forall_mem_cons]
    exact ⟨Or.inr (Or.inr rfl), TextLine.stray_of_skips hskips hbody hblank⟩

end Reading

end Gherkin
