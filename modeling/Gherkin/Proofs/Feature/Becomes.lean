import Gherkin.Proofs.Feature.Transition

/-!
# Reading lines, the listing left aside

Where a text is known line by line, what is read of it can be followed line by line. The listing
only gets in the way then: it grows with every line, and nothing that is read depends on it
(`Reads.withListing`). `Reading.Becomes` says what reading some lines makes of a reading, whatever
is listed before and after, and such facts are put together with `Becomes.cons` and
`Becomes.append`.
-/

namespace Gherkin

namespace Reading

variable {W : Type} {reg : Registry W} {r r₁ r₂ : Reading} {n : Nat} {raw : Text}
  {lines more : List Text} {remark : Option Remark}

theorem endBackground_withListing (r : Reading) (listing : Listing) :
    ({ r with listing } : Reading).endBackground = { r.endBackground with listing } := by
  unfold endBackground
  dsimp only
  split
  next => rfl
  next => rfl

theorem attach_withListing (r : Reading) (listing : Listing) (target : Option StepPlace)
    (doc : Text) :
    ({ r with listing } : Reading).attach target doc = { r.attach target doc with listing } := by
  match target with
  | none => rfl
  | some (.item i) => rfl
  | some (.background i) => rfl

theorem endDocString_withListing (r : Reading) (listing : Listing) :
    ({ r with listing } : Reading).endDocString = { r.endDocString with listing } := by
  by_cases hblock : r.docString = none
  · have hblock' : ({ r with listing } : Reading).docString = none := hblock
    rw [endDocString_of_none hblock, endDocString_of_none hblock']
    rfl
  · obtain ⟨block, hblock⟩ := Option.ne_none_iff_exists'.mp hblock
    have hblock' : ({ r with listing } : Reading).docString = some block := hblock
    have hattach := attach_withListing { r with modes := r.modesAfterDocString, docString := none }
      listing block.target block.text
    rw [endDocString_of_some hblock, endDocString_of_some hblock']
    exact congrArg (fun q : Reading => { q with lastStep := none }) hattach

theorem step_withListing (r : Reading) (listing : Listing) (keyword : Keyword)
    (conjunction : Bool) (text : Text) :
    ({ r with listing } : Reading).step reg n keyword conjunction text
      = ({ (r.step reg n keyword conjunction text).1 with listing },
          (r.step reg n keyword conjunction text).2) := by
  unfold step
  cases reg.find text with
  | ok m => rfl
  | error e => cases e <;> rfl

/-- Nothing that is read depends on the listing. -/
theorem Reads.withListing (h : Reads reg n raw r r₁ remark)
    (listing : Listing) : Reads reg n raw { r with listing } { r₁ with listing } remark := by
  cases h with
  | endDocString hmode hkind =>
    rw [← endDocString_withListing]
    exact .endDocString hmode hkind
  | verbatim hmode hkind => exact .verbatim hmode hkind
  | narrative hmode hkind => exact .narrative hmode hkind
  | narrativeComment hmode hkind => exact .narrativeComment hmode hkind
  | outside hdoc hfree hread =>
    -- leaving the narrative looks at the modes only
    have hleft :
        ({ r with listing } : Reading).leaveNarrative = { r.leaveNarrative with listing } := by
      unfold leaveNarrative
      by_cases hmode : r.mode = .narrative
      · have hmode' : ({ r with listing } : Reading).mode = .narrative := hmode
        rw [if_pos hmode, if_pos hmode']
      · have hmode' : ({ r with listing } : Reading).mode ≠ .narrative := hmode
        rw [if_neg hmode, if_neg hmode']
    refine .outside hdoc hfree ?_
    rw [hleft]
    generalize r.leaveNarrative = q at hread
    generalize LineKind.ofLine (Text.trim raw) = kind at hread
    cases hread with
    | blank =>
      rw [← endBackground_withListing]
      exact .blank
    | comment => exact .comment
    | beginDocString hmode => exact .beginDocString hmode
    | feature hname => exact .feature hname
    | background hclosed hopen => exact .background hclosed hopen
    | @scenario name =>
      have hscenario : ReadsOutside reg n raw (Text.trim raw) { q with listing } (.scenario name) _
        none := .scenario
      rw [endBackground_withListing] at hscenario
      exact hscenario
    | @step keyword stepText hmode =>
      have hstep : ReadsOutside reg n raw (Text.trim raw) { q with listing }
        (.step keyword stepText) _ _ := .step hmode
      rw [step_withListing] at hstep
      exact hstep
    | @conjunction keyword stepText hkeyword =>
      have hstep : ReadsOutside reg n raw (Text.trim raw) { q with listing } (.conjunction stepText)
        _ _ := .conjunction hkeyword
      rw [step_withListing] at hstep
      exact hstep
    | examples hmode => exact .examples hmode
    | refused hmode hkind => exact .refused hmode hkind

/-- Reading the lines makes the one reading of the other, but for the listing. -/
def Becomes (reg : Registry W) (r : Reading) (n : Nat) (lines : List Text) (r' : Reading) : Prop :=
  ∀ listing, ∃ listing',
    takeLines reg { r with listing } n lines = .ok { r' with listing := listing' }

namespace Becomes

theorem nil (reg : Registry W) (r : Reading) (n : Nat) : Becomes reg r n [] r :=
  fun listing => ⟨listing, rfl⟩

/-- A line is read, and then the rest. -/
theorem cons (h : Reads reg n raw r r₁ remark)
    (hrest : Becomes reg r₁ (n + 1) lines r₂) : Becomes reg r n (raw :: lines) r₂ := by
  intro listing
  have hread := h.withListing listing
  obtain ⟨listing', htake⟩ :=
    hrest (({ r₁ with listing } : Reading).list n raw remark).listing
  exact ⟨listing', takeLines_cons_eq_ok_iff.mpr
    ⟨_, take_eq_ok_iff.mpr ⟨_, remark, hread, rfl⟩, htake⟩⟩

theorem single (h : Reads reg n raw r r₁ remark) :
    Becomes reg r n [raw] r₁ := .cons h (.nil reg r₁ (n + 1))

/-- Some lines are read, and then more. -/
theorem append (h : Becomes reg r n lines r₁)
    (hmore : Becomes reg r₁ (n + lines.length) more r₂) : Becomes reg r n (lines ++ more) r₂ := by
  intro listing
  obtain ⟨listing₁, htake⟩ := h listing
  obtain ⟨listing₂, htakeMore⟩ := hmore listing₁
  exact ⟨listing₂, (takeLines_append htake).trans htakeMore⟩

end Becomes

/-- The next line is read neither by a doc string nor by free text, nor is it skipped. -/
structure Outside (modes : List Mode) : Prop where
  docString : modes.headD .declaration ≠ .docString
  narrative : modes.headD .declaration ≠ .narrative
  examples : modes.headD .declaration ≠ .examples

theorem Outside.reads (h : Outside r.modes)
    (hread : ReadsOutside reg n raw (Text.trim raw) r (LineKind.ofLine (Text.trim raw)) r₁ remark) :
    Reads reg n raw r r₁ remark := by
  refine .outside h.docString (fun hmode => absurd hmode h.narrative) ?_
  rw [leaveNarrative_of_mode_ne h.narrative]
  exact hread

/-- A line that names something is recognised and read. -/
theorem Outside.reads_kind {kind : LineKind} (h : Outside r.modes)
    (hkind : LineKind.ofLine (Text.trim raw) = kind)
    (hread : ReadsOutside reg n raw (Text.trim raw) r kind r₁ remark) :
    Reads reg n raw r r₁ remark := h.reads (hkind ▸ hread)

end Reading

end Gherkin
