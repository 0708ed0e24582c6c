import Gherkin.Proofs.Feature.Account
import Gherkin.Proofs.Feature.Frame
import Gherkin.Proofs.Step.Extension

/-!
# Reading after one more registration

What can become of a feature when one more step is registered? Either the new pattern matches none
of its steps, and it is read as before, or it is rejected, because the first of the steps that the
pattern matches has become ambiguous (`Feature.read_of_register`). No step is ever silently bound to
another definition.

In the first case all lookups are the same, so all lines are read alike (`takeLines_congr`). In the
second the two readings differ from the first ambiguous step on, in what they keep; but they stay in
one frame, so the second comes to the end of the text too, and has gathered no fault before that
step.
-/

namespace Gherkin

namespace Entry

/-- Only a step can be ambiguous. -/
theorem isStep_of_ambiguous? {W : Type} {reg : Registry W} {e : Entry} {a : Nat × Ambiguity}
    (h : e.ambiguous? reg = some a) : e.isStep = true := by
  obtain ⟨n, role⟩ := e
  cases role with
  | step keyword text => rfl
  | _ => exact absurd h (by simp [ambiguous?])

end Entry

namespace Reading

variable {W : Type} {reg reg' : Registry W} {r r' : Reading} {line : Nat} {raw text : Text}
  {kind : LineKind} {remark : Option Remark}

/-! ## The same lookups -/

theorem step_congr (h : reg'.find text = reg.find text) (r : Reading) (line : Nat)
    (keyword : Keyword) (conjunction : Bool) :
    r.step reg' line keyword conjunction text = r.step reg line keyword conjunction text := by
  unfold step
  rw [h]

theorem ReadsOutside.congr (hread : ReadsOutside reg line raw text r kind r' remark)
    (hfind : ∀ keyword stepText, Role.ofKind kind = .step keyword stepText →
      reg'.find stepText = reg.find stepText) :
    ReadsOutside reg' line raw text r kind r' remark := by
  cases hread with
  | blank => exact .blank
  | comment => exact .comment
  | beginDocString hmode => exact .beginDocString hmode
  | feature hname => exact .feature hname
  | background hclosed hopen => exact .background hclosed hopen
  | scenario => exact .scenario
  | @step keyword stepText hmode =>
    rw [← step_congr (hfind (some keyword) stepText rfl)]
    exact .step hmode
  | @conjunction keyword stepText hkeyword =>
    rw [← step_congr (hfind none stepText rfl)]
    exact .conjunction hkeyword
  | examples hmode => exact .examples hmode
  | refused hmode hkind => exact .refused hmode hkind

/-- A line is read alike if its step, if it is one, is found alike. -/
theorem Reads.congr (hread : Reads reg line raw r r' remark)
    (hfind : ∀ keyword stepText, (Place.ofMode r.mode).role raw = .step keyword stepText →
      reg'.find stepText = reg.find stepText) :
    Reads reg' line raw r r' remark := by
  cases hread with
  | endDocString hmode hkind => exact .endDocString hmode hkind
  | verbatim hmode hkind => exact .verbatim hmode hkind
  | narrative hmode hkind => exact .narrative hmode hkind
  | narrativeComment hmode hkind => exact .narrativeComment hmode hkind
  | outside hdoc hfree hread =>
    rw [placeRole_of_outside hdoc hfree] at hfind
    exact .outside hdoc hfree (hread.congr hfind)

/-- **Lines are read alike if their steps are found alike.** -/
theorem takeLines_congr {p : Place} {es : List Entry} {lines : List Text}
    (hlines : takeLines reg r line lines = .ok r') (hsupported : r'.unsupported = none)
    (hcovers : Covers reg p es r)
    (hfind : ∀ e ∈ Entry.ofLines p line lines, ∀ keyword stepText,
      e.role = .step keyword stepText → reg'.find stepText = reg.find stepText) :
    takeLines reg' r line lines = .ok r' := by
  induction lines generalizing r line p es with
  | nil => exact hlines
  | cons raw rest ih =>
    obtain ⟨r₁, htake, hrest⟩ := takeLines_cons_eq_ok_iff.mp hlines
    obtain ⟨r₂, remark, hread, rfl⟩ := take_eq_ok_iff.mp htake
    rw [Entry.ofLines, List.forall_mem_cons] at hfind
    have hplace : Place.ofMode r.mode = p := hcovers.standing.innermost
    have hread' : Reads reg' line raw r r₂ remark := hread.congr fun keyword stepText hrole =>
      hfind.1 keyword stepText (hplace ▸ hrole)
    have hlisted : (r₂.list line raw remark).unsupported = none :=
      unsupported_of_takeLines hrest hsupported
    exact takeLines_cons_eq_ok_iff.mpr ⟨_, take_eq_ok_iff.mpr ⟨r₂, remark, hread', rfl⟩,
      ih hrest (hcovers.reads hread hlisted).list hfind.2⟩

/-- Steps are checked alike against handlers with the same shapes. -/
theorem arityFaults_congr {steps : List Step}
    (h : ∀ s ∈ steps, reg'.shapes? s.found.handler = reg.shapes? s.found.handler) :
    arityFaults reg' steps = arityFaults reg steps := by
  unfold arityFaults
  refine List.filterMap_congr fun s hs => ?_
  rw [h s hs]

/-- Lines are read or refused alike if every text is found alike. -/
theorem takeLines_eq_of_find (h : ∀ text, reg'.find text = reg.find text) (r : Reading)
    (line : Nat) (lines : List Text) :
    takeLines reg' r line lines = takeLines reg r line lines := by
  have htake (r : Reading) (line : Nat) (raw : Text) :
      r.take reg' line raw = r.take reg line raw := by
    unfold take readLine readOutside readKind
    simp only [step_congr (h _)]
  induction lines generalizing r line with
  | nil => rfl
  | cons raw rest ih =>
    rw [takeLines, takeLines, htake]
    exact bind_congr fun r' => ih r' (line + 1)

/-- An ambiguous step is reported before every step that its handler does not accept. -/
theorem finish_of_ambiguous (reg : Registry W) {e : Ambiguity} {rest : List (Nat × Ambiguity)}
    (hunsupported : r.close.unsupported = none)
    (hambiguous : r.close.ambiguous = (line, e) :: rest) :
    ∃ listing, r.finish reg = .error { fault := .ambiguous line e, listing } := by
  unfold finish
  dsimp only
  rw [hunsupported, hambiguous]
  exact ⟨_, rfl⟩

end Reading

namespace Feature

variable {W : Type} {reg reg' : Registry W} {text pattern : Text} {location : Location}
  {handler : Handler W} {p : Pattern} {f : Feature}

/-- **Features are read alike if texts are found alike and handlers have the same shapes**: of the
registered steps nothing else matters. -/
theorem read_congr (hfind : ∀ text, reg'.find text = reg.find text)
    (hshapes : ∀ i, reg'.shapes? i = reg.shapes? i) (text : Text) :
    Feature.read reg' text = Feature.read reg text := by
  have hfinish (r : Reading) : r.finish reg' = r.finish reg := by
    have hfaults : Reading.arityFaults reg' r.close.stepsRead
        = Reading.arityFaults reg r.close.stepsRead :=
      Reading.arityFaults_congr fun s _ => hshapes s.found.handler
    unfold Reading.finish
    dsimp only
    rw [hfaults]
  unfold Feature.read
  rw [Reading.takeLines_eq_of_find hfind]
  exact bind_congr hfinish

/-! ## One more step -/

/-- A line that is a step is one of the feature. -/
theorem Accepted.exists_step {es : List Entry} {e : Entry} (h : f.Accepted reg es) (he : e ∈ es)
    (hstep : e.isStep = true) : ∃ s ∈ f.steps, s.entry = e :=
  List.mem_map.mp (h.perm_steps.mem_iff.mpr (List.mem_filter.mpr ⟨he, hstep⟩))

/-- A feature none of whose steps the new pattern matches is read as before. -/
theorem read_of_not_isMatch (hread : Feature.read reg text = .ok f)
    (hregister : reg.register pattern location handler = .ok reg')
    (hp : Pattern.ofText? pattern = some p) (hnone : ∀ s ∈ f.steps, p.isMatch s.text = false) :
    Feature.read reg' text = .ok f := by
  have haccepted := accepted_of_read hread
  obtain ⟨r, htake, hfinish⟩ := read_eq_ok_iff.mp hread
  obtain ⟨hunsupported, hambiguous, hmissing, harity, hf⟩ := Reading.finish_eq_ok_iff.mp hfinish
  have hsupported : r.unsupported = none := Reading.unsupported_of_finish hfinish
  have hsteps : f.steps = r.close.stepsRead := by
    rw [hf]
    exact steps_eq_elim _
  have htake' : Reading.takeLines reg' {} 1 (Text.lines text) = .ok r := by
    refine Reading.takeLines_congr htake hsupported Covers.initial ?_
    intro e he keyword stepText hrole
    have hstep : e.isStep = true := by
      unfold Entry.isStep
      rw [hrole]
    obtain ⟨s, hs, rfl⟩ := haccepted.exists_step he hstep
    obtain ⟨-, rfl⟩ := Role.step.inj hrole
    exact Registry.find_of_not_isMatch hregister hp (hnone s hs)
  have hshapes : ∀ s ∈ r.close.stepsRead,
      reg'.shapes? s.found.handler = reg.shapes? s.found.handler := by
    intro s hs
    obtain ⟨d, hd⟩ := Registry.definition_of_find (haccepted.found s (hsteps ▸ hs))
    exact Registry.shapes?_of_register hregister (List.getElem?_eq_some_iff.mp hd).1
  refine read_eq_ok_iff.mpr ⟨r, htake', Reading.finish_eq_ok_iff.mpr ?_⟩
  exact ⟨hunsupported, hambiguous, hmissing, (Reading.arityFaults_congr hshapes).trans harity, hf⟩

/-- Whatever steps are registered instead, a text that was read is read to its end, where the first
step that is ambiguous is reported. -/
theorem read_of_ambiguous (hread : Feature.read reg text = .ok f) (reg' : Registry W) {line : Nat}
    {e : Ambiguity} {rest : List (Nat × Ambiguity)}
    (hambiguous : (Entry.ofText text).filterMap (Entry.ambiguous? reg') = (line, e) :: rest) :
    ∃ listing, Feature.read reg' text = .error { fault := .ambiguous line e, listing } := by
  obtain ⟨r, htake, hfinish⟩ := read_eq_ok_iff.mp hread
  have hsupported : r.unsupported = none := Reading.unsupported_of_finish hfinish
  obtain ⟨q, hq, hframe⟩ := Reading.takeLines_of_frame_eq reg' rfl htake
  have hsupported' : q.unsupported = none :=
    (Reading.unsupported_of_frame_eq hframe).symm.trans hsupported
  -- what is ambiguous among the lines has been gathered
  obtain ⟨place, hcovers⟩ := Reading.takeLines_covers hq hsupported' Covers.initial
  rw [List.nil_append] at hcovers
  have hgathered : q.close.ambiguous = (Entry.ofText text).filterMap (Entry.ambiguous? reg') :=
    congrArg Gathered.ambiguous (Reading.gathered_close.trans hcovers.gathered)
  obtain ⟨listing, hrejected⟩ := Reading.finish_of_ambiguous reg'
    (Reading.unsupported_close.trans hsupported') (hgathered.trans hambiguous)
  refine ⟨listing, ?_⟩
  unfold Feature.read
  rw [hq]
  exact hrejected

/-- What becomes of a step when the new pattern is tried on it too. -/
theorem ambiguous?_of_register (hregister : reg.register pattern location handler = .ok reg')
    (hp : Pattern.ofText? pattern = some p) {s : Step} (hfound : reg.find s.text = .ok s.found) :
    s.entry.ambiguous? reg'
      = if p.isMatch s.text then
          some (s.line, .between s.text (s.found.pattern, s.found.location) (pattern, location))
        else none := by
  unfold Entry.ambiguous? Step.entry
  dsimp only
  cases hmatch : p.isMatch s.text with
  | true =>
    rw [Registry.find_of_isMatch hregister hp hfound hmatch]
    rfl
  | false =>
    rw [Registry.find_of_not_isMatch hregister hp hmatch, hfound]
    rfl

/-- A feature of whose steps the new pattern matches some is rejected, for the first of them. -/
theorem read_of_isMatch (hread : Feature.read reg text = .ok f)
    (hregister : reg.register pattern location handler = .ok reg')
    (hp : Pattern.ofText? pattern = some p) (hsome : ∃ s ∈ f.steps, p.isMatch s.text = true) :
    ∃ s ∈ f.steps, p.isMatch s.text = true ∧
      (∀ s' ∈ f.steps, p.isMatch s'.text = true → s.line ≤ s'.line) ∧
      ∃ listing, Feature.read reg' text = .error
        { fault := .ambiguous s.line
            (.between s.text (s.found.pattern, s.found.location) (pattern, location))
          listing } := by
  have haccepted := accepted_of_read hread
  have hambiguous (s : Step) (hs : s ∈ f.steps) :=
    ambiguous?_of_register hregister hp (haccepted.found s hs)
  have hentry (s : Step) (hs : s ∈ f.steps) : s.entry ∈ Entry.ofText text :=
    (List.mem_filter.mp (haccepted.perm_steps.subset (List.mem_map_of_mem hs))).1
  cases hall : (Entry.ofText text).filterMap (Entry.ambiguous? reg') with
  | nil =>
    obtain ⟨s, hs, hmatch⟩ := hsome
    have hnone := List.filterMap_eq_nil_iff.mp hall s.entry (hentry s hs)
    rw [hambiguous s hs, if_pos hmatch] at hnone
    exact absurd hnone (by simp)
  | cons first rest =>
    obtain ⟨e, he, hfirst, hleast⟩ :=
      exists_first_of_filterMap (Entry.pairwise_line_ofText text) hall
    obtain ⟨s, hs, rfl⟩ := haccepted.exists_step he (Entry.isStep_of_ambiguous? hfirst)
    rw [hambiguous s hs] at hfirst
    split at hfirst
    next hmatch =>
      obtain rfl := Option.some.inj hfirst
      refine ⟨s, hs, hmatch, ?_, read_of_ambiguous hread reg' hall⟩
      intro s' hs' hmatch'
      exact hleast s'.entry (hentry s' hs') _ ((hambiguous s' hs').trans (if_pos hmatch'))
    next => exact absurd hfirst (by simp)

/-- **A new step never takes a step of a feature over.** If a feature is read and one more step is
registered, then it is read as before, unless the new pattern matches one of its steps. If it does,
the feature is rejected, whatever else may be wrong with it now: the first of the steps that the new
pattern matches is ambiguous between the pattern that it had been found with and the new one, which
is another, and the two are named in the order of their texts. -/
theorem read_of_register (hread : Feature.read reg text = .ok f)
    (hregister : reg.register pattern location handler = .ok reg') :
    ∃ p, Pattern.ofText? pattern = some p ∧
      ((∀ s ∈ f.steps, p.isMatch s.text = false) → Feature.read reg' text = .ok f) ∧
      ((∃ s ∈ f.steps, p.isMatch s.text = true) →
        ∃ s ∈ f.steps, p.isMatch s.text = true ∧
          (∀ s' ∈ f.steps, p.isMatch s'.text = true → s.line ≤ s'.line) ∧
          s.found.pattern ≠ pattern ∧
          ∃ listing, Feature.read reg' text = .error
            { fault := .ambiguous s.line
                (.between s.text (s.found.pattern, s.found.location) (pattern, location))
              listing }) := by
  obtain ⟨hnew, p, hp, -⟩ := Registry.register_eq_ok_iff.mp hregister
  refine ⟨p, hp, read_of_not_isMatch hread hregister hp, fun hsome => ?_⟩
  obtain ⟨s, hs, hmatch, hleast, hrejected⟩ := read_of_isMatch hread hregister hp hsome
  have hfound : reg.find s.text = .ok s.found := (accepted_of_read hread).found s hs
  have hne : s.found.pattern ≠ pattern := fun heq =>
    hnew (heq ▸ Registry.pattern_mem_of_find hfound)
  exact ⟨s, hs, hmatch, hleast, hne, hrejected⟩

/-- A new step for the empty text, where there is one for every text. Of the three steps of the
feature it matches the second and the third. -/
theorem read_of_register_sample :
    let reg : Registry Unit := { definitions := Sample.everyText.definition?.toList }
    ∃ f reg', Feature.read reg "When a\nThen\nAnd".toList = .ok f ∧
      reg.register Sample.emptyText.pattern Sample.emptyText.location Sample.emptyText.handler
        = .ok reg' ∧
      ∃ s ∈ f.steps, s.line = 2 ∧ ∃ listing,
        Feature.read reg' "When a\nThen\nAnd".toList = .error
          { fault := .ambiguous s.line
              (.between s.text (s.found.pattern, s.found.location)
                (Sample.emptyText.pattern, Sample.emptyText.location))
            listing } := by
  intro reg
  let p : Pattern :=
    { source := Sample.emptyText.pattern
      program := .ofNode (.seq (.assertion .textStart) (.assertion .textEnd)) }
  have hp : Pattern.ofText? Sample.emptyText.pattern = some p := by decide +kernel
  have hnew : Sample.emptyText.pattern ∉ reg.patterns := by decide +kernel
  obtain ⟨reg', hregister⟩ : ∃ reg', reg.register Sample.emptyText.pattern
      Sample.emptyText.location Sample.emptyText.handler = .ok reg' :=
    ⟨⟨_⟩, Registry.register_eq_ok_iff.mpr ⟨hnew, p, hp, rfl⟩⟩
  have hlines : (Feature.read reg "When a\nThen\nAnd".toList).toOption.map
      (fun f => (f.steps.filter fun s => p.isMatch s.text).map Step.line) = some [2, 3] := by
    decide +kernel
  cases hread : Feature.read reg "When a\nThen\nAnd".toList with
  | error rejection =>
    rw [hread] at hlines
    exact absurd hlines (by simp [Except.toOption])
  | ok f =>
    rw [hread] at hlines
    have hlines : (f.steps.filter fun s => p.isMatch s.text).map Step.line = [2, 3] :=
      Option.some.inj hlines
    obtain ⟨p', hp', -, hrejected⟩ := read_of_register hread hregister
    obtain rfl : p = p' := Option.some.inj (hp.symm.trans hp')
    have hmem : 2 ∈ (f.steps.filter fun s => p.isMatch s.text).map Step.line := by
      rw [hlines]
      decide
    obtain ⟨first, hfirst, hline⟩ := List.mem_map.mp hmem
    obtain ⟨hfirst, hmatch⟩ := List.mem_filter.mp hfirst
    obtain ⟨s, hs, hsMatch, hleast, -, listing, hread'⟩ := hrejected ⟨first, hfirst, hmatch⟩
    have hsecond : s.line = 2 := by
      have hle : s.line ≤ 2 := hline ▸ hleast first hfirst hmatch
      have hin : s.line ∈ [2, 3] := by
        rw [← hlines]
        exact List.mem_map_of_mem (List.mem_filter.mpr ⟨hs, hsMatch⟩)
      simp only [List.mem_cons, List.not_mem_nil, or_false] at hin
      omega
    exact ⟨f, reg', rfl, hregister, s, hs, hsecond, listing, hread'⟩

end Feature

end Gherkin
