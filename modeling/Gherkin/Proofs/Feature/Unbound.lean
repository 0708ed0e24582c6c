import Gherkin.Proofs.Feature.Extension

/-!
# What a feature is apart from its registry

A feature is bound to registered steps, but what it consists of is a matter of its text alone. A
text that is rejected for one of its lines as such is rejected for the same line and the same fault
whatever steps are registered, and if two registries both accept it, they make the same feature of
it but for what the steps are bound to (`Feature.read_unbound`).

The first is the lockstep of frames. For the second a frame is not enough, because it says nothing
of the steps themselves. Two readings are `Alike` if they agree in all but what their steps are
bound to; lines that both read, and whose steps both find, keep them alike (`takeLines_alike`).
-/

namespace Gherkin

/-- Whether the fault is one of a line as such, whatever steps are registered. -/
def FeatureFault.isStructural : FeatureFault → Bool
  | unnamedFeature _ | secondBackground _ | unsupported _ _ | unknownLine _ _
  | strayConjunction _ => true
  | ambiguous _ _ | arity _ _ | unimplemented _ => false

/-! ## Features without what their steps are bound to -/

/-- A step as the text has it. -/
structure UnboundStep where
  line : Nat
  keyword : Keyword
  conjunction : Bool
  text : Text
  docString : Option Text
  deriving DecidableEq, Repr

/-- A background as the text has it. -/
structure UnboundBackground where
  name : Text
  line : Nat
  steps : List UnboundStep
  deriving DecidableEq, Repr

/-- A feature as the text has it, its markers and steps in order. -/
structure UnboundFeature where
  name : Option Text
  narrative : List Text
  background : Option UnboundBackground
  items : List (Marker ⊕ UnboundStep)
  deriving DecidableEq, Repr

/-- The step without what it is bound to. -/
def Step.unbind (s : Step) : UnboundStep :=
  { line := s.line
    keyword := s.keyword
    conjunction := s.conjunction
    text := s.text
    docString := s.docString }

/-- The item without what it is bound to. -/
def Item.unbind : Item → Marker ⊕ UnboundStep
  | .marker m => .inl m
  | .step s => .inr s.unbind

/-- The background without what its steps are bound to. -/
def Background.unbind (b : Background) : UnboundBackground :=
  { name := b.name, line := b.line, steps := b.steps.map Step.unbind }

/-- The feature without what its steps are bound to, and without the listing, which says so too. -/
def Feature.unbind (f : Feature) : UnboundFeature :=
  { name := f.name
    narrative := f.narrative
    background := f.background.map Background.unbind
    items := f.items.map Item.unbind }

/-- The step with a doc string. -/
def UnboundStep.withDocString (s : UnboundStep) (doc : Text) : UnboundStep :=
  { s with docString := some doc }

theorem Step.unbind_withDocString (s : Step) (doc : Text) :
    (s.withDocString doc).unbind = s.unbind.withDocString doc := rfl

/-- The steps among items, unbound, are known from the items unbound. -/
theorem Item.map_unbind_filterMap_step? (items : List Item) :
    (items.filterMap Item.step?).map Step.unbind
      = (items.map Item.unbind).filterMap Sum.getRight? := by
  rw [List.map_filterMap, List.filterMap_map]
  refine List.filterMap_congr fun item _ => ?_
  cases item <;> rfl

theorem Background.unbind_ofItems {items items' : List Item}
    (h : items.map Item.unbind = items'.map Item.unbind) :
    (Background.ofItems items).unbind = (Background.ofItems items').unbind := by
  have hsteps : (items.tail.filterMap Item.step?).map Step.unbind
      = (items'.tail.filterMap Item.step?).map Step.unbind := by
    rw [Item.map_unbind_filterMap_step?, Item.map_unbind_filterMap_step?, List.map_tail,
      List.map_tail, h]
  unfold Background.ofItems Background.unbind
  rw [hsteps]
  -- both begin with the same marker, or neither begins with one
  cases items with
  | nil =>
    rw [List.map_eq_nil_iff.mp h.symm]
  | cons item rest =>
    cases items' with
    | nil => exact absurd h (by simp)
    | cons item' rest' =>
      have hhead : item.unbind = item'.unbind := (List.cons.inj h).1
      cases item with
      | marker m =>
        cases item' with
        | marker m' =>
          obtain rfl : m = m' := Sum.inl.inj hhead
          rfl
        | step s' => exact absurd hhead (by simp [Item.unbind])
      | step s =>
        cases item' with
        | marker m' => exact absurd hhead (by simp [Item.unbind])
        | step s' => rfl

namespace Reading

/-- Two readings agree in all that they have read, but for what the steps are bound to. -/
structure Alike (r q : Reading) : Prop where
  modes : r.modes = q.modes
  name : r.name = q.name
  narrative : r.narrative = q.narrative
  background : r.background.map Background.unbind = q.background.map Background.unbind
  openBackground : r.openBackground = q.openBackground
  items : r.items.map Item.unbind = q.items.map Item.unbind
  docString : r.docString = q.docString
  lastStep : r.lastStep = q.lastStep

variable {W V : Type} {reg : Registry W} {reg' : Registry V} {r q r' q' : Reading} {line : Nat}
  {raw text : Text} {kind : LineKind} {remark remark' : Option Remark}

namespace Alike

theorem refl (r : Reading) : Alike r r := ⟨rfl, rfl, rfl, rfl, rfl, rfl, rfl, rfl⟩

theorem mode (h : Alike r q) : r.mode = q.mode :=
  congrArg (fun modes : List Mode => modes.headD .declaration) h.modes

theorem length_items (h : Alike r q) : r.items.length = q.items.length := by
  have hlength := congrArg List.length h.items
  rwa [List.length_map, List.length_map] at hlength

/-! ### Operations -/

theorem attach (h : Alike r q) (target : Option StepPlace) (doc : Text) :
    Alike (r.attach target doc) (q.attach target doc) := by
  match target with
  | none => exact h
  | some (.item i) =>
    refine { h with items := ?_ }
    have hmodify {f : Item → Item} (items : List Item)
        (hf : ∀ item, (f item).unbind = Sum.map id (·.withDocString doc) item.unbind) :
        (items.modify i f).map Item.unbind
          = (items.map Item.unbind).modify i (Sum.map id (·.withDocString doc)) :=
      map_modify_comm hf items i
    refine (hmodify r.items ?hitem).trans
      ((congrArg _ h.items).trans (hmodify q.items ?hitem).symm)
    case hitem =>
      intro item
      cases item <;> rfl
  | some (.background i) =>
    refine { h with background := ?_ }
    have hbackground (b : Option Background) :
        (b.map fun b => { b with steps := b.steps.modify i fun s => s.withDocString doc }).map
            Background.unbind
          = (b.map Background.unbind).map fun b =>
              { b with steps := b.steps.modify i fun s => s.withDocString doc } := by
      cases b with
      | none => rfl
      | some b =>
        have hsteps : (b.steps.modify i fun s => s.withDocString doc).map Step.unbind
            = (b.steps.map Step.unbind).modify i fun s => s.withDocString doc :=
          map_modify_comm (fun s => s.unbind_withDocString doc) b.steps i
        exact congrArg (fun steps => some { b.unbind with steps }) hsteps
    exact (hbackground r.background).trans
      ((congrArg _ h.background).trans (hbackground q.background).symm)

theorem endDocString (h : Alike r q) : Alike r.endDocString q.endDocString := by
  have hmodes : r.modesAfterDocString = q.modesAfterDocString := by
    unfold modesAfterDocString
    rw [h.mode, h.modes]
  cases hblock : r.docString with
  | none =>
    rw [endDocString_of_none hblock, endDocString_of_none (h.docString ▸ hblock)]
    exact { h with modes := hmodes }
  | some block =>
    rw [endDocString_of_some hblock, endDocString_of_some (h.docString ▸ hblock)]
    have hended : Alike { r with modes := r.modesAfterDocString, docString := none }
        { q with modes := q.modesAfterDocString, docString := none } :=
      { h with modes := hmodes, docString := rfl }
    exact { hended.attach block.target block.text with lastStep := rfl }

/-- The step of a place moves alike, because as many steps stand before it. -/
theorem movedStep_eq (h : Alike r q) (start : Nat) (place : Option StepPlace) :
    movedStep r.items start place = movedStep q.items start place := by
  match place with
  | none => rfl
  | some (.background i) => rfl
  | some (.item i) =>
    have hcount : (((r.items.take i).drop start).filterMap Item.step?).length
        = (((q.items.take i).drop start).filterMap Item.step?).length := by
      rw [← List.length_map Step.unbind, Item.map_unbind_filterMap_step?,
        ← List.length_map Step.unbind, Item.map_unbind_filterMap_step?, List.map_drop,
        List.map_drop, List.map_take, List.map_take, h.items]
    unfold movedStep
    dsimp only
    rw [hcount]

theorem endBackground (h : Alike r q) : Alike r.endBackground q.endBackground := by
  cases hopen : r.openBackground with
  | none =>
    rw [endBackground_of_none hopen, endBackground_of_none (h.openBackground ▸ hopen)]
    exact h
  | some start =>
    cases houter : aroundBackground? r.modes with
    | none =>
      rw [endBackground_of_not_around houter, endBackground_of_not_around (h.modes ▸ houter)]
      exact h
    | some outer =>
      rw [endBackground_of_some houter hopen,
        endBackground_of_some (h.modes ▸ houter) (h.openBackground ▸ hopen)]
      have htake : (r.items.take start).map Item.unbind
          = (q.items.take start).map Item.unbind := by
        rw [List.map_take, List.map_take, h.items]
      have hdrop : (r.items.drop start).map Item.unbind
          = (q.items.drop start).map Item.unbind := by
        rw [List.map_drop, List.map_drop, h.items]
      exact
        { h with
          modes := rfl
          background := congrArg some (Background.unbind_ofItems hdrop)
          openBackground := rfl
          items := htake
          lastStep := (h.movedStep_eq start r.lastStep).trans
            (congrArg (movedStep q.items start) h.lastStep) }

theorem mark (h : Alike r q) (kind : Section) (name : Text) (line : Nat) :
    Alike (r.mark kind name line) (q.mark kind name line) := by
  refine { h with items := ?_, lastStep := rfl }
  show (r.items ++ _).map Item.unbind = (q.items ++ _).map Item.unbind
  rw [List.map_append, List.map_append, h.items]

theorem leaveNarrative (h : Alike r q) : Alike r.leaveNarrative q.leaveNarrative := by
  by_cases hmode : r.mode = .narrative
  · rw [leaveNarrative_of_mode hmode, leaveNarrative_of_mode (h.mode ▸ hmode)]
    exact { h with modes := congrArg List.tail h.modes }
  · rw [leaveNarrative_of_mode_ne hmode, leaveNarrative_of_mode_ne (h.mode ▸ hmode)]
    exact h

/-- Steps that are both found are alike, whatever they are found with. -/
theorem step (h : Alike r q) {m m' : Match} (hfind : reg.find text = .ok m)
    (hfind' : reg'.find text = .ok m') (keyword : Keyword) (conjunction : Bool) :
    Alike (r.step reg line keyword conjunction text).1
      (q.step reg' line keyword conjunction text).1 := by
  have hmodes : r.modesAfterStep keyword = q.modesAfterStep keyword := by
    unfold modesAfterStep
    rw [h.mode, h.modes]
  have htext : m.text = m'.text :=
    (Registry.text_of_find hfind).trans (Registry.text_of_find hfind').symm
  rw [step_of_ok hfind, step_of_ok hfind']
  refine { h with modes := hmodes, items := ?_, lastStep := ?_ }
  · show (r.items ++ _).map Item.unbind = (q.items ++ _).map Item.unbind
    rw [List.map_append, List.map_append, h.items]
    show _ ++ [Sum.inr (UnboundStep.mk line keyword conjunction m.text none)] = _
    rw [htext]
    rfl
  · exact congrArg (fun n => some (StepPlace.item n)) h.length_items

end Alike

/-! ## Lines that both read -/

/-- Both registries have one step for the text. -/
def FoundByBoth (reg : Registry W) (reg' : Registry V) (text : Text) : Prop :=
  (∃ m, reg.find text = .ok m) ∧ ∃ m', reg'.find text = .ok m'

theorem ReadsOutside.alike (h : Alike r q)
    (hread : ReadsOutside reg line raw text r kind r' remark)
    (hread' : ReadsOutside reg' line raw text q kind q' remark')
    (hfound : ∀ keyword stepText, Role.ofKind kind = .step keyword stepText →
      FoundByBoth reg reg' stepText) :
    Alike r' q' := by
  have hmode : r.mode = q.mode := h.mode
  -- the second reading does what the first did, because it can do nothing else
  cases hread with
  | blank =>
    obtain rfl := hread'.unique .blank
    exact h.endBackground
  | comment =>
    obtain rfl := hread'.unique .comment
    exact h
  | beginDocString hplain =>
    obtain rfl := hread'.unique (.beginDocString (hmode ▸ hplain))
    exact
      { h with
        modes := congrArg (Mode.docString :: ·) h.modes
        docString := congrArg
          (fun target => some { column := Text.indent raw, target : DocString StepPlace })
          h.lastStep }
  | feature hname =>
    obtain rfl := hread'.unique (.feature hname)
    exact { h with modes := congrArg (Mode.narrative :: ·) h.modes, name := rfl }
  | @background name hclosed hopen =>
    have hclosed' : q.background = none := by
      have hnone := h.background
      rw [hclosed] at hnone
      exact Option.map_eq_none_iff.mp hnone.symm
    obtain rfl := hread'.unique (.background hclosed' (h.openBackground ▸ hopen))
    refine Alike.mark ?_ .background name line
    exact
      { h with
        modes := congrArg (Mode.background :: ·) h.modes
        openBackground := congrArg some h.length_items }
  | @scenario name =>
    obtain rfl := hread'.unique .scenario
    refine Alike.mark ?_ .scenario name line
    exact { h.endBackground with modes := congrArg (Mode.declaration :: ·) h.endBackground.modes }
  | @step keyword stepText hplain =>
    obtain ⟨⟨m, hfind⟩, m', hfind'⟩ := hfound (some keyword) stepText rfl
    obtain rfl := hread'.unique (.step (hmode ▸ hplain))
    exact h.step hfind hfind' keyword false
  | @conjunction keyword stepText hkeyword =>
    obtain ⟨⟨m, hfind⟩, m', hfind'⟩ := hfound none stepText rfl
    obtain rfl := hread'.unique (.conjunction (hmode ▸ hkeyword))
    exact h.step hfind hfind' keyword true
  | examples hplain =>
    obtain rfl := hread'.unique (.examples (hmode ▸ hplain))
    exact { h with modes := congrArg (Mode.examples :: ·) h.modes }
  | refused hexamples hkind =>
    obtain rfl := hread'.unique (.refused (hmode ▸ hexamples) hkind)
    exact { h with }

/-- **A line that both read keeps them alike**, if it is no step or both find the step. -/
theorem Reads.alike (h : Alike r q) (hread : Reads reg line raw r r' remark)
    (hread' : Reads reg' line raw q q' remark')
    (hfound : ∀ keyword stepText, (Place.ofMode r.mode).role raw = .step keyword stepText →
      FoundByBoth reg reg' stepText) :
    Alike r' q' := by
  have hmode : r.mode = q.mode := h.mode
  cases hread with
  | endDocString hdoc hkind =>
    obtain rfl := hread'.unique (.endDocString (hmode ▸ hdoc) hkind)
    exact h.endDocString
  | verbatim hdoc hkind =>
    obtain rfl := hread'.unique (.verbatim (hmode ▸ hdoc) hkind)
    exact { h with docString := congrArg (Option.map (·.push raw)) h.docString }
  | narrative hfree hkind =>
    obtain rfl := hread'.unique (.narrative (hmode ▸ hfree) hkind)
    exact { h with narrative := congrArg (· ++ [Text.trim raw]) h.narrative }
  | narrativeComment hfree hkind =>
    obtain rfl := hread'.unique (.narrativeComment (hmode ▸ hfree) hkind)
    exact h
  | outside hdoc hfree hread =>
    rw [placeRole_of_outside hdoc hfree] at hfound
    have houtside' : ReadsOutside reg' line raw (Text.trim raw) q.leaveNarrative
        (LineKind.ofLine (Text.trim raw)) q' remark' := by
      have hline := readLine_eq_ok_iff.mpr hread'
      rw [readLine_eq_readOutside (hmode ▸ hdoc) (hmode ▸ hfree)] at hline
      exact readOutside_eq_ok_iff.mp hline
    exact hread.alike h.leaveNarrative houtside' hfound

/-- **Lines that both read keep them alike**, if both find all steps among them. -/
theorem takeLines_alike {p : Place} {es : List Entry} {lines : List Text} (h : Alike r q)
    (hlines : takeLines reg r line lines = .ok r')
    (hlines' : takeLines reg' q line lines = .ok q') (hsupported : r'.unsupported = none)
    (hcovers : Covers reg p es r)
    (hfound : ∀ e ∈ Entry.ofLines p line lines, ∀ keyword stepText,
      e.role = .step keyword stepText → FoundByBoth reg reg' stepText) :
    Alike r' q' := by
  induction lines generalizing r q line p es with
  | nil =>
    obtain rfl := Except.ok.inj hlines
    obtain rfl := Except.ok.inj hlines'
    exact h
  | cons raw rest ih =>
    obtain ⟨r₁, htake, hrest⟩ := takeLines_cons_eq_ok_iff.mp hlines
    obtain ⟨q₁, htake', hrest'⟩ := takeLines_cons_eq_ok_iff.mp hlines'
    obtain ⟨r₂, remark, hread, rfl⟩ := take_eq_ok_iff.mp htake
    obtain ⟨q₂, remark', hread', rfl⟩ := take_eq_ok_iff.mp htake'
    rw [Entry.ofLines, List.forall_mem_cons] at hfound
    have hplace : Place.ofMode r.mode = p := hcovers.standing.innermost
    have hread₂ : Alike r₂ q₂ := hread.alike h hread' fun keyword stepText hrole =>
      hfound.1 keyword stepText (hplace ▸ hrole)
    -- what is listed of the line may differ
    have hlisted : Alike (r₂.list line raw remark) (q₂.list line raw remark') := { hread₂ with }
    have hsupported₂ : (r₂.list line raw remark).unsupported = none :=
      unsupported_of_takeLines hrest hsupported
    exact ih hlisted hrest hrest' (hcovers.reads hread hsupported₂).list hfound.2

theorem Alike.close (h : Alike r q) : Alike r.close q.close := by
  unfold Reading.close
  rw [h.docString]
  split
  next => exact h.endDocString.endBackground
  next => exact h.endBackground

/-! ## The fault that is reported -/

/-- A line that is not supported is reported before everything else. -/
theorem finish_of_unsupported (reg : Registry W) {construct : Text}
    (h : r.unsupported = some (line, construct)) :
    ∃ listing, r.finish reg = .error { fault := .unsupported line construct, listing } := by
  unfold finish
  dsimp only
  rw [unsupported_close, h]
  exact ⟨_, rfl⟩

/-- At the end of the text no other structural fault is reported. -/
theorem unsupported_of_finish_eq_error {rejection : Rejection}
    (h : r.finish reg = .error rejection) (hfault : rejection.fault.isStructural = true) :
    ∃ n construct, r.unsupported = some (n, construct) ∧
      rejection.fault = .unsupported n construct := by
  unfold finish at h
  dsimp only at h
  rw [unsupported_close] at h
  split at h
  next n construct hunsupported =>
    obtain rfl := Except.error.inj h
    exact ⟨n, construct, hunsupported, rfl⟩
  next =>
    obtain rfl := Except.error.inj h
    exact absurd hfault (by simp [FeatureFault.isStructural])
  next =>
    obtain rfl := Except.error.inj h
    exact absurd hfault (by simp [FeatureFault.isStructural])
  next =>
    split at h
    next => exact absurd h (by simp)
    next =>
      obtain rfl := Except.error.inj h
      exact absurd hfault (by simp [FeatureFault.isStructural])

end Reading

namespace Feature

variable {W V : Type} {reg : Registry W} {reg' : Registry V} {text : Text}

/-- A text that is rejected is rejected while its lines are read, or at the end. -/
theorem read_eq_error_iff {rejection : Rejection} :
    Feature.read reg text = .error rejection ↔
      Reading.takeLines reg {} 1 (Text.lines text) = .error rejection ∨
        ∃ r, Reading.takeLines reg {} 1 (Text.lines text) = .ok r ∧
          r.finish reg = .error rejection := by
  unfold Feature.read
  cases Reading.takeLines reg {} 1 (Text.lines text) with
  | error e => simp [bind, Except.bind]
  | ok r => simp [bind, Except.bind]

/-- A text that is rejected for its structure is rejected so with any steps registered. -/
theorem read_of_isStructural (reg' : Registry V) {rejection : Rejection}
    (hread : Feature.read reg text = .error rejection)
    (hfault : rejection.fault.isStructural = true) :
    ∃ listing, Feature.read reg' text = .error { fault := rejection.fault, listing } := by
  rcases read_eq_error_iff.mp hread with hstops | ⟨r, htake, hfinish⟩
  · obtain ⟨listing, hstops'⟩ := Reading.takeLines_error_of_frame_eq reg' rfl hstops
    exact ⟨listing, read_eq_error_iff.mpr (Or.inl hstops')⟩
  · obtain ⟨n, construct, hunsupported, heq⟩ :=
      Reading.unsupported_of_finish_eq_error hfinish hfault
    obtain ⟨q, hq, hframe⟩ := Reading.takeLines_of_frame_eq reg' rfl htake
    have hunsupported' : q.unsupported = some (n, construct) :=
      (Reading.unsupported_of_frame_eq hframe).symm.trans hunsupported
    obtain ⟨listing, hrejected⟩ := Reading.finish_of_unsupported reg' hunsupported'
    rw [heq]
    exact ⟨listing, read_eq_error_iff.mpr (Or.inr ⟨q, hq, hrejected⟩)⟩

/-- In a text that is accepted every step is found. -/
theorem exists_find_of_read {f : Feature} (hread : Feature.read reg text = .ok f) {e : Entry}
    (he : e ∈ Entry.ofText text) {keyword : Option Keyword} {stepText : Text}
    (hrole : e.role = .step keyword stepText) : ∃ m, reg.find stepText = .ok m := by
  have haccepted := accepted_of_read hread
  have hstep : e.isStep = true := by
    unfold Entry.isStep
    rw [hrole]
  obtain ⟨s, hs, rfl⟩ := haccepted.exists_step he hstep
  obtain ⟨-, rfl⟩ := Role.step.inj hrole
  exact ⟨s.found, haccepted.found s hs⟩

/-- A text that two registries accept makes the same feature but for what its steps are bound
to. -/
theorem unbind_eq_of_read {f f' : Feature} (hread : Feature.read reg text = .ok f)
    (hread' : Feature.read reg' text = .ok f') : f.unbind = f'.unbind := by
  obtain ⟨r, htake, hfinish⟩ := read_eq_ok_iff.mp hread
  obtain ⟨q, htake', hfinish'⟩ := read_eq_ok_iff.mp hread'
  have hsupported : r.unsupported = none := Reading.unsupported_of_finish hfinish
  obtain ⟨-, -, -, -, rfl⟩ := Reading.finish_eq_ok_iff.mp hfinish
  obtain ⟨-, -, -, -, rfl⟩ := Reading.finish_eq_ok_iff.mp hfinish'
  have hfound : ∀ e ∈ Entry.ofText text, ∀ keyword stepText,
      e.role = .step keyword stepText → Reading.FoundByBoth reg reg' stepText :=
    fun e he keyword stepText hrole =>
      ⟨exists_find_of_read hread he hrole, exists_find_of_read hread' he hrole⟩
  have halike : Reading.Alike r q :=
    Reading.takeLines_alike (.refl {}) htake htake' hsupported Covers.initial hfound
  have hclosed : Reading.Alike r.close q.close := halike.close
  unfold unbind
  dsimp only
  rw [hclosed.name, hclosed.narrative, hclosed.background, hclosed.items]

/-- **What a feature is does not depend on the registered steps.** A text is rejected for its
structure with any steps registered if it is with some, for the same line and with the same fault.
If it is accepted with two registries, it makes the same feature but for what its steps are bound
to: it has the same name, free text, background and scenarios, and in the same places the same
steps, on the same lines, with the same keywords and texts and the same doc strings. -/
theorem read_unbound (reg : Registry W) (reg' : Registry V) (text : Text) :
    (∀ fault : FeatureFault, fault.isStructural = true →
      ((∃ listing, Feature.read reg text = .error { fault, listing }) ↔
        ∃ listing, Feature.read reg' text = .error { fault, listing })) ∧
    ∀ f f', Feature.read reg text = .ok f → Feature.read reg' text = .ok f' →
      f.unbind = f'.unbind := by
  refine ⟨fun fault hfault => ⟨?there, ?back⟩, fun f f' hread hread' => ?same⟩
  case there =>
    rintro ⟨listing, hread⟩
    exact read_of_isStructural reg' hread hfault
  case back =>
    rintro ⟨listing, hread⟩
    exact read_of_isStructural reg hread hfault
  case same => exact unbind_eq_of_read hread hread'

/-- One text whose steps are bound to a step with an argument and to a step without, and one with a
step that only the second registry knows, which both reject for its examples. -/
theorem read_unbound_sample :
    let reg' : Registry Unit := { definitions := Sample.everyText.definition?.toList }
    let text := "Scenario: one\nGiven press 1\nAnd press 2".toList
    let unsupported := "When nothing\nExamples:\nOops".toList
    (∃ f f', Feature.read Sample.registry text = .ok f ∧ Feature.read reg' text = .ok f' ∧
      f.steps.map Step.arguments = [[['1']], [['2']]] ∧ f'.steps.map Step.arguments = [[], []] ∧
      f.unbind = f'.unbind) ∧
    (∃ listing, Feature.read Sample.registry unsupported
      = .error { fault := .unsupported 2 "Examples:".toList, listing }) ∧
    ∃ listing, Feature.read reg' unsupported
      = .error { fault := .unsupported 2 "Examples:".toList, listing } := by
  intro reg' text unsupported
  have haccepted : (Feature.read Sample.registry text).toOption.map
      (fun f => f.steps.map Step.arguments) = some [[['1']], [['2']]] := by decide +kernel
  have haccepted' : (Feature.read reg' text).toOption.map
      (fun f => f.steps.map Step.arguments) = some [[], []] := by decide +kernel
  have hrejected : (Feature.read Sample.registry unsupported).mapError Rejection.fault
      = .error (.unsupported 2 "Examples:".toList) := by decide +kernel
  obtain ⟨-, hsame⟩ := read_unbound Sample.registry reg' text
  refine ⟨?same, ?rejected⟩
  case same =>
    cases hread : Feature.read Sample.registry text with
    | error e =>
      rw [hread] at haccepted
      exact absurd haccepted (by simp [Except.toOption])
    | ok f =>
      cases hread' : Feature.read reg' text with
      | error e =>
        rw [hread'] at haccepted'
        exact absurd haccepted' (by simp [Except.toOption])
      | ok f' =>
        rw [hread] at haccepted
        rw [hread'] at haccepted'
        exact ⟨f, f', rfl, rfl, Option.some.inj haccepted, Option.some.inj haccepted',
          hsame f f' hread hread'⟩
  case rejected =>
    cases hread : Feature.read Sample.registry unsupported with
    | ok f =>
      rw [hread] at hrejected
      exact absurd hrejected (by simp [Except.mapError])
    | error e =>
      rw [hread] at hrejected
      have hfault : e.fault = .unsupported 2 "Examples:".toList := Except.error.inj hrejected
      have hlisting : Feature.read Sample.registry unsupported
          = .error { fault := .unsupported 2 "Examples:".toList, listing := e.listing } := by
        rw [hread, ← hfault]
      exact ⟨⟨e.listing, hread ▸ hlisting⟩,
        ((read_unbound Sample.registry reg' unsupported).1 _ rfl).mp ⟨_, hlisting⟩⟩

end Feature

end Gherkin
