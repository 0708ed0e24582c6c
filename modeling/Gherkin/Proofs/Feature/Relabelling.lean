import Mathlib.Data.List.Basic
import Mathlib.Order.Monotone.Basic
import Gherkin.Proofs.Feature.Division
import Gherkin.Proofs.Step.Reordering

/-!
# Reading with other labels

A reading numbers lines, and keeps with every step the position at which its definition is
registered. It hardly looks at either. So if the numbers are replaced throughout by others in the
same order, and the positions by those of definitions that do the same, everything is read as before
(`Reads.relabel`, `Faults.congr`), and at the end the same is found (`verdict?_relabel`).

What is replaced by what is a `Relabelling`. `Relabelling.Fits` says that two registries find the
same for it.
-/

namespace Gherkin

/-- What the numbers of lines and the positions of definitions are replaced by. -/
structure Relabelling where
  line : Nat → Nat := id
  position : Nat → Nat := id
  /-- There is no line 0, so nothing else takes its place. -/
  zero : line 0 = 0 := by rfl

/-- The marker on another line. -/
def Marker.renumber (line : Nat → Nat) (m : Marker) : Marker := { m with line := line m.line }

/-- The missing step on another line. -/
def MissingStep.renumber (line : Nat → Nat) (m : MissingStep) : MissingStep :=
  { m with line := line m.line }

/-- The fault on another line. -/
def FeatureFault.renumber (line : Nat → Nat) : FeatureFault → FeatureFault
  | .unnamedFeature n => .unnamedFeature (line n)
  | .secondBackground n => .secondBackground (line n)
  | .unsupported n construct => .unsupported (line n) construct
  | .unknownLine n word => .unknownLine (line n) word
  | .strayConjunction n => .strayConjunction (line n)
  | .ambiguous n e => .ambiguous (line n) e
  | .arity n e => .arity (line n) e
  | .unimplemented missing => .unimplemented (missing.map (MissingStep.renumber line))

/-- The step with other labels. -/
def Step.relabel (L : Relabelling) (s : Step) : Step :=
  { s with line := L.line s.line, found := s.found.rename L.position }

/-- The item with other labels. -/
def Item.relabel (L : Relabelling) : Item → Item
  | .marker m => .marker (m.renumber L.line)
  | .step s => .step (s.relabel L)

/-- The background with other labels. -/
def Background.relabel (L : Relabelling) (b : Background) : Background :=
  { b with line := L.line b.line, steps := b.steps.map (Step.relabel L) }

/-- The feature with other labels. -/
def Feature.relabel (L : Relabelling) (f : Feature) : Feature :=
  { f with
    background := f.background.map (Background.relabel L)
    items := f.items.map (Item.relabel L) }

/-- The reading with other labels. The listing stays. -/
def Reading.relabel (L : Relabelling) (r : Reading) : Reading :=
  { r with
    background := r.background.map (Background.relabel L)
    items := r.items.map (Item.relabel L)
    missing := r.missing.map (MissingStep.renumber L.line)
    ambiguous := r.ambiguous.map (Prod.map L.line id)
    unsupported := r.unsupported.map (Prod.map L.line id) }

/-! ## One relabelling after another -/

namespace FeatureFault

/-- A fault on the same lines is the same. -/
theorem renumber_id (fault : FeatureFault) : fault.renumber id = fault := by
  cases fault with
  | unimplemented missing => exact congrArg FeatureFault.unimplemented (List.map_id missing)
  | _ => rfl

theorem renumber_renumber (f g : Nat → Nat) (fault : FeatureFault) :
    (fault.renumber f).renumber g = fault.renumber (g ∘ f) := by
  cases fault with
  | unimplemented missing => exact congrArg FeatureFault.unimplemented List.map_map
  | _ => rfl

end FeatureFault

section

variable {L M N : Relabelling}

/-- Labels that are the same do not change a step. -/
theorem Step.relabel_eq_self (hline : L.line = id) (hposition : L.position = id) :
    Step.relabel L = id := by
  funext s
  unfold relabel
  rw [hline, hposition]
  rfl

theorem Item.relabel_eq_self (hline : L.line = id) (hposition : L.position = id) :
    Item.relabel L = id := by
  funext item
  cases item with
  | marker m =>
    unfold relabel
    rw [hline]
    rfl
  | step s => exact congrArg Item.step (congrFun (Step.relabel_eq_self hline hposition) s)

theorem Background.relabel_eq_self (hline : L.line = id) (hposition : L.position = id) :
    Background.relabel L = id := by
  funext b
  unfold relabel
  rw [Step.relabel_eq_self hline hposition, hline, List.map_id]
  rfl

theorem Feature.relabel_eq_self (hline : L.line = id) (hposition : L.position = id) (f : Feature) :
    f.relabel L = f := by
  unfold relabel
  rw [Item.relabel_eq_self hline hposition, Background.relabel_eq_self hline hposition,
    List.map_id, Option.map_id]
  rfl

/-- Where lines stay, only steps are replaced. -/
theorem Reading.relabel_of_line (hline : L.line = id) (r : Reading) :
    r.relabel L
      = { r with
          background := r.background.map (Background.relabel L)
          items := r.items.map (Item.relabel L) } := by
  have hmissing : r.missing.map (MissingStep.renumber L.line) = r.missing := by
    rw [hline]
    exact List.map_id _
  have hunsupported : r.unsupported.map (Prod.map L.line id) = r.unsupported := by
    rw [hline]
    exact congrFun Option.map_id _
  unfold relabel
  rw [hmissing, hunsupported, hline, Prod.map_id, List.map_id]

theorem Reading.relabel_eq_self (hline : L.line = id) (hposition : L.position = id) (r : Reading) :
    r.relabel L = r := by
  rw [relabel_of_line hline, Item.relabel_eq_self hline hposition,
    Background.relabel_eq_self hline hposition, List.map_id, Option.map_id]
  rfl

/-- Two relabellings, one after the other, are one. -/
theorem Step.relabel_relabel (hline : M.line ∘ L.line = N.line)
    (hposition : M.position ∘ L.position = N.position) (s : Step) :
    (s.relabel L).relabel M = s.relabel N := by
  unfold relabel
  rw [← hline, ← hposition]
  rfl

theorem Feature.relabel_relabel (hline : M.line ∘ L.line = N.line)
    (hposition : M.position ∘ L.position = N.position) (f : Feature) :
    (f.relabel L).relabel M = f.relabel N := by
  have hitem (item : Item) : (item.relabel L).relabel M = item.relabel N := by
    cases item with
    | marker m => exact congrArg (fun line => Item.marker { m with line }) (congrFun hline m.line)
    | step s => exact congrArg Item.step (Step.relabel_relabel hline hposition s)
  have hbackground (b : Background) : (b.relabel L).relabel M = b.relabel N := by
    have hsteps : (b.steps.map (Step.relabel L)).map (Step.relabel M)
        = b.steps.map (Step.relabel N) := by
      rw [List.map_map]
      exact List.map_congr_left fun s _ => Step.relabel_relabel hline hposition s
    unfold Background.relabel
    dsimp only
    rw [hsteps, ← hline]
    rfl
  unfold relabel
  dsimp only
  rw [List.map_map, Option.map_map]
  congr 1
  · exact Option.map_congr fun b _ => hbackground b
  · exact List.map_congr_left fun item _ => hitem item

end

/-! ## Items -/

theorem Step.relabel_withDocString (L : Relabelling) (s : Step) (doc : Text) :
    (s.withDocString doc).relabel L = (s.relabel L).withDocString doc := rfl

/-- The steps among relabelled items are the relabelled steps. -/
theorem Item.filterMap_step?_relabel (L : Relabelling) (items : List Item) :
    (items.map (Item.relabel L)).filterMap Item.step?
      = (items.filterMap Item.step?).map (Step.relabel L) := by
  have hstep (item : Item) : (item.relabel L).step? = item.step?.map (Step.relabel L) := by
    cases item <;> rfl
  rw [List.filterMap_map, List.map_filterMap]
  exact List.filterMap_congr fun item _ => hstep item

theorem Background.ofItems_relabel (L : Relabelling) (items : List Item) :
    Background.ofItems (items.map (Item.relabel L)) = (Background.ofItems items).relabel L := by
  have htail : (items.map (Item.relabel L)).tail.filterMap Item.step?
      = (items.tail.filterMap Item.step?).map (Step.relabel L) := by
    rw [← List.map_tail, Item.filterMap_step?_relabel]
  unfold Background.ofItems Background.relabel
  rw [htail]
  -- a relabelled item is a marker if and only if the item is one
  cases items with
  | nil => rw [List.map_nil, L.zero]
  | cons item rest =>
    cases item with
    | marker m => rfl
    | step s =>
      rw [List.map_cons, Item.relabel, L.zero]

namespace Reading

variable {W : Type} {reg reg' : Registry W} {L : Relabelling} {r r' : Reading} {line : Nat}
  {raw text : Text} {kind : LineKind} {remark : Option Remark}

/-! ## Operations -/

theorem attach_relabel (L : Relabelling) (r : Reading) (target : Option StepPlace) (doc : Text) :
    (r.relabel L).attach target doc = (r.attach target doc).relabel L := by
  match target with
  | none => rfl
  | some (.item i) =>
    unfold attach relabel
    dsimp only
    congr 1
    refine (map_modify_comm ?_ r.items i).symm
    intro item
    cases item <;> rfl
  | some (.background i) =>
    unfold attach relabel
    dsimp only
    congr 1
    cases r.background with
    | none => rfl
    | some b =>
      have hsteps : (b.steps.modify i fun s => s.withDocString doc).map (Step.relabel L)
          = (b.steps.map (Step.relabel L)).modify i fun s => s.withDocString doc :=
        map_modify_comm (fun s => s.relabel_withDocString L doc) b.steps i
      exact congrArg (fun steps => some { b with line := L.line b.line, steps }) hsteps.symm

theorem endDocString_relabel (L : Relabelling) (r : Reading) :
    (r.relabel L).endDocString = r.endDocString.relabel L := by
  cases hblock : r.docString with
  | none =>
    have hblock' : (r.relabel L).docString = none := hblock
    rw [endDocString_of_none hblock, endDocString_of_none hblock']
    rfl
  | some block =>
    have hblock' : (r.relabel L).docString = some block := hblock
    have hattach := attach_relabel L { r with modes := r.modesAfterDocString, docString := none }
      block.target block.text
    rw [endDocString_of_some hblock, endDocString_of_some hblock']
    exact congrArg (fun q : Reading => { q with lastStep := none }) hattach

theorem endBackground_relabel (L : Relabelling) (r : Reading) :
    (r.relabel L).endBackground = r.endBackground.relabel L := by
  -- how many steps stand between two items does not depend on what they are
  have hmoved (start : Nat) : movedStep (r.relabel L).items start r.lastStep
      = movedStep r.items start r.lastStep := by
    cases r.lastStep with
    | none => rfl
    | some place =>
      cases place with
      | background i => rfl
      | item i =>
        unfold movedStep relabel
        dsimp only
        rw [← List.map_take, ← List.map_drop, Item.filterMap_step?_relabel, List.length_map]
  have hended (start : Nat) : Background.ofItems ((r.relabel L).items.drop start)
      = (Background.ofItems (r.items.drop start)).relabel L := by
    rw [← Background.ofItems_relabel, List.map_drop]
    rfl
  have htake (start : Nat) : (r.relabel L).items.take start
      = (r.items.take start).map (Item.relabel L) := List.map_take.symm
  have hmodes : (r.relabel L).modes = r.modes := rfl
  cases hopen : r.openBackground with
  | none =>
    have hopen' : (r.relabel L).openBackground = none := hopen
    rw [endBackground_of_none hopen, endBackground_of_none hopen']
  | some start =>
    have hopen' : (r.relabel L).openBackground = some start := hopen
    cases houter : aroundBackground? r.modes with
    | none => rw [endBackground_of_not_around houter, endBackground_of_not_around (hmodes ▸ houter)]
    | some outer =>
      have hlast : (r.relabel L).lastStep = r.lastStep := rfl
      rw [endBackground_of_some houter hopen, endBackground_of_some (hmodes ▸ houter) hopen', hlast,
        hmoved, hended, htake]
      rfl

theorem mark_relabel (L : Relabelling) (r : Reading) (kind : Section) (name : Text) (line : Nat) :
    (r.relabel L).mark kind name (L.line line) = (r.mark kind name line).relabel L := by
  unfold mark relabel
  dsimp only
  rw [List.map_append]
  rfl

theorem refuse_relabel (L : Relabelling) (r : Reading) (line : Nat) (text : Text) :
    (r.relabel L).refuse (L.line line) text
      = ((r.refuse line text).1.relabel L, (r.refuse line text).2) := by
  unfold refuse relabel
  dsimp only
  cases r.unsupported <;> rfl

theorem leaveNarrative_relabel (L : Relabelling) (r : Reading) :
    (r.relabel L).leaveNarrative = r.leaveNarrative.relabel L := by
  have hmode : (r.relabel L).mode = r.mode := rfl
  unfold leaveNarrative
  rw [hmode]
  split <;> rfl

theorem close_relabel (L : Relabelling) (r : Reading) :
    (r.relabel L).close = r.close.relabel L := by
  have hdocString : (r.relabel L).docString = r.docString := rfl
  unfold close
  rw [hdocString, endDocString_relabel]
  split
  next => exact endBackground_relabel L r.endDocString
  next => exact endBackground_relabel L r

theorem stepsRead_relabel (L : Relabelling) (r : Reading) :
    (r.relabel L).stepsRead = r.stepsRead.map (Step.relabel L) := by
  unfold stepsRead relabel
  rw [List.map_append, Item.filterMap_step?_relabel]
  cases r.background <;> rfl

end Reading

/-! ## Lines -/

/-- What is found in the one registry is found in the other, at its other position. -/
structure Relabelling.Fits {W : Type} (L : Relabelling) (reg reg' : Registry W) : Prop where
  find : ∀ text, reg'.find text = (reg.find text).map (·.rename L.position)
  shapes? : ∀ i, reg'.shapes? (L.position i) = reg.shapes? i

namespace Reading

variable {W : Type} {reg reg' : Registry W} {L : Relabelling} {r r' : Reading} {line : Nat}
  {raw text : Text} {kind : LineKind} {remark : Option Remark}

/-- A step is matched with the same definition, at its other position. -/
theorem step_relabel (h : L.Fits reg reg') (r : Reading) (line : Nat) (keyword : Keyword)
    (conjunction : Bool) (text : Text) :
    (r.relabel L).step reg' (L.line line) keyword conjunction text
      = ((r.step reg line keyword conjunction text).1.relabel L,
          (r.step reg line keyword conjunction text).2) := by
  have hmode : (r.relabel L).mode = r.mode := rfl
  unfold step
  rw [h.find text, hmode]
  cases reg.find text with
  | ok found =>
    show Prod.mk _ _ = Prod.mk _ _
    congr 1
    unfold relabel
    dsimp only
    rw [List.map_append, List.length_map]
    rfl
  | error e =>
    cases e with
    | notFound =>
      show Prod.mk _ _ = Prod.mk _ _
      congr 1
      unfold relabel
      dsimp only
      rw [List.map_append]
      rfl
    | ambiguous e =>
      show Prod.mk _ _ = Prod.mk _ _
      congr 1
      unfold relabel
      dsimp only
      rw [List.map_append]
      rfl

/-- What is wrong with a step does not depend on labels. -/
theorem arityFaults_relabel (h : L.Fits reg reg') (steps : List Step) :
    arityFaults reg' (steps.map (Step.relabel L))
      = (arityFaults reg steps).map (Prod.map L.line id) := by
  unfold arityFaults
  rw [List.filterMap_map, List.map_filterMap]
  refine List.filterMap_congr fun s _ => ?_
  have hshapes : reg'.shapes? (s.relabel L).found.handler = reg.shapes? s.found.handler :=
    h.shapes? s.found.handler
  rw [Function.comp_apply, hshapes]
  cases reg.shapes? s.found.handler with
  | none => rfl
  | some shapes =>
    have hcheck : Arity.check (s.relabel L).text shapes (s.relabel L).arguments.length
        = Arity.check s.text shapes s.arguments.length := rfl
    dsimp only
    rw [hcheck]
    cases Arity.check s.text shapes s.arguments.length <;> rfl

theorem ReadsOutside.relabel (h : L.Fits reg reg')
    (hread : ReadsOutside reg line raw text r kind r' remark) :
    ReadsOutside reg' (L.line line) raw text (r.relabel L) kind (r'.relabel L) remark := by
  cases hread with
  | blank =>
    rw [← endBackground_relabel]
    exact .blank
  | comment => exact .comment
  | beginDocString hmode => exact .beginDocString hmode
  | feature hname => exact .feature hname
  | @background name hclosed hopen =>
    have hclosed' : (r.relabel L).background = none := by
      unfold Reading.relabel
      rw [hclosed]
      rfl
    have hlength : (r.relabel L).items.length = r.items.length := List.length_map ..
    have hread' : ReadsOutside reg' (L.line line) raw text (r.relabel L) (.background name) _
      none := .background hclosed' hopen
    rw [hlength] at hread'
    rw [← mark_relabel]
    exact hread'
  | @scenario name =>
    have hread' : ReadsOutside reg' (L.line line) raw text (r.relabel L) (.scenario name) _ none :=
      .scenario
    rw [endBackground_relabel] at hread'
    rw [← mark_relabel]
    exact hread'
  | @step keyword stepText hmode =>
    have hread' : ReadsOutside reg' (L.line line) raw text (r.relabel L) (.step keyword stepText)
      _ _ := .step hmode
    rw [step_relabel h] at hread'
    exact hread'
  | @conjunction keyword stepText hkeyword =>
    have hread' : ReadsOutside reg' (L.line line) raw text (r.relabel L) (.conjunction stepText)
      _ _ := .conjunction hkeyword
    rw [step_relabel h] at hread'
    exact hread'
  | examples hmode =>
    have hread' : ReadsOutside reg' (L.line line) raw text (r.relabel L) .examples
        (({ r with modes := .examples :: r.modes } : Reading).relabel L |>.refuse (L.line line)
          text).1 _ := .examples hmode
    rw [refuse_relabel] at hread'
    exact hread'
  | refused hmode hkind =>
    have hread' : ReadsOutside reg' (L.line line) raw text (r.relabel L) kind _ _ :=
      .refused hmode hkind
    rw [refuse_relabel] at hread'
    exact hread'

/-- **A line that is read is read with other labels.** -/
theorem Reads.relabel (h : L.Fits reg reg') (hread : Reads reg line raw r r' remark) :
    Reads reg' (L.line line) raw (r.relabel L) (r'.relabel L) remark := by
  cases hread with
  | endDocString hmode hkind =>
    rw [← endDocString_relabel]
    exact .endDocString hmode hkind
  | verbatim hmode hkind => exact .verbatim hmode hkind
  | narrative hmode hkind => exact .narrative hmode hkind
  | narrativeComment hmode hkind => exact .narrativeComment hmode hkind
  | outside hdoc hfree hread =>
    refine .outside hdoc hfree ?_
    rw [leaveNarrative_relabel]
    exact hread.relabel h

/-- **Why a line is not read depends on the modes, and on whether there is a background.** Another
line would not be read for the same fault. -/
theorem Faults.congr {fault : FeatureFault} (hfaults : Faults line raw r fault) (f : Nat → Nat)
    (hmodes : r'.modes = r.modes) (hbackground : r'.background.isSome = r.background.isSome)
    (hopen : r'.openBackground = r.openBackground) :
    Faults (f line) raw r' (fault.renumber f) := by
  obtain ⟨hdoc, hfree, houtside⟩ := hfaults
  have hmode : r'.mode = r.mode := congrArg (fun modes => modes.headD .declaration) hmodes
  have hleft : r'.leaveNarrative.mode = r.leaveNarrative.mode ∧
      r'.leaveNarrative.background.isSome = r.leaveNarrative.background.isSome ∧
      r'.leaveNarrative.openBackground = r.leaveNarrative.openBackground := by
    unfold leaveNarrative mode
    rw [hmodes]
    split
    next => exact ⟨rfl, hbackground, hopen⟩
    next => exact ⟨congrArg (fun modes => modes.headD .declaration) hmodes, hbackground, hopen⟩
  obtain ⟨hmode', hbackground', hopen'⟩ := hleft
  refine ⟨hmode ▸ hdoc, hmode ▸ hfree, ?_⟩
  generalize r.leaveNarrative = q at houtside hmode' hbackground' hopen'
  generalize LineKind.ofLine (Text.trim raw) = kind at houtside
  cases houtside with
  | unnamedFeature => exact .unnamedFeature
  | secondBackground hsecond => exact .secondBackground (hbackground' ▸ hopen' ▸ hsecond)
  | strayConjunction hexamples hkeyword =>
    exact .strayConjunction (hmode' ▸ hexamples) (hmode' ▸ hkeyword)
  | unknownLine hexamples => exact .unknownLine (hmode' ▸ hexamples)

/-- What is said of a line that is not read does not name the line. -/
theorem Faults.message_renumber {fault : FeatureFault} (h : Faults line raw r fault)
    (f : Nat → Nat) : (fault.renumber f).message = fault.message := by
  have houtside := h.outside
  generalize LineKind.ofLine (Text.trim raw) = kind at houtside
  cases houtside <;> rfl

/-! ## The end of the text -/

/-- What is reported of a reading that is closed, if anything is. -/
def verdict? (reg : Registry W) (r : Reading) : Option FeatureFault :=
  match r.unsupported, r.ambiguous,
    (arityFaults reg r.stepsRead).mergeSort (fun a b => a.1 ≤ b.1), r.missing with
  | some (line, construct), _, _, _ => some (.unsupported line construct)
  | none, (line, e) :: _, _, _ => some (.ambiguous line e)
  | none, [], (line, e) :: _, _ => some (.arity line e)
  | none, [], [], missing => if missing = [] then none else some (.unimplemented missing)

/-- The listing of a reading that is closed, with the faults of its handlers. -/
def annotated (reg : Registry W) (r : Reading) : Listing :=
  (arityFaults reg r.stepsRead).foldl
    (fun l fault => l.annotate fault.1 (.failed fault.2.message)) r.listing

/-- **A reading ends with what is reported of it**, or else as a feature. -/
theorem finish_eq_verdict (reg : Registry W) (r : Reading) :
    r.finish reg
      = match r.close.verdict? reg with
        | some fault => .error { fault, listing := r.close.annotated reg }
        | none =>
          .ok { name := r.close.name
                narrative := r.close.narrative
                background := r.close.background
                items := r.close.items
                listing := r.close.annotated reg } := by
  unfold finish verdict? annotated
  dsimp only
  cases r.close.unsupported with
  | some unsupported => rfl
  | none =>
    cases r.close.ambiguous with
    | cons first rest => rfl
    | nil =>
      cases (arityFaults reg r.close.stepsRead).mergeSort fun a b => a.1 ≤ b.1 with
      | cons first rest => rfl
      | nil =>
        dsimp only
        split <;> rfl

/-- **With other labels the same is reported**, if the lines stay in order. -/
theorem verdict?_relabel (h : L.Fits reg reg') (hmono : StrictMono L.line) (r : Reading) :
    (r.relabel L).verdict? reg' = (r.verdict? reg).map (FeatureFault.renumber L.line) := by
  have hfaults : (arityFaults reg' (r.relabel L).stepsRead).mergeSort (fun a b => a.1 ≤ b.1)
      = ((arityFaults reg r.stepsRead).mergeSort fun a b => a.1 ≤ b.1).map
          (Prod.map L.line id) := by
    rw [stepsRead_relabel, arityFaults_relabel h]
    refine (List.map_mergeSort fun a _ b _ => ?_).symm
    exact decide_eq_decide.mpr hmono.le_iff_le.symm
  unfold verdict?
  rw [hfaults]
  unfold relabel
  dsimp only
  cases r.unsupported with
  | some unsupported => rfl
  | none =>
    cases r.ambiguous with
    | cons first rest => rfl
    | nil =>
      cases (arityFaults reg r.stepsRead).mergeSort fun a b => a.1 ≤ b.1 with
      | cons first rest => rfl
      | nil =>
        cases r.missing with
        | nil => rfl
        | cons first rest => rfl

end Reading

end Gherkin
