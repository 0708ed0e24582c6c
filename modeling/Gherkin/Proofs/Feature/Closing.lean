import Gherkin.Proofs.Feature.Acceptance
import Gherkin.Proofs.Feature.Consistency

/-!
# Whatever ends finds what it needs

Ending a doc string or a background looks things up that might not be there: the innermost
background among the modes, its marker among the items, the step of a doc string. Where one of them
is missing, `endDocString` and `endBackground` go on without it. The definitions here do the same
and check every access: they answer `none` where a place has no step, a position is outside of its
list, or the items are not those of a background.

A consistent reading never comes to that. The checked forms have an answer, which is that of the
unchecked ones, wherever a line or the end of the text may end something (`Ends`). Both hold after
any number of lines of any text, as long as the lines are read (`consistent_of_takeLines`).
-/

namespace Gherkin

/-- The background of a marker and the steps after it, if the items are that. -/
def Background.ofItems? : List Item → Option Background
  | .marker m :: rest =>
    if m.kind = .background ∧ ∀ item ∈ rest, item.step?.isSome = true then
      some { name := m.name, line := m.line, steps := rest.filterMap Item.step? }
    else none
  | _ => none

namespace Reading

variable {W : Type} {reg : Registry W} {r : Reading} {text : Text} {items : List Item}
  {start : Nat}

/-- Puts a text into the step at the place, if there is a place and a step at it. -/
def attach? (r : Reading) (target : Option StepPlace) (doc : Text) : Option Reading :=
  match target with
  | none => some r
  | some (.item i) => do
    let s ← r.items[i]?.bind Item.step?
    some { r with items := r.items.set i (.step (s.withDocString doc)) }
  | some (.background i) => do
    let b ← r.background
    let s ← b.steps[i]?
    some { r with background := some { b with steps := b.steps.set i (s.withDocString doc) } }

/-- Ends the doc string that is being read, if one is. -/
def endDocString? (r : Reading) : Option Reading :=
  match r.mode, r.docString with
  | .docString, some block =>
    ({ r with modes := r.modes.tail, docString := none }.attach? block.target block.text).map
      fun (attached : Reading) => { attached with lastStep := none }
  | _, _ => none

/-- What the last step is once the items from `start` on are moved to the background, if it is one
of them. -/
def movedStep? (items : List Item) (start : Nat) : Option StepPlace → Option (Option StepPlace)
  | none => some none
  | some (.item i) =>
    if start < i ∧ i < items.length then
      some (some (.background (((items.take i).drop start).filterMap Item.step?).length))
    else none
  | some (.background _) => none

/-- Ends the background that is being read, if one is. A declaration around no background needs
nothing to end. -/
def endBackground? (r : Reading) : Option Reading :=
  match sectionModes r.modes with
  | .declaration :: _ => some r
  | .background :: outer => do
    let start ← r.openBackground
    let lastStep ← movedStep? r.items start r.lastStep
    let background ← Background.ofItems? (r.items.drop start)
    some
      { r with
        modes := outer
        openBackground := none
        lastStep
        items := r.items.take start
        background := some background }
  | _ => none

/-- The reading at the end of the text. -/
def close? (r : Reading) : Option Reading :=
  if r.docString.isSome then r.endDocString?.bind endBackground? else r.endBackground?

/-- **Nothing is missing where something may end**: a doc string where one is being read,
a background once free text is left, and both at the end of the text, after which none is open. -/
structure Ends (r : Reading) : Prop where
  docString : r.mode = .docString → r.endDocString? = some r.endDocString
  background : r.leaveNarrative.endBackground? = some r.leaveNarrative.endBackground
  close : r.close? = some r.close
  closed : r.close.openBackground = none ∧ .background ∉ r.close.modes ∧ r.close.docString = none

/-- The items of an open background make a background. -/
theorem IsRegion.ofItems?_eq_some (h : IsRegion items start) :
    Background.ofItems? (items.drop start) = some (Background.ofItems (items.drop start)) := by
  obtain ⟨m, rest, hdrop, hkind, hsteps⟩ := h.exists_drop
  have hall : ∀ item ∈ rest, item.step?.isSome = true := by
    intro item hitem
    obtain ⟨s, rfl⟩ := hsteps item hitem
    rfl
  rw [hdrop, Background.ofItems?, if_pos ⟨hkind, hall⟩]
  rfl

/-- A doc string finds its step. -/
theorem attach?_eq_some {target : Option StepPlace}
    (h : ∀ p, target = some p → (r.stepAt p).isSome = true) (doc : Text) :
    r.attach? target doc = some (r.attach target doc) := by
  match target with
  | none => rfl
  | some (.item i) =>
    obtain ⟨s, hs⟩ := Option.isSome_iff_exists.mp (h _ rfl)
    have hs : r.items[i]?.bind Item.step? = some s := hs
    obtain ⟨item, hitem, hstep⟩ := Option.bind_eq_some_iff.mp hs
    cases item with
    | marker m => exact absurd hstep (by simp [Item.step?])
    | step s' =>
      obtain rfl : s' = s := Option.some.inj hstep
      unfold attach? attach
      dsimp only
      rw [hs, List.modify_eq_set_getElem?, hitem]
      rfl
  | some (.background i) =>
    obtain ⟨s, hs⟩ := Option.isSome_iff_exists.mp (h _ rfl)
    obtain ⟨b, hb, hstep⟩ := Option.bind_eq_some_iff.mp hs
    unfold attach? attach
    dsimp only
    rw [hb, Option.map_some, List.modify_eq_set_getElem?, hstep]
    show (b.steps[i]?.bind _) = _
    rw [hstep]
    rfl

namespace Consistent

/-- A doc string that ends is being read, and its step is there. -/
theorem endDocString?_eq_some (h : r.Consistent) (hmode : r.mode = .docString) :
    r.endDocString? = some r.endDocString := by
  obtain ⟨block, hblock⟩ := Option.isSome_iff_exists.mp (h.docString.mpr hmode)
  have htarget : ∀ p, block.target = some p → (r.stepAt p).isSome = true := by
    intro p hp
    refine h.target p ?_
    rw [Reading.target, hblock, Option.bind_some, hp]
  have hattach := attach?_eq_some
    (r := { r with modes := r.modes.tail, docString := none }) htarget block.text
  unfold endDocString?
  rw [hmode, hblock, endDocString_of_some hblock, modesAfterDocString, if_pos hmode]
  dsimp only
  rw [hattach]
  rfl

/-- The last step is one of those of an open background. -/
theorem movedStep?_eq_some (h : r.Consistent) (hopen : r.openBackground = some start) :
    movedStep? r.items start r.lastStep = some (movedStep r.items start r.lastStep) := by
  cases hlast : r.lastStep with
  | none => rfl
  | some p =>
    obtain ⟨i, rfl, hi⟩ := h.inside start p hopen hlast
    obtain ⟨s, hs⟩ := Option.isSome_iff_exists.mp (h.last _ hlast)
    obtain ⟨item, hitem, -⟩ := Option.bind_eq_some_iff.mp hs
    rw [movedStep?, if_pos ⟨hi, (List.getElem?_eq_some_iff.mp hitem).1⟩, movedStep, if_pos hi]

/-- A background that ends is open, with its marker, steps after it, and the last step among
them. -/
theorem endBackground?_eq_some (h : r.Consistent) : r.endBackground? = some r.endBackground := by
  obtain ⟨outer, hfrom | hfrom⟩ := exists_sectionModes h.bottom
  · obtain ⟨start, hopen⟩ := Option.isSome_iff_exists.mp (h.opened.mpr (by rw [hfrom]; rfl))
    rw [endBackground_of_some (aroundBackground?_eq_some_iff.mpr hfrom) hopen]
    unfold endBackground?
    rw [hfrom, hopen]
    dsimp only [Option.bind_eq_bind, Option.bind_some]
    rw [h.movedStep?_eq_some hopen, (h.region start hopen).ofItems?_eq_some]
    rfl
  · have haround : aroundBackground? r.modes = none := by
      refine Option.eq_none_iff_forall_ne_some.mpr fun outer' houter => ?_
      rw [aroundBackground?_eq_some_iff, hfrom] at houter
      exact absurd houter (by simp)
    rw [endBackground_of_not_around haround, endBackground?, hfrom]

end Consistent

/-- **A reading that is anchored ends well.** -/
theorem Anchored.ends {s : Site} {o : Ownership} {n : Nat} (h : r.Anchored) (hat : r.At s)
    (howns : r.Owns o n) : r.Ends := by
  have hconsistent := h.consistent hat howns
  obtain ⟨q, s', hclose, hat', hdoc, hq⟩ := hat.exists_close
  -- what is left once a doc string has ended, if one was being read
  have hrest : q.Anchored ∧ q.Consistent ∧ r.close? = q.endBackground? := by
    unfold close?
    rcases hq with rfl | ⟨hmode, rfl⟩
    · rw [if_neg (by simp [hdoc])]
      exact ⟨h, hconsistent, rfl⟩
    · have hsome := hat.reading.trans (decide_eq_true hmode)
      have hended := h.endDocString hmode hsome
      rw [if_pos hsome, hconsistent.endDocString?_eq_some hmode]
      have hownsEnded := howns.endDocString (Option.isSome_iff_ne_none.mp hsome)
      exact ⟨hended, hended.consistent hat' hownsEnded, rfl⟩
  obtain ⟨hq, hqconsistent, hclose?⟩ := hrest
  refine ⟨hconsistent.endDocString?_eq_some, ?_, ?_, ?_⟩
  · by_cases hmode : r.mode = .docString
    · rw [leaveNarrative_of_mode_ne (by simp [hmode])]
      exact hconsistent.endBackground?_eq_some
    · exact (h.leaveNarrative.consistent (hat.leaveNarrative hmode)
        howns.leaveNarrative).endBackground?_eq_some
  · rw [hclose?, hclose]
    exact hqconsistent.endBackground?_eq_some
  · have hended := hq.endBackground hdoc hat'.opened
    have hnone : q.endBackground.openBackground = none :=
      openBackground_endBackground hat'.opened
    obtain ⟨_, _, _, _, _, hsame⟩ := q.endBackground_eq_with
    rw [hclose]
    exact ⟨hnone, hended.stack.closed hnone, by rw [hsame]; exact hdoc⟩

/-- **Every reading of lines of a text is consistent, and whatever ends finds what it needs.** It
does not matter what steps there are, nor how many of the lines were read. -/
theorem consistent_of_takeLines {n : Nat}
    (h : takeLines reg {} 1 ((Text.lines text).take n) = .ok r) : r.Consistent ∧ r.Ends := by
  have hsurveys := takeLines_surveys h rfl .initial
  have hanchored := anchored_of_takeLines h .initial .initial
  exact ⟨hanchored.consistent hsurveys.at_site hsurveys.owns,
    hanchored.ends hsurveys.at_site hsurveys.owns⟩

/-- Within a doc string of the last step of a background that is open. -/
theorem consistent_within_docString :
    ∃ r, takeLines Sample.registry {} 1 ((Text.lines Sample.text).take 12) = .ok r ∧
      r.openBackground = some 2 ∧ r.target = some (.item 4) ∧ r.Consistent ∧ r.Ends := by
  have h : (match takeLines Sample.registry {} 1 ((Text.lines Sample.text).take 12) with
      | .ok r => decide (r.openBackground = some 2 ∧ r.target = some (.item 4))
      | .error _ => false) = true := by decide +kernel
  split at h
  next r hread =>
    obtain ⟨hopen, htarget⟩ := of_decide_eq_true h
    exact ⟨r, hread, hopen, htarget, consistent_of_takeLines hread⟩
  next => exact absurd h (by simp)

end Reading

end Gherkin
