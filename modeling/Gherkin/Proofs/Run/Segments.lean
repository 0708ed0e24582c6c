import Gherkin.Feature.Basic
import Mathlib.Data.List.Basic

/-!
# The segments of a feature

Where scenarios begin cuts the items of a feature into segments: what stands before the first
scenario, and each scenario with the items up to the next. Cutting loses nothing
(`Segments.items_ofItems`), and segments that are put together are cut again where they were
(`Segments.Proper.ofItems_items`), also if some have been left out.

Each segment with its steps makes a block, which runs on a context of its own. Only what stands
before the first scenario makes none if there is no step in it.
-/

namespace Gherkin

/-- Items cut where scenarios begin. -/
structure Segments where
  /-- What stands before the first scenario. -/
  lead : List Item
  /-- The scenarios, each with the items up to the next. -/
  scenarios : List (Marker × List Item)

namespace Segments

/-- The segments put together. -/
def items (p : Segments) : List Item := p.lead ++ p.scenarios.flatMap fun s => .marker s.1 :: s.2

/-- The segments of items. -/
def ofItems : List Item → Segments
  | [] => { lead := [], scenarios := [] }
  | item :: rest =>
    let later := ofItems rest
    match item.scenario? with
    | none => { later with lead := item :: later.lead }
    | some m => { lead := [], scenarios := (m, later.lead) :: later.scenarios }

theorem ofItems_of_none {item : Item} (h : item.scenario? = none) (rest : List Item) :
    ofItems (item :: rest) = { ofItems rest with lead := item :: (ofItems rest).lead } := by
  rw [ofItems, h]

theorem ofItems_of_some {item : Item} {m : Marker} (h : item.scenario? = some m)
    (rest : List Item) :
    ofItems (item :: rest)
      = { lead := [], scenarios := (m, (ofItems rest).lead) :: (ofItems rest).scenarios } := by
  rw [ofItems, h]

/-- Only a marker of a scenario begins one. -/
theorem scenario?_eq_some_iff {item : Item} {m : Marker} :
    item.scenario? = some m ↔ item = .marker m ∧ m.kind = .scenario := by
  cases item with
  | step s => simp [Item.scenario?]
  | marker m' =>
    show (if m'.kind = .scenario then some m' else none) = some m ↔ _
    constructor
    · intro h
      split at h
      next hkind =>
        obtain rfl : m' = m := Option.some.inj h
        exact ⟨rfl, hkind⟩
      next => cases h
    · rintro ⟨hm, hkind⟩
      obtain rfl : m' = m := Item.marker.inj hm
      rw [if_pos hkind]

/-- Cutting loses nothing. -/
theorem items_ofItems (items : List Item) : (ofItems items).items = items := by
  induction items with
  | nil => rfl
  | cons item rest ih =>
    cases hitem : item.scenario? with
    | none =>
      rw [ofItems_of_none hitem]
      exact congrArg (item :: ·) ih
    | some m =>
      obtain ⟨rfl, -⟩ := scenario?_eq_some_iff.mp hitem
      rw [ofItems_of_some hitem]
      exact congrArg (Item.marker m :: ·) ih

/-- Scenarios begin where there are cuts, and nowhere else. -/
structure Proper (p : Segments) : Prop where
  lead : ∀ item ∈ p.lead, item.scenario? = none
  kind : ∀ s ∈ p.scenarios, s.1.kind = .scenario
  rest : ∀ s ∈ p.scenarios, ∀ item ∈ s.2, item.scenario? = none

theorem proper_ofItems (items : List Item) : (ofItems items).Proper := by
  induction items with
  | nil => exact ⟨by simp [ofItems], by simp [ofItems], by simp [ofItems]⟩
  | cons item rest ih =>
    cases hitem : item.scenario? with
    | none =>
      rw [ofItems_of_none hitem]
      exact { ih with lead := List.forall_mem_cons.mpr ⟨hitem, ih.lead⟩ }
    | some m =>
      obtain ⟨-, hkind⟩ := scenario?_eq_some_iff.mp hitem
      rw [ofItems_of_some hitem]
      exact
        { lead := fun _ hmem => absurd hmem List.not_mem_nil
          kind := List.forall_mem_cons.mpr ⟨hkind, ih.kind⟩
          rest := List.forall_mem_cons.mpr ⟨ih.lead, ih.rest⟩ }

/-- Items in which no scenario begins go to the segment under way. -/
theorem ofItems_append {before : List Item} (h : ∀ item ∈ before, item.scenario? = none)
    (rest : List Item) :
    ofItems (before ++ rest)
      = { ofItems rest with lead := before ++ (ofItems rest).lead } := by
  induction before with
  | nil => rfl
  | cons item before ih =>
    obtain ⟨hitem, hbefore⟩ := List.forall_mem_cons.mp h
    rw [List.cons_append, ofItems_of_none hitem, ih hbefore]
    rfl

/-- What is put together is cut where it was. -/
theorem Proper.ofItems_items {p : Segments} (h : p.Proper) : ofItems p.items = p := by
  obtain ⟨lead, scenarios⟩ := p
  obtain ⟨hlead, hkind, hrest⟩ := h
  have hscenarios : ofItems (scenarios.flatMap fun s => .marker s.1 :: s.2)
      = { lead := [], scenarios } := by
    clear hlead
    induction scenarios with
    | nil => rfl
    | cons s scenarios ih =>
      obtain ⟨hskind, hkinds⟩ := List.forall_mem_cons.mp hkind
      obtain ⟨hsrest, hrests⟩ := List.forall_mem_cons.mp hrest
      have hmarker : (Item.marker s.1).scenario? = some s.1 :=
        scenario?_eq_some_iff.mpr ⟨rfl, hskind⟩
      rw [List.flatMap_cons, List.cons_append, ofItems_of_some hmarker, ofItems_append hsrest,
        ih hkinds hrests, List.append_nil]
  unfold items
  rw [ofItems_append hlead, hscenarios, List.append_nil]

end Segments

/-! ## Blocks -/

/-- Steps that are run on one context. -/
structure Block where
  name : Text
  /-- The steps of the background, which come first. -/
  background : List Step
  steps : List Step
  deriving DecidableEq, Repr

/-- The block of a scenario with the items up to the next. -/
def Block.ofScenario (background : List Step) (s : Marker × List Item) : Block :=
  { name := s.1.name, background, steps := s.2.filterMap Item.step? }

/-- The blocks of segments. Steps before the first scenario have no name and no background. -/
def Segments.blocks (background : List Step) (p : Segments) : List Block :=
  let steps := p.lead.filterMap Item.step?
  (if steps = [] then [] else [{ name := [], background := [], steps }])
    ++ p.scenarios.map (Block.ofScenario background)

namespace Feature

/-- The segments of a feature. -/
def segments (f : Feature) : Segments := .ofItems f.items

/-- The blocks of a feature. -/
def blocks (f : Feature) : List Block := f.segments.blocks f.backgroundSteps

/-- The blocks of a feature that is put together from segments are theirs. -/
theorem blocks_items (f : Feature) {p : Segments} (h : p.Proper) :
    ({ f with items := p.items } : Feature).blocks = p.blocks f.backgroundSteps := by
  show (Segments.ofItems p.items).blocks f.backgroundSteps = p.blocks f.backgroundSteps
  rw [h.ofItems_items]

/-- The blocks of a feature hold its steps, each once and in order. -/
theorem steps_blocks (f : Feature) :
    f.blocks.flatMap (·.steps) = f.items.filterMap Item.step? := by
  have hlead : (if f.segments.lead.filterMap Item.step? = [] then []
      else [(⟨[], [], f.segments.lead.filterMap Item.step?⟩ : Block)]).flatMap (·.steps)
      = f.segments.lead.filterMap Item.step? := by
    split
    next h => exact h.symm
    next => exact List.append_nil _
  have hscenarios :
      (f.segments.scenarios.map (Block.ofScenario f.backgroundSteps)).flatMap (·.steps)
      = (f.segments.scenarios.flatMap fun s => .marker s.1 :: s.2).filterMap Item.step? := by
    rw [List.flatMap_map, List.filterMap_flatMap]
    rfl
  have hitems : f.segments.items = f.items := Segments.items_ofItems f.items
  rw [← hitems]
  unfold blocks Segments.blocks Segments.items
  rw [List.flatMap_append, List.filterMap_append, hlead, hscenarios]

/-- There is one block for every marker of a scenario, after the one without a name. -/
theorem names_blocks (f : Feature) :
    f.blocks.map (·.name)
      = (if f.segments.lead.filterMap Item.step? = [] then [] else [[]])
        ++ f.scenarios.map (·.name) := by
  have hproper : f.segments.Proper := Segments.proper_ofItems f.items
  have hscenarios : f.scenarios = f.segments.scenarios.map (·.1) := by
    have hitems : f.segments.items = f.items := Segments.items_ofItems f.items
    have hlead : f.segments.lead.filterMap Item.scenario? = [] :=
      List.filterMap_eq_nil_iff.mpr hproper.lead
    unfold scenarios
    rw [← hitems, Segments.items, List.filterMap_append, hlead, List.nil_append,
      List.filterMap_flatMap, ← List.flatMap_pure_eq_map]
    refine List.flatMap_congr fun s hs => ?_
    have hmarker : (Item.marker s.1).scenario? = some s.1 :=
      Segments.scenario?_eq_some_iff.mpr ⟨rfl, hproper.kind s hs⟩
    have hrest : s.2.filterMap Item.scenario? = [] :=
      List.filterMap_eq_nil_iff.mpr (hproper.rest s hs)
    rw [List.filterMap_cons_some hmarker, hrest]
    rfl
  unfold blocks Segments.blocks
  rw [hscenarios, List.map_append, List.map_map, List.map_map]
  congr 1
  split
  next => rfl
  next => rfl

end Feature

end Gherkin
