import Gherkin.Proofs.Run.Blocks

/-!
# To filter is to delete

A run with a filter by name begins no scenario that the filter leaves out and passes over its items.
It comes to the same as a run without the filter of the feature from which these scenarios are
deleted, each with the items up to the next, and with them the steps before the first scenario if
the filter leaves out what has no name (`run_filtered_eq_run_deleted`).

Both say which blocks run: the blocks of what is left are the blocks that the filter selects.
-/

namespace Gherkin

/-- The segments without the scenarios that the options leave out, and without the steps before the
first scenario if the options leave out what has no name. -/
def Segments.select (o : Options) (p : Segments) : Segments :=
  { lead := if o.selects [] then p.lead else p.lead.filter fun item => item.step?.isNone
    scenarios := p.scenarios.filter fun s => o.selects s.1.name }

namespace Segments

variable {o : Options} {p : Segments}

/-- Deleting begins no scenario. -/
theorem Proper.select (h : p.Proper) : (p.select o).Proper where
  lead item hitem := by
    unfold Segments.select at hitem
    dsimp only at hitem
    split at hitem
    next => exact h.lead item hitem
    next => exact h.lead item (List.mem_of_mem_filter hitem)
  kind s hs := h.kind s (List.mem_of_mem_filter hs)
  rest s hs := h.rest s (List.mem_of_mem_filter hs)

/-- What is left makes the blocks that the options select. -/
theorem blocks_select (o : Options) (p : Segments) (background : List Step) :
    (p.select o).blocks background
      = (p.blocks background).filter fun b => o.selects b.name := by
  have hscenarios : (p.select o).scenarios.map (Block.ofScenario background)
      = (p.scenarios.map (Block.ofScenario background)).filter fun b => o.selects b.name := by
    rw [List.filter_map]
    rfl
  unfold blocks
  dsimp only
  rw [hscenarios, List.filter_append]
  congr 1
  cases hselects : o.selects [] with
  | true =>
    have hlead : (p.select o).lead = p.lead := by
      unfold Segments.select
      rw [hselects]
      rfl
    rw [hlead]
    split
    next => rfl
    next =>
      rw [List.filter_cons_of_pos (p := fun b : Block => o.selects b.name) hselects,
        List.filter_nil]
  | false =>
    have hlead : (p.select o).lead.filterMap Item.step? = [] := by
      unfold Segments.select
      rw [hselects, List.filterMap_eq_nil_iff]
      intro item hitem
      exact Option.isNone_iff_eq_none.mp (List.mem_filter.mp hitem).2
    rw [if_pos hlead]
    split
    next => rfl
    next =>
      rw [List.filter_cons_of_neg (p := fun b : Block => o.selects b.name) (by simp [hselects]),
        List.filter_nil]

end Segments

/-- The feature without what the options leave out. -/
def Feature.select (o : Options) (f : Feature) : Feature :=
  { f with items := (f.segments.select o).items }

namespace Course

variable {W : Type} {reg : Registry W} {fresh : Nat → W}

/-- The blocks that are left out contribute nothing, so they need not be there. -/
theorem runBlocks_eq_filter (o : Options) (contexts : Nat) (blocks : List Block) :
    runBlocks reg fresh o contexts blocks
      = runBlocks reg fresh { o with nameFilter := none } contexts
          (blocks.filter fun b => o.selects b.name) := by
  induction blocks generalizing contexts with
  | nil => rfl
  | cons b rest ih =>
    cases hselects : o.selects b.name with
    | true =>
      have hall : ({ o with nameFilter := none } : Options).selects b.name = true := rfl
      rw [List.filter_cons_of_pos (p := fun b : Block => o.selects b.name) hselects, runBlocks,
        runBlocks, if_pos hselects, if_pos hall, ih]
    | false =>
      rw [List.filter_cons_of_neg (p := fun b : Block => o.selects b.name) (by simp [hselects]),
        runBlocks, hselects]
      exact ih contexts

end Course

namespace Feature

open Course

variable {W : Type}

/-- **A filter by name deletes.** To run a feature with a filter is to run without it the feature
from which the scenarios are deleted that the filter leaves out: after the beginning the same is
told, the same is counted, and as many contexts are created. -/
theorem run_filtered_eq_run_deleted (reg : Registry W) (fresh : Nat → W) (filter : Pattern)
    (failFast : Bool) (contexts : Nat) (f : Feature) :
    let o : Options := { nameFilter := some filter, failFast }
    let filtered := run reg fresh o contexts f
    let deleted := run reg fresh { failFast } contexts (f.select o)
    (∃ told, filtered.events = .started f :: told ∧
      deleted.events = .started (f.select o) :: told) ∧
    filtered.summary = deleted.summary ∧ filtered.contexts = deleted.contexts := by
  intro o
  have hproper : (f.segments.select o).Proper := (Segments.proper_ofItems f.items).select
  have hblocks : (f.select o).blocks = f.blocks.filter fun b => o.selects b.name :=
    (f.blocks_items hproper).trans (f.segments.blocks_select o f.backgroundSteps)
  have hdeleted : run reg fresh { failFast } contexts (f.select o) = _ :=
    run_eq_runBlocks contexts (f.select o)
  rw [hblocks] at hdeleted
  have hfiltered : run reg fresh o contexts f = _ := run_eq_runBlocks contexts f
  rw [runBlocks_eq_filter] at hfiltered
  rw [hfiltered, hdeleted]
  exact ⟨⟨_, rfl, rfl⟩, rfl, rfl⟩

end Feature

end Gherkin
