import Gherkin.Proofs.Run.Segments
import Gherkin.Run.Course
import Mathlib.Algebra.BigOperators.Group.List.Basic

/-!
# A run block by block

A run goes from item to item and knows only where it stands, but it comes to the same as running
the blocks of the feature one by one, each on a context of its own, and adding up what they come to
(`run_eq_runBlocks`).

That is what all theorems on runs start from. Blocks that are left out, and those after the one at
which the run stops, contribute nothing at all, so a run is told by the blocks that do run
(`exists_runBlocks_eq`, `runBlocks_all`).
-/

namespace Gherkin

/-! ## Adding up -/

instance : Zero Tally := ⟨{}⟩

instance : AddCommMonoid Tally where
  add_assoc a b c := by ext <;> exact Nat.add_assoc _ _ _
  zero_add a := by ext <;> exact Nat.zero_add _
  add_zero a := by ext <;> exact Nat.add_zero _
  add_comm a b := by ext <;> exact Nat.add_comm _ _
  nsmul := nsmulRec

instance : Zero Summary := ⟨{}⟩

instance : AddCommMonoid Summary where
  add_assoc a b c := Summary.ext (Nat.add_assoc _ _ _) (Nat.add_assoc _ _ _) (add_assoc _ _ _)
    (add_assoc _ _ _)
  zero_add a := Summary.ext (Nat.zero_add _) (Nat.zero_add _) (zero_add _) (zero_add _)
  add_zero a := Summary.ext (Nat.add_zero _) (Nat.add_zero _) (add_zero _) (add_zero _)
  add_comm a b := Summary.ext (Nat.add_comm _ _) (Nat.add_comm _ _) (add_comm _ _) (add_comm _ _)
  nsmul := nsmulRec

namespace Course

variable {W : Type} {reg : Registry W} {fresh : Nat → W} {o : Options}

/-! ## Running block by block -/

/-- Runs all steps of a block on a fresh context. -/
def runSteps (reg : Registry W) (world : W) (b : Block) : Progress W :=
  b.steps.foldl (runStep reg false) (b.background.foldl (runStep reg true) { world := world })

/-- What running a block comes to. -/
structure BlockOutcome (W : Type) where
  events : List (Event W)
  /-- Whether a step failed. -/
  failed : Bool
  summary : Summary

/-- Runs a block on a fresh context, between the events of its beginning and its end. -/
def runBlock (reg : Registry W) (world : W) (b : Block) : BlockOutcome W :=
  let p := runSteps reg world b
  { events := [.scenarioStarted b.name] ++ p.events ++ [.scenarioFinished b.name !p.failed]
    failed := p.failed
    summary :=
      { scenarios := if p.failed then { failed := 1 } else { passed := 1 }, steps := p.steps } }

/-- Runs the blocks that the options select. The context of a block is made from its number;
`contexts` have been made before. -/
def runBlocks (reg : Registry W) (fresh : Nat → W) (o : Options) :
    (contexts : Nat) → List Block → Outcome W
  | contexts, [] => { events := [], summary := {}, contexts }
  | contexts, b :: rest =>
    if o.selects b.name then
      let here := runBlock reg (fresh (contexts + 1)) b
      if here.failed && o.failFast then
        { events := here.events, summary := here.summary, contexts := contexts + 1 }
      else
        let later := runBlocks reg fresh o (contexts + 1) rest
        { later with
          events := here.events ++ later.events
          summary := here.summary + later.summary }
    else runBlocks reg fresh o contexts rest

/-! ## Item by item is block by block -/

/-- The progress with counts and events from before. -/
def Progress.after (p : Progress W) (steps : Tally) (events : List (Event W)) : Progress W :=
  { p with steps := steps + p.steps, events := events ++ p.events }

/-- What was counted and told before does not matter to a step. -/
theorem runStep_after (background : Bool) (p : Progress W) (s : Step) (steps : Tally)
    (events : List (Event W)) :
    runStep reg background (p.after steps events) s
      = (runStep reg background p s).after steps events := by
  unfold runStep Progress.after
  dsimp only
  split
  next => rw [add_assoc, List.append_assoc]
  next =>
    split
    next => rw [add_assoc, List.append_assoc]
    next => rw [add_assoc, List.append_assoc]

theorem foldl_runStep_after (background : Bool) (p : Progress W) (ss : List Step) (steps : Tally)
    (events : List (Event W)) :
    ss.foldl (runStep reg background) (p.after steps events)
      = (ss.foldl (runStep reg background) p).after steps events := by
  induction ss generalizing p with
  | nil => rfl
  | cons s ss ih => rw [List.foldl_cons, List.foldl_cons, runStep_after, ih]

namespace Standing

/-- The run with a scenario under way that has come this far. -/
def on (st : Standing W) (name : Text) (p : Progress W) : Standing W :=
  { st with
    stage := .running name p.world p.failed
    summary := { st.summary with steps := p.steps }
    events := p.events }

theorem step_on (background : Bool) (st : Standing W) (name : Text) (p : Progress W) (s : Step) :
    (st.on name p).step reg background s = st.on name (runStep reg background p s) := rfl

theorem foldl_step_on (background : Bool) (st : Standing W) (name : Text) (p : Progress W)
    (ss : List Step) :
    ss.foldl (Standing.step reg background) (st.on name p)
      = st.on name (ss.foldl (runStep reg background) p) := by
  induction ss generalizing p with
  | nil => rfl
  | cons s ss ih => rw [List.foldl_cons, List.foldl_cons, step_on, ih]

/-- Steps of a scenario that was left out are passed over. -/
theorem foldl_step_filtered (background : Bool) {st : Standing W} (h : st.stage = .filtered)
    (ss : List Step) : ss.foldl (Standing.step reg background) st = st := by
  induction ss with
  | nil => rfl
  | cons s ss ih =>
    have hstep : st.step reg background s = st := by
      unfold Standing.step
      rw [h]
    rw [List.foldl_cons, hstep, ih]

/-- Begins a block and runs its steps. -/
def enter (reg : Registry W) (fresh : Nat → W) (o : Options) (b : Block) (st : Standing W) :
    Standing W :=
  b.steps.foldl (Standing.step reg false)
    (b.background.foldl (Standing.step reg true) (st.start fresh o b.name))

/-- A block that is let pass is run on the next context. -/
theorem enter_of_selects {b : Block} (h : o.selects b.name = true) (st : Standing W) :
    st.enter reg fresh o b
      = { st with contexts := st.contexts + 1 }.on b.name
          ((runSteps reg (fresh (st.contexts + 1)) b).after st.summary.steps
            (st.events ++ [Event.scenarioStarted b.name])) := by
  have hstart : st.start fresh o b.name
      = { st with contexts := st.contexts + 1 }.on b.name
          (({ world := fresh (st.contexts + 1) } : Progress W).after st.summary.steps
            (st.events ++ [Event.scenarioStarted b.name])) := by
    have hsteps : st.summary.steps + {} = st.summary.steps := add_zero _
    unfold Standing.start on Progress.after
    rw [if_pos h]
    dsimp only
    rw [hsteps, List.append_nil]
  unfold enter runSteps
  rw [hstart, foldl_step_on, foldl_step_on, foldl_runStep_after, foldl_runStep_after]

/-- A block that is left out is passed over. -/
theorem enter_of_not_selects {b : Block} (h : o.selects b.name = false) (st : Standing W) :
    st.enter reg fresh o b = { st with stage := .filtered } := by
  have hstart : st.start fresh o b.name = { st with stage := .filtered } := by
    unfold Standing.start
    rw [h]
    rfl
  unfold enter
  rw [hstart, foldl_step_filtered true rfl, foldl_step_filtered false rfl]

/-- A block that is let pass adds what it comes to on its own. -/
theorem finish_enter {b : Block} (h : o.selects b.name = true) (st : Standing W) :
    (st.enter reg fresh o b).finish
      = { contexts := st.contexts + 1
          summary := st.summary + (runBlock reg (fresh (st.contexts + 1)) b).summary
          events := st.events ++ (runBlock reg (fresh (st.contexts + 1)) b).events } := by
  rw [enter_of_selects h]
  unfold finish on Progress.after runBlock
  dsimp only
  rw [List.append_assoc, List.append_assoc, List.append_assoc]
  rfl

theorem failed_enter {b : Block} (h : o.selects b.name = true) (st : Standing W) :
    (st.enter reg fresh o b).failed = (runBlock reg (fresh (st.contexts + 1)) b).failed := by
  rw [enter_of_selects h]
  rfl

/-- Once a block is entered, the run awaits no scenario. -/
theorem stage_enter_ne_awaiting (b : Block) (st : Standing W) :
    (st.enter reg fresh o b).stage ≠ .awaiting := by
  cases h : o.selects b.name with
  | true =>
    rw [enter_of_selects h]
    intro hstage
    cases hstage
  | false =>
    rw [enter_of_not_selects h]
    intro hstage
    cases hstage

/-- A step neither begins nor ends a scenario. -/
theorem stage_step_ne_awaiting {st : Standing W} (h : st.stage ≠ .awaiting) (background : Bool)
    (s : Step) : (st.step reg background s).stage ≠ .awaiting := by
  unfold Standing.step
  split
  next => exact h
  next => exact h
  next =>
    intro hstage
    cases hstage

theorem stage_finish (st : Standing W) : st.finish.stage = .awaiting := by
  unfold finish
  split <;> rfl

theorem finish_of_awaiting {st : Standing W} (h : st.stage = .awaiting) : st.finish = st := by
  unfold finish
  rw [h]
  dsimp only
  rw [← h]

/-- The run after further blocks. -/
def andRun (reg : Registry W) (fresh : Nat → W) (o : Options) (st : Standing W)
    (blocks : List Block) : Standing W :=
  let later := runBlocks reg fresh o st.contexts blocks
  { contexts := later.contexts
    summary := st.summary + later.summary
    events := st.events ++ later.events }

theorem andRun_nil {st : Standing W} (h : st.stage = .awaiting) :
    st.andRun reg fresh o [] = st := by
  have hsummary : st.summary + {} = st.summary := add_zero _
  unfold andRun runBlocks
  dsimp only
  rw [hsummary, List.append_nil, ← h]

/-- To run blocks is to enter the first, and to go on unless the run stops there. -/
theorem andRun_cons (st : Standing W) (b : Block) (rest : List Block) :
    st.andRun reg fresh o (b :: rest)
      = if (st.enter reg fresh o b).failed && o.failFast then (st.enter reg fresh o b).finish
        else (st.enter reg fresh o b).finish.andRun reg fresh o rest := by
  cases h : o.selects b.name with
  | true =>
    rw [failed_enter h, finish_enter h]
    unfold andRun
    rw [runBlocks, if_pos h]
    dsimp only
    split
    next => rfl
    next => rw [add_assoc, List.append_assoc]
  | false =>
    rw [enter_of_not_selects h]
    unfold andRun
    rw [runBlocks, h]
    rfl

end Standing

section Walk

variable (background : List Step)

/-- Within a scenario, a step is one of it. -/
theorem walk_step {st : Standing W} (h : st.stage ≠ .awaiting) (s : Step) (rest : List Item) :
    walk reg fresh o background st (.step s :: rest)
      = walk reg fresh o background (st.step reg false s) rest := by
  rw [walk]
  split
  next hstage => exact absurd hstage h
  next => rfl
  next => rfl

/-- A step before every scenario enters a block without a name and without the background. -/
theorem walk_step_of_awaiting {st : Standing W} (h : st.stage = .awaiting) (s : Step)
    (rest : List Item) :
    walk reg fresh o background st (.step s :: rest)
      = walk reg fresh o background (st.enter reg fresh o ⟨[], [], [s]⟩) rest := by
  rw [walk, h]
  rfl

/-- A marker of a scenario ends what is under way, where the run may stop, and enters a block. -/
theorem walk_scenario {m : Marker} (h : m.kind = .scenario) (st : Standing W) (rest : List Item) :
    walk reg fresh o background st (.marker m :: rest)
      = if st.failed && o.failFast then st.finish
        else walk reg fresh o background
          (st.finish.enter reg fresh o ⟨m.name, background, []⟩) rest := by
  rw [walk, if_pos h]
  rfl

/-- No other marker is of interest. -/
theorem walk_other {m : Marker} (h : m.kind ≠ .scenario) (st : Standing W) (rest : List Item) :
    walk reg fresh o background st (.marker m :: rest) = walk reg fresh o background st rest := by
  rw [walk, if_neg h]

/-- From within a scenario, a run goes through the steps up to the next marker of a scenario, and
then through the blocks that follow unless it stops. -/
theorem walk_eq_andRun (items : List Item) {st : Standing W} (h : st.stage ≠ .awaiting) :
    walk reg fresh o background st items
      = let segments := Segments.ofItems items
        let here := (segments.lead.filterMap Item.step?).foldl (Standing.step reg false) st
        if here.failed && o.failFast then here.finish
        else here.finish.andRun reg fresh o
          (segments.scenarios.map (Block.ofScenario background)) := by
  induction items generalizing st with
  | nil =>
    show st.finish = if st.failed && o.failFast then st.finish else st.finish.andRun reg fresh o []
    rw [Standing.andRun_nil st.stage_finish, ite_self]
  | cons item rest ih =>
    cases item with
    | step s =>
      rw [walk_step background h, ih (Standing.stage_step_ne_awaiting h false s)]
      rfl
    | marker m =>
      by_cases hkind : m.kind = .scenario
      · have hm : (Item.marker m).scenario? = some m := if_pos hkind
        rw [walk_scenario background hkind, Segments.ofItems_of_some hm,
          ih (Standing.stage_enter_ne_awaiting ⟨m.name, background, []⟩ st.finish)]
        dsimp only [List.filterMap_nil, List.foldl_nil]
        rw [List.map_cons, Standing.andRun_cons]
        rfl
      · have hm : (Item.marker m).scenario? = none := if_neg hkind
        rw [walk_other background hkind, Segments.ofItems_of_none hm]
        exact ih h

end Walk

/-- From the beginning, a run goes through the blocks. -/
theorem walk_eq_andRun_blocks (background : List Step) (items : List Item) {st : Standing W}
    (h : st.stage = .awaiting) :
    walk reg fresh o background st items
      = st.andRun reg fresh o ((Segments.ofItems items).blocks background) := by
  induction items with
  | nil =>
    show st.finish = st.andRun reg fresh o []
    rw [Standing.andRun_nil h, Standing.finish_of_awaiting h]
  | cons item rest ih =>
    let later := (Segments.ofItems rest).scenarios.map (Block.ofScenario background)
    let steps := (Segments.ofItems rest).lead.filterMap Item.step?
    cases item with
    | step s =>
      have hblocks : (Segments.ofItems (.step s :: rest)).blocks background
          = ⟨[], [], s :: steps⟩ :: later := rfl
      rw [walk_step_of_awaiting background h, hblocks, Standing.andRun_cons,
        walk_eq_andRun _ _ (Standing.stage_enter_ne_awaiting ⟨[], [], [s]⟩ st)]
      rfl
    | marker m =>
      by_cases hkind : m.kind = .scenario
      · have hm : (Item.marker m).scenario? = some m := if_pos hkind
        have hblocks : (Segments.ofItems (.marker m :: rest)).blocks background
            = ⟨m.name, background, steps⟩ :: later := by
          rw [Segments.ofItems_of_some hm]
          rfl
        have hfailed : st.failed = false := by
          unfold Standing.failed
          rw [h]
        rw [walk_scenario background hkind, hfailed, hblocks, Standing.andRun_cons,
          Standing.finish_of_awaiting h, Bool.false_and, if_neg Bool.false_ne_true,
          walk_eq_andRun _ _ (Standing.stage_enter_ne_awaiting ⟨m.name, background, []⟩ st)]
        rfl
      · have hm : (Item.marker m).scenario? = none := if_neg hkind
        have hblocks : (Segments.ofItems (.marker m :: rest)).blocks background
            = (Segments.ofItems rest).blocks background := by
          rw [Segments.ofItems_of_none hm]
          rfl
        rw [walk_other background hkind, hblocks]
        exact ih

/-- **To run a feature item by item is to run it block by block.** -/
theorem run_eq_runBlocks (contexts : Nat) (f : Feature) :
    run reg fresh o contexts f
      = let blocks := runBlocks reg fresh o contexts f.blocks
        { events := .started f :: blocks.events
          summary := { features := 1 } + blocks.summary
          contexts := blocks.contexts } := by
  unfold run
  rw [walk_eq_andRun_blocks f.backgroundSteps f.items rfl]
  rfl

/-- Blocks that run alike one by one run alike together. `tell` is what becomes of the events. -/
theorem runBlocks_map {reg' : Registry W} {g : Block → Block} {tell : Event W → Event W}
    (hname : ∀ b, (g b).name = b.name)
    (hrun : ∀ world b, runBlock reg' world (g b)
      = { runBlock reg world b with events := (runBlock reg world b).events.map tell })
    (contexts : Nat) (blocks : List Block) :
    runBlocks reg' fresh o contexts (blocks.map g)
      = { runBlocks reg fresh o contexts blocks with
          events := (runBlocks reg fresh o contexts blocks).events.map tell } := by
  induction blocks generalizing contexts with
  | nil => rfl
  | cons b rest ih =>
    rw [List.map_cons, runBlocks, runBlocks, hname, hrun]
    dsimp only
    split
    next =>
      split
      next => rfl
      next => rw [ih, List.map_append]
    next => exact ih contexts

/-! ## The blocks that run -/

/-- What blocks come to that all run, each on the context of its number. -/
def runAll (reg : Registry W) (fresh : Nat → W) (contexts : Nat) (blocks : List Block) :
    List (BlockOutcome W) :=
  blocks.mapIdx fun i b => runBlock reg (fresh (contexts + i + 1)) b

theorem runAll_cons (contexts : Nat) (b : Block) (rest : List Block) :
    runAll reg fresh contexts (b :: rest)
      = runBlock reg (fresh (contexts + 1)) b :: runAll reg fresh (contexts + 1) rest := by
  have hindex (i : Nat) : contexts + (i + 1) + 1 = contexts + 1 + i + 1 := by omega
  simp only [runAll, List.mapIdx_cons, hindex, Nat.add_zero]

/-- The outcomes of blocks as one. -/
def Outcome.ofBlocks (contexts : Nat) (blocks : List (BlockOutcome W)) : Outcome W :=
  { events := blocks.flatMap (·.events)
    summary := (blocks.map (·.summary)).sum
    contexts := contexts + blocks.length }

theorem Outcome.ofBlocks_cons (contexts : Nat) (b : BlockOutcome W)
    (rest : List (BlockOutcome W)) :
    Outcome.ofBlocks contexts (b :: rest)
      = { events := b.events ++ (Outcome.ofBlocks (contexts + 1) rest).events
          summary := b.summary + (Outcome.ofBlocks (contexts + 1) rest).summary
          contexts := (Outcome.ofBlocks (contexts + 1) rest).contexts } := by
  unfold Outcome.ofBlocks
  rw [List.flatMap_cons, List.map_cons, List.sum_cons, List.length_cons, Nat.add_assoc contexts 1,
    Nat.add_comm 1]

/-- Some of the blocks run, in order, and the others contribute nothing. All run if there is no
filter and the run does not stop at a failure. -/
theorem exists_runBlocks_eq (reg : Registry W) (fresh : Nat → W) (o : Options) (contexts : Nat)
    (blocks : List Block) :
    ∃ ran : List Block, ran.Sublist blocks ∧ (o = {} → ran = blocks) ∧
      runBlocks reg fresh o contexts blocks
        = Outcome.ofBlocks contexts (runAll reg fresh contexts ran) := by
  induction blocks generalizing contexts with
  | nil => exact ⟨[], List.Sublist.refl [], fun _ => rfl, rfl⟩
  | cons b rest ih =>
    rw [runBlocks]
    split
    next =>
      dsimp only
      split
      -- the run stops with the block that failed
      next hstops =>
        refine ⟨[b], List.singleton_sublist.mpr (List.mem_cons_self ..), ?_, ?_⟩
        · intro ho
          rw [ho, Bool.and_false] at hstops
          exact absurd hstops Bool.false_ne_true
        · rw [runAll_cons, Outcome.ofBlocks_cons]
          show _ = Outcome.mk (_ ++ []) (_ + 0) (contexts + 1)
          rw [List.append_nil, add_zero]
      next =>
        obtain ⟨ran, hsub, hall, hran⟩ := ih (contexts + 1)
        refine ⟨b :: ran, hsub.cons_cons b, fun ho => congrArg (b :: ·) (hall ho), ?_⟩
        rw [runAll_cons, Outcome.ofBlocks_cons, hran]
    -- the options leave the block out
    next hleft =>
      obtain ⟨ran, hsub, -, hran⟩ := ih contexts
      refine ⟨ran, hsub.cons b, fun ho => ?_, hran⟩
      rw [ho] at hleft
      exact absurd rfl hleft

/-- Without a filter and without stopping at a failure, all blocks run. -/
theorem runBlocks_all (reg : Registry W) (fresh : Nat → W) (contexts : Nat) (blocks : List Block) :
    runBlocks reg fresh {} contexts blocks
      = Outcome.ofBlocks contexts (runAll reg fresh contexts blocks) := by
  obtain ⟨ran, -, hall, hran⟩ := exists_runBlocks_eq reg fresh {} contexts blocks
  rw [hran, hall rfl]

end Course

end Gherkin
