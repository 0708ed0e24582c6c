import Gherkin.Proofs.Run.Filter
import Gherkin.Proofs.Run.Reconciliation
import Gherkin.Proofs.Run.Trace

/-!
# To stop at a failure is to cut the run short

Whether a run stops is decided only when the next scenario begins, after the events of the one that
failed. So the run that stops has told the same up to there as the run that goes on, and nothing
after it: its events are the shortest beginning of the other's events that ends with a scenario that
failed, or all of them if none failed (`run_failFast_cuts`).

Block by block the two runs are easily compared: the blocks that the filter selects are the same,
and the run that stops runs them up to the first that fails (`runBlocks_failFast`). A block tells of
its end last and of no other end (`endsOnce_runBlock`), which carries this over to the events.
-/

namespace Gherkin

variable {W : Type}

/-! ## The first failure among events -/

/-- The last of the events is the end of a scenario that failed. -/
def EndInFailure (es : List (Event W)) : Prop :=
  ∃ before name, es = before ++ [.scenarioFinished name false]

/-- The events are the shortest beginning of all that ends with a scenario that failed. -/
structure UpToFailure (es all : List (Event W)) : Prop where
  ends : EndInFailure es
  begins : es <+: all
  shortest : ∀ es', EndInFailure es' → es' <+: all → es <+: es'

/-- Where no scenario failed before, the first that does is where to cut. -/
theorem upToFailure_of_split {before after : List (Event W)} {name : Text}
    (h : ∀ name', .scenarioFinished name' false ∉ before) :
    UpToFailure (before ++ [.scenarioFinished name false])
      (before ++ .scenarioFinished name false :: after) where
  ends := ⟨before, name, rfl⟩
  begins := ⟨after, List.append_assoc ..⟩
  shortest := by
    rintro es' ⟨before', name', rfl⟩ hbegins
    have hcut : before ++ [.scenarioFinished name false]
        <+: before ++ .scenarioFinished name false :: after := ⟨after, List.append_assoc ..⟩
    rcases List.prefix_or_prefix_of_prefix hcut hbegins with hle | hle
    · exact hle
    · rcases List.prefix_concat_iff.mp hle with heq | hshorter
      · exact ⟨[], (List.append_nil _).trans heq.symm⟩
      -- a shorter one would have its failure where none is
      · exact absurd (hshorter.subset (List.mem_append_right before' (List.mem_singleton_self _)))
          (h name')

/-- Where a run was cut at the first failure, no other is told before it and nothing after it. -/
theorem UpToFailure.only {es all before after : List (Event W)} {name : Text}
    (h : UpToFailure es all) (hsplit : es = before ++ .scenarioFinished name false :: after) :
    (∀ name', .scenarioFinished name' false ∉ before) ∧ after = [] := by
  have hlength {first last : List (Event W)} {name' : Text}
      (hfirst : es = first ++ .scenarioFinished name' false :: last) : last = [] := by
    have hbegins : first ++ [.scenarioFinished name' false] <+: es := by
      rw [hfirst]
      exact ⟨last, List.append_assoc ..⟩
    have hle := (h.shortest _ ⟨first, name', rfl⟩ (hbegins.trans h.begins)).length_le
    rw [hfirst, List.length_append, List.length_append, List.length_cons, List.length_singleton]
      at hle
    exact List.length_eq_zero_iff.mp (by omega)
  refine ⟨fun name' hmem => ?_, hlength hsplit⟩
  obtain ⟨first, last, rfl⟩ := List.append_of_mem hmem
  rw [List.append_assoc] at hsplit
  exact absurd (hlength hsplit) (by simp)

namespace Course

variable {reg : Registry W} {fresh : Nat → W}

/-! ## Blocks up to the first that fails -/

/-- The outcomes up to the first block that failed; all if none did. -/
def uptoFailed : List (BlockOutcome W) → List (BlockOutcome W)
  | [] => []
  | b :: rest => if b.failed then [b] else b :: uptoFailed rest

/-- Either no block failed, or the blocks are cut after the first that did. -/
theorem uptoFailed_eq_or : ∀ bs : List (BlockOutcome W),
    ((∀ b ∈ bs, b.failed = false) ∧ uptoFailed bs = bs) ∨
      ∃ before b after, bs = before ++ b :: after ∧ (∀ b' ∈ before, b'.failed = false) ∧
        b.failed = true ∧ uptoFailed bs = before ++ [b]
  | [] => Or.inl ⟨fun _ hb => absurd hb List.not_mem_nil, rfl⟩
  | b :: rest => by
    rw [uptoFailed]
    cases hfailed : b.failed with
    | true =>
      exact Or.inr ⟨[], b, rest, rfl, fun _ hb => absurd hb List.not_mem_nil, hfailed, rfl⟩
    | false =>
      rcases uptoFailed_eq_or rest with ⟨hnone, hall⟩ | ⟨before, b', after, rfl, hnone, hb', hcut⟩
      · refine Or.inl ⟨List.forall_mem_cons.mpr ⟨hfailed, hnone⟩, ?_⟩
        rw [hall]
        rfl
      · refine Or.inr ⟨b :: before, b', after, rfl, List.forall_mem_cons.mpr ⟨hfailed, hnone⟩, hb',
          ?_⟩
        rw [hcut]
        rfl

/-- **A run that stops at a failure runs the blocks up to the first that fails.** -/
theorem runBlocks_failFast (contexts : Nat) (blocks : List Block) :
    runBlocks reg fresh { failFast := true } contexts blocks
      = .ofBlocks contexts (uptoFailed (runAll reg fresh contexts blocks)) := by
  induction blocks generalizing contexts with
  | nil => rfl
  | cons b rest ih =>
    have hselects : ({ failFast := true } : Options).selects b.name = true := rfl
    rw [runBlocks, if_pos hselects, runAll_cons, uptoFailed]
    dsimp only
    rw [Bool.and_true]
    cases (runBlock reg (fresh (contexts + 1)) b).failed with
    | true =>
      rw [if_pos rfl, if_pos rfl, Outcome.ofBlocks_cons]
      show _ = Outcome.mk (_ ++ []) (_ + 0) (contexts + 1)
      rw [List.append_nil, add_zero]
    | false =>
      rw [if_neg Bool.false_ne_true, if_neg Bool.false_ne_true, ih, Outcome.ofBlocks_cons]

/-! ## From blocks to events -/

/-- The block tells of its end last, and of no other end. -/
def BlockOutcome.EndsOnce (b : BlockOutcome W) : Prop :=
  ∃ told name, b.events = told ++ [.scenarioFinished name !b.failed] ∧
    ∀ name' passed, .scenarioFinished name' passed ∉ told

theorem endsOnce_runBlock (reg : Registry W) (world : W) (b : Block) :
    (runBlock reg world b).EndsOnce := by
  rw [runBlock_eq]
  refine ⟨_, b.name, rfl, ?_⟩
  intro name passed hmem
  rcases List.mem_append.mp hmem with hstarted | hstep
  · cases List.mem_singleton.mp hstarted
  · obtain ⟨i, hi, hstep⟩ := List.mem_iff_getElem.mp hstep
    rw [List.getElem_zipWith] at hstep
    cases hstep

theorem endsOnce_of_mem_runAll {contexts : Nat} {blocks : List Block} {b : BlockOutcome W}
    (h : b ∈ runAll reg fresh contexts blocks) : b.EndsOnce := by
  obtain ⟨i, hi, rfl⟩ := List.mem_mapIdx.mp h
  exact endsOnce_runBlock reg _ _

/-- Blocks that pass tell of no scenario that failed. -/
theorem not_mem_of_passing {bs : List (BlockOutcome W)} (hends : ∀ b ∈ bs, b.EndsOnce)
    (hpass : ∀ b ∈ bs, b.failed = false) (name : Text) :
    .scenarioFinished name false ∉ bs.flatMap (·.events) := by
  intro hmem
  obtain ⟨b, hb, hevent⟩ := List.mem_flatMap.mp hmem
  obtain ⟨told, name', hevents, hnone⟩ := hends b hb
  rw [hevents, hpass b hb] at hevent
  rcases List.mem_append.mp hevent with htold | hend
  · exact hnone name false htold
  · cases List.mem_singleton.mp hend

/-- The events of blocks up to the first that fails are the events up to the first failure. -/
theorem events_uptoFailed {bs : List (BlockOutcome W)} (hends : ∀ b ∈ bs, b.EndsOnce)
    (f : Feature) :
    UpToFailure (.started f :: (uptoFailed bs).flatMap (·.events))
        (.started f :: bs.flatMap (·.events)) ∨
      (∀ name, .scenarioFinished name false ∉ Event.started f :: bs.flatMap (·.events)) ∧
        uptoFailed bs = bs := by
  have hstarted {es : List (Event W)} (h : ∀ name, .scenarioFinished name false ∉ es)
      (name : Text) : .scenarioFinished name false ∉ Event.started f :: es := by
    intro hmem
    rcases List.mem_cons.mp hmem with hhead | htail
    · cases hhead
    · exact h name htail
  rcases uptoFailed_eq_or bs with ⟨hpass, hall⟩ | ⟨before, b, after, rfl, hpass, hfailed, hcut⟩
  · exact Or.inr ⟨hstarted (not_mem_of_passing hends hpass), hall⟩
  · left
    obtain ⟨hendsBefore, hendsCut⟩ := List.forall_mem_append.mp hends
    obtain ⟨told, name, hevents, hnone⟩ := (List.forall_mem_cons.mp hendsCut).1
    have hbefore : ∀ name', .scenarioFinished name' false
        ∉ Event.started f :: (before.flatMap (·.events) ++ told) := by
      refine hstarted fun name' hmem => ?_
      rcases List.mem_append.mp hmem with hearlier | htold
      · exact not_mem_of_passing hendsBefore hpass name' hearlier
      · exact hnone name' false htold
    rw [hfailed] at hevents
    have hstopping : Event.started f :: (before ++ [b]).flatMap (·.events)
        = .started f :: (before.flatMap (·.events) ++ told) ++ [.scenarioFinished name false] := by
      rw [List.flatMap_append, List.flatMap_singleton, hevents, List.cons_append, List.append_assoc]
      rfl
    have hgoing : Event.started f :: (before ++ b :: after).flatMap (·.events)
        = .started f :: (before.flatMap (·.events) ++ told)
          ++ .scenarioFinished name false :: after.flatMap (·.events) := by
      rw [List.flatMap_append, List.flatMap_cons, hevents, List.append_assoc told,
        ← List.append_assoc]
      rfl
    rw [hcut, hstopping, hgoing]
    exact upToFailure_of_split hbefore

/-- A run creates one context for every scenario that it begins. -/
theorem contexts_run (reg : Registry W) (fresh : Nat → W) (o : Options) (contexts : Nat)
    (f : Feature) :
    (run reg fresh o contexts f).contexts
      = contexts + ((run reg fresh o contexts f).events.filterMap Event.startedName?).length := by
  obtain ⟨ran, -, -, hrun⟩ := exists_runBlocks_eq reg fresh o contexts f.blocks
  obtain ⟨told, hran, htold, hevents⟩ := exists_told reg fresh contexts ran
  have hnames : (told.flatMap (·.2)).filterMap Event.startedName? = told.map (·.1.name) := by
    rw [List.filterMap_flatMap, ← List.flatMap_pure_eq_map]
    exact List.flatMap_congr fun t ht => (htold t ht).started
  rw [run_eq_runBlocks, hrun]
  show contexts + (runAll reg fresh contexts ran).length
    = contexts + ((Event.started f :: _).filterMap Event.startedName?).length
  rw [hevents, List.filterMap_cons_none rfl, hnames, List.length_map, ← List.length_map Prod.fst,
    hran]
  unfold runAll
  rw [List.length_mapIdx]

end Course

namespace Feature

open Course

/-- **A run that stops at a failure tells what the run that goes on tells, up to the first scenario
that failed**, or all of it if none failed. Its summary counts what it tells and nothing else; at
most one scenario has failed, and nothing is begun and no context made after it. -/
theorem run_failFast_cuts (reg : Registry W) (fresh : Nat → W) (filter : Option Pattern)
    (contexts : Nat) (f : Feature) :
    let stopping := run reg fresh { nameFilter := filter, failFast := true } contexts f
    let going := run reg fresh { nameFilter := filter, failFast := false } contexts f
    (UpToFailure stopping.events going.events ∨
      (∀ name, .scenarioFinished name false ∉ going.events) ∧ stopping.events = going.events) ∧
    (∀ before name after, stopping.events = before ++ .scenarioFinished name false :: after →
      (∀ name', .scenarioFinished name' false ∉ before) ∧ after = []) ∧
    stopping.summary.scenarios.failed ≤ 1 ∧ stopping.summary.features = 1 ∧
    ∃ created, stopping.summary.Accounts stopping.events created ∧
      stopping.contexts = contexts + created ∧
      created = (stopping.events.filterMap Event.startedName?).length := by
  intro stopping going
  let ran := f.blocks.filter fun b => ({ nameFilter := filter } : Options).selects b.name
  have hstopping : stopping.events
      = .started f :: (uptoFailed (runAll reg fresh contexts ran)).flatMap (·.events) := by
    have hrun : stopping = _ := run_eq_runBlocks contexts f
    rw [hrun, runBlocks_eq_filter]
    exact congrArg (fun blocks : Outcome W => _ :: blocks.events) (runBlocks_failFast contexts ran)
  have hgoing : going.events
      = .started f :: (runAll reg fresh contexts ran).flatMap (·.events) := by
    have hrun : going = _ := run_eq_runBlocks contexts f
    rw [hrun, runBlocks_eq_filter]
    exact congrArg (fun blocks : Outcome W => _ :: blocks.events)
      (runBlocks_all reg fresh contexts ran)
  have hcut : UpToFailure stopping.events going.events ∨
      (∀ name, .scenarioFinished name false ∉ going.events) ∧ stopping.events = going.events := by
    have hends : ∀ b ∈ runAll reg fresh contexts ran, b.EndsOnce :=
      fun b hb => endsOnce_of_mem_runAll hb
    rw [hstopping, hgoing]
    rcases events_uptoFailed hends f with hcut | ⟨hnone, hall⟩
    · exact Or.inl hcut
    · exact Or.inr ⟨hnone, by rw [hall]⟩
  have honly : ∀ before name after,
      stopping.events = before ++ .scenarioFinished name false :: after →
        (∀ name', .scenarioFinished name' false ∉ before) ∧ after = [] := by
    intro before name after hsplit
    rcases hcut with hcut | ⟨hnone, hall⟩
    · exact hcut.only hsplit
    · rw [hall] at hsplit
      exact absurd (hsplit ▸ List.mem_append_right before (List.mem_cons_self ..)) (hnone name)
  obtain ⟨created, hcontexts, haccounts⟩ :=
    accounts_run reg fresh { nameFilter := filter, failFast := true } contexts f
  refine ⟨hcut, honly, ?failed, ?features, created, haccounts, hcontexts, ?created⟩
  case failed =>
    rw [haccounts.scenarios]
    show (stopping.events.filterMap Event.verdict?).count false ≤ 1
    by_cases hfailed : ∃ name, .scenarioFinished name false ∈ stopping.events
    · obtain ⟨name, hmem⟩ := hfailed
      obtain ⟨before, after, hsplit⟩ := List.append_of_mem hmem
      obtain ⟨hnone, rfl⟩ := honly before name after hsplit
      rw [hsplit, List.filterMap_append, List.count_append,
        Event.count_verdict?_eq_zero_iff.mpr hnone]
      exact Nat.le_refl 1
    · rw [Event.count_verdict?_eq_zero_iff.mpr (not_exists.mp hfailed)]
      exact Nat.zero_le 1
  case features => rw [summary_run]
  case created =>
    exact Nat.add_left_cancel (hcontexts.symm.trans (contexts_run reg fresh _ contexts f))

/-- In the sample the second of three scenarios fails. The run that stops there has made two
contexts, and it tells nothing of the third. -/
theorem run_failFast_cuts_sample :
    let reg := Sample.counter (.panicked none)
    let stopping := run reg id { failFast := true } 0 Sample.handMade
    let going := run reg id {} 0 Sample.handMade
    UpToFailure stopping.events going.events ∧ stopping.events ≠ going.events ∧
      stopping.summary.scenarios = { passed := 1, failed := 1 } ∧
      going.summary.scenarios = { passed := 2, failed := 1 } ∧ stopping.contexts = 2 := by
  intro reg stopping going
  have hlength : stopping.events.length = 10 ∧ going.events.length = 14 := by decide
  have hne : stopping.events ≠ going.events := by
    intro heq
    have hlengths := congrArg List.length heq
    omega
  obtain ⟨hcut, -⟩ := run_failFast_cuts reg id none 0 Sample.handMade
  refine ⟨?_, hne, by decide, by decide, by decide⟩
  rcases hcut with hcut | ⟨-, hall⟩
  · exact hcut
  · exact absurd hall hne

end Feature

end Gherkin
