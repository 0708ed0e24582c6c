import Gherkin.Proofs.Run.Invocation
import Gherkin.Proofs.Run.Reports
import Gherkin.Proofs.Step.Script

/-!
# What becomes of each step

A step that is run has one outcome. If its arguments cannot be bound, that is why it fails, and its
handler does nothing. Otherwise the handler's reply decides (`Reply.Decides`): how the handler ended
comes first, whatever it reported on the way; errors that it reported come next, all of them; and
without any the step passes. Its messages are those of this reply, and the context goes on as the
reply leaves it (`Runs`).

The steps of a block are run so one after another, each on the context that the one before has left,
up to one that fails, and are skipped after it (`Unfolds`). Every run tells of blocks that unfold on
fresh contexts (`Feature.run_unfolds`). What a reply holds if the handler is a script is said by the
actions of the script up to the one that ended it.
-/

namespace Gherkin

/-! ## One step -/

variable {W : Type}

/-- How a step ends by the reply of its handler. -/
inductive Reply.Decides (reply : Reply W) : StepResult → Prop
  | failed (message : Text) (h : reply.ending = .failed message) :
    Decides reply (.failed (.failed message))
  | panicked (message : Text) (h : reply.ending = .panicked (some message)) :
    Decides reply (.failed (.panicked message))
  | panickedSilently (h : reply.ending = .panicked none) :
    Decides reply (.failed (.panicked "(Could not resolve panic payload)".toList))
  | reported (h : reply.ending = .finished) (herrors : reply.errors ≠ []) :
    Decides reply (.failed (.reported reply.errors))
  | passed (h : reply.ending = .finished) (herrors : reply.errors = []) : Decides reply .passed

namespace Course

variable {reg : Registry W}

/-- A step is run on a context and leaves another, with what is told of it. -/
inductive Runs (reg : Registry W) (s : Step) (world : W) : StepReport W → W → Prop
  /-- The arguments cannot be bound, and nothing is done. -/
  | unbound (d : Definition W) (e : BindingFault)
    (hd : reg.definitions[s.found.handler]? = some d)
    (hbind : d.handler.bind s.text s.arguments = .error e) :
    Runs reg s world { status := .failed (.bind e), logs := [], invocation := none } world
  /-- The handler replies. -/
  | replied (d : Definition W) (values : List Value) (reply : Reply W) (status : StepResult)
    (hd : reg.definitions[s.found.handler]? = some d)
    (hbind : d.handler.bind s.text s.arguments = .ok values)
    (hreply : reply = d.handler.run values world) (hstatus : reply.Decides status) :
    Runs reg s world
      { status
        logs := reply.logs
        invocation := some { location := d.location, values, world := reply.world } }
      reply.world
  /-- A step that was not read with the registry may be without a handler. -/
  | unknown (hd : reg.definitions[s.found.handler]? = none) :
    Runs reg s world
      { status := .failed
          (.failed ("no handler registered for `".toList ++ s.found.pattern ++ ['`']))
        logs := []
        invocation := none }
      world

/-- The outcome of a handler that was entered is what its reply decides. -/
theorem decides_status_entered (d : Definition W) (values : List Value) (world : W) :
    (d.handler.run values world).Decides (StepOutcome.entered d values world).status := by
  unfold StepOutcome.entered StepOutcome.status failure?
  dsimp only
  generalize d.handler.run values world = reply
  cases hending : reply.ending with
  | failed message => exact .failed message hending
  | panicked message =>
    cases message with
    | some message => exact .panicked message hending
    | none => exact .panickedSilently hending
  | finished =>
    by_cases herrors : reply.errors = []
    · dsimp only
      rw [if_pos herrors]
      exact .passed hending herrors
    · dsimp only
      rw [if_neg herrors]
      exact .reported hending herrors

/-- **A step that is run has one of the three outcomes.** -/
theorem runs_invoke (reg : Registry W) (s : Step) (world : W) :
    Runs reg s world (invoke reg s world).report (invoke reg s world).world := by
  cases hd : reg.definitions[s.found.handler]? with
  | none =>
    have hinvoke : invoke reg s world
        = { failure :=
              some (.failed ("no handler registered for `".toList ++ s.found.pattern ++ ['`']))
            logs := []
            invocation := none
            world } := by
      unfold invoke
      rw [hd]
    rw [hinvoke]
    exact .unknown hd
  | some d =>
    cases hbind : d.handler.bind s.text s.arguments with
    | error e =>
      rw [invoke_of_bind_eq_error hd hbind]
      exact .unbound d e hd hbind
    | ok values =>
      rw [invoke_of_bind_eq_ok hd hbind]
      exact .replied d values _ _ hd hbind rfl (decides_status_entered d values world)

/-! ## The steps of a block -/

/-- Events tell of steps one after another, from a context; `failed` says whether a step before
them has failed. -/
inductive Unfolds (reg : Registry W) :
    (world : W) → (failed : Bool) → List (Bool × Step) → List (Event W) → Prop
  | nil (world : W) (failed : Bool) : Unfolds reg world failed [] []
  | skipped (world : W) (background : Bool) (s : Step) {rest : List (Bool × Step)}
    {events : List (Event W)} (later : Unfolds reg world true rest events) :
    Unfolds reg world true ((background, s) :: rest)
      (.step s background .skipped [] none :: events)
  | run (background : Bool) (s : Step) {world world' : W} {r : StepReport W}
    {rest : List (Bool × Step)} {events : List (Event W)} (runs : Runs reg s world r world')
    (later : Unfolds reg world' r.status.isFailed rest events) :
    Unfolds reg world false ((background, s) :: rest)
      (.step s background r.status r.logs r.invocation :: events)

/-- The reports of steps tell of them one after another. -/
theorem unfolds_reports (reg : Registry W) (world : W) (failed : Bool) (ss : List (Bool × Step)) :
    Unfolds reg world failed ss
      (List.zipWith (fun s r => r.event s) ss (reports reg world failed (ss.map (·.2)))) := by
  induction ss generalizing world failed with
  | nil => exact .nil world failed
  | cons s rest ih =>
    obtain ⟨background, s⟩ := s
    cases failed with
    | true => exact .skipped world background s (ih world true)
    | false =>
      refine .run background s (runs_invoke reg s world) ?_
      have hfailed : (invoke reg s world).report.status.isFailed
          = (invoke reg s world).failure.isSome := (invoke reg s world).isFailed_status
      rw [hfailed]
      exact ih _ _

end Course

namespace Block

open Course

/-- The events tell of the block on a context, from its beginning to its end. -/
def UnfoldsOn (reg : Registry W) (world : W) (b : Block) (events : List (Event W)) : Prop :=
  ∃ (steps : List (Event W)) (passed : Bool),
    events = .scenarioStarted b.name :: steps ++ [.scenarioFinished b.name passed] ∧
    Unfolds reg world false b.sequence steps

theorem unfoldsOn_runBlock (reg : Registry W) (world : W) (b : Block) :
    b.UnfoldsOn reg world (runBlock reg world b).events := by
  have hsteps := unfolds_reports reg world false b.sequence
  rw [b.map_snd_sequence] at hsteps
  rw [runBlock_eq]
  exact ⟨_, _, rfl, hsteps⟩

end Block

namespace Feature

open Course

/-- **A run tells of every step that it runs one outcome, on the context that the steps before it in
its block have left.** The contexts of the blocks are fresh ones. What the handler replies, if it is
a script, is what the script did up to its end. -/
theorem run_unfolds (reg : Registry W) (fresh : Nat → W) (o : Options) (contexts : Nat)
    (f : Feature) :
    (∃ told : List (Block × List (Event W)),
      (run reg fresh o contexts f).events = .started f :: told.flatMap (·.2) ∧
      (told.map (·.1)).Sublist f.blocks ∧
      ∀ (i : Nat) (b : Block) (events : List (Event W)), told[i]? = some (b, events) →
        b.UnfoldsOn reg (fresh (contexts + i + 1)) events) ∧
    ∀ (params : List Param) (actions : List Action) (values : List Value) (world : Trail),
      Script.Replies values world actions
        ((Handler.ofScript params actions).run values world) := by
  obtain ⟨ran, hsub, -, hrun⟩ := exists_runBlocks_eq reg fresh o contexts f.blocks
  let told : List (Block × List (Event W)) :=
    ran.mapIdx fun i b => (b, (runBlock reg (fresh (contexts + i + 1)) b).events)
  refine ⟨⟨told, ?events, ?blocks, ?unfold⟩, fun params => Handler.replies_ofScript params⟩
  case events =>
    have hevents : told.map (·.2) = (runAll reg fresh contexts ran).map (·.events) := by
      refine List.ext_getElem? fun i => ?_
      unfold told runAll
      rw [List.getElem?_map, List.getElem?_mapIdx, List.getElem?_map, List.getElem?_mapIdx]
      cases ran[i]? <;> rfl
    rw [run_eq_runBlocks, hrun, List.flatMap_def, hevents]
    rfl
  case blocks =>
    have hblocks : told.map (·.1) = ran := by
      refine List.ext_getElem? fun i => ?_
      unfold told
      rw [List.getElem?_map, List.getElem?_mapIdx]
      cases ran[i]? <;> rfl
    rw [hblocks]
    exact hsub
  case unfold =>
    intro i b events h
    unfold told at h
    rw [List.getElem?_mapIdx, Option.map_eq_some_iff] at h
    obtain ⟨b', -, hpair⟩ := h
    obtain ⟨rfl, rfl⟩ := Prod.mk.inj hpair
    exact b'.unfoldsOn_runBlock reg _

end Feature

end Gherkin
