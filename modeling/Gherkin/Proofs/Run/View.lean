import Gherkin.Proofs.Run.Reports
import Gherkin.Run.Executor

/-!
# Runs through a view of contexts

A view shows a part of each context and hides the rest, such as its number. Handlers that make
nothing of what is hidden (`Registry.SeesOnly`) do the same on contexts that look the same, as far
as can be seen. So what a run tells, seen through the view, depends on no more of its fresh contexts
than their looks: this goes from a handler (`invoke_view`) over the steps of a block
(`runBlock_view`) to blocks and texts.

With it runs are compared that number their contexts differently. A run that begins after some
contexts is one that begins at the first, if each context looks like the one with its new number
(`runBlocks_view`, `Executor.runText_view`). If everything is seen, the two runs tell exactly the
same (`Executor.runText_renumber`).
-/

namespace Gherkin

variable {W V : Type}

/-- The reply with the context as seen through the view. -/
def Reply.view (view : W → V) (reply : Reply W) : Reply V :=
  { world := view reply.world, logs := reply.logs, errors := reply.errors, ending := reply.ending }

/-- The invocation with the context as seen through the view. -/
def Invocation.view (view : W → V) (i : Invocation W) : Invocation V :=
  { location := i.location, values := i.values, world := view i.world }

/-- The event with its context, if it tells of one, as seen through the view. -/
def Event.view (view : W → V) : Event W → Event V
  | .started f => .started f
  | .linted f => .linted f
  | .parsingFailed r => .parsingFailed r
  | .scenarioStarted name => .scenarioStarted name
  | .step s background status logs invocation =>
    .step s background status logs (invocation.map (Invocation.view view))
  | .scenarioFinished name passed => .scenarioFinished name passed
  | .finished s => .finished s

/-- Through the view that hides nothing, events are as they are. -/
theorem Event.view_id : Event.view (id : W → W) = id := by
  funext event
  cases event with
  | step s background status logs invocation => cases invocation <;> rfl
  | _ => rfl

/-- Handlers make nothing of what the view hides: on contexts that look the same they reply the same
and leave contexts that look the same. -/
def Registry.SeesOnly (view : W → V) (reg : Registry W) : Prop :=
  ∀ d ∈ reg.definitions, ∀ values world world', view world = view world' →
    (d.handler.run values world).view view = (d.handler.run values world').view view

/-- All that handlers can see is all there is. -/
theorem Registry.seesOnly_id (reg : Registry W) : reg.SeesOnly id := by
  intro d _ values world world' h
  obtain rfl : world = world' := h
  rfl

/-- Nothing is written of contexts. -/
theorem Console.render_view (c : Console) (view : W → V) (events : List (Event W)) :
    c.render (events.map (Event.view view)) = c.render events := by
  refine c.render_map (fun event => ?_) events
  cases event <;> rfl

namespace Course

/-- The outcome with contexts as seen through the view. -/
def StepOutcome.view (view : W → V) (o : StepOutcome W) : StepOutcome V :=
  { failure := o.failure
    logs := o.logs
    invocation := o.invocation.map (Invocation.view view)
    world := view o.world }

/-- The report with contexts as seen through the view. -/
def StepReport.view (view : W → V) (r : StepReport W) : StepReport V :=
  { status := r.status
    logs := r.logs
    invocation := r.invocation.map (Invocation.view view) }

/-- The outcome with contexts as seen through the view. -/
def BlockOutcome.view (view : W → V) (b : BlockOutcome W) : BlockOutcome V :=
  { events := b.events.map (Event.view view), failed := b.failed, summary := b.summary }

/-- The outcome with contexts as seen through the view. -/
def Outcome.view (view : W → V) (o : Outcome W) : Outcome V :=
  { events := o.events.map (Event.view view), summary := o.summary, contexts := o.contexts }

variable {reg : Registry W} {view : W → V} {world world' : W} {fresh fresh' : Nat → W}
  {o : Options}

/-! ## A block -/

/-- On contexts that look the same, a step comes to what looks the same. -/
theorem invoke_view (hsees : reg.SeesOnly view) (h : view world = view world') (s : Step) :
    (invoke reg s world).view view = (invoke reg s world').view view := by
  unfold invoke
  cases hdefinition : reg.definitions[s.found.handler]? with
  | none => exact congrArg (StepOutcome.mk _ [] none) h
  | some d =>
    dsimp only
    cases d.handler.bind s.text s.arguments with
    | error fault => exact congrArg (StepOutcome.mk _ [] none) h
    | ok values =>
      have hreply := hsees d (List.mem_of_getElem? hdefinition) values world world' h
      exact congrArg (fun reply : Reply V =>
        { failure := failure? reply
          logs := reply.logs
          invocation := some { location := d.location, values, world := reply.world }
          world := reply.world : StepOutcome V }) hreply

theorem reports_view (hsees : reg.SeesOnly view) (h : view world = view world') (failed : Bool)
    (steps : List Step) :
    (reports reg world failed steps).map (StepReport.view view)
      = (reports reg world' failed steps).map (StepReport.view view) := by
  induction steps generalizing world world' failed with
  | nil => rfl
  | cons s rest ih =>
    cases failed with
    | true => exact congrArg (StepReport.skipped :: ·) (ih h true)
    | false =>
      have houtcome := invoke_view hsees h s
      have hfailure : (invoke reg s world).failure = (invoke reg s world').failure :=
        congrArg (fun o : StepOutcome V => o.failure) houtcome
      have hreport : (invoke reg s world).report.view view
          = (invoke reg s world').report.view view :=
        congrArg (fun o : StepOutcome V => o.report) houtcome
      have hworld : view (invoke reg s world).world = view (invoke reg s world').world :=
        congrArg (fun o : StepOutcome V => o.world) houtcome
      rw [reports, reports, List.map_cons, List.map_cons, hreport, hfailure, ih hworld]

/-- On contexts that look the same, a block tells what looks the same. -/
theorem runBlock_view (hsees : reg.SeesOnly view) (h : view world = view world') (b : Block) :
    (runBlock reg world b).view view = (runBlock reg world' b).view view := by
  have hreports : (b.reports reg world).map (StepReport.view view)
      = (b.reports reg world').map (StepReport.view view) := reports_view hsees h false _
  -- what is seen of a block is what is seen of its reports
  have hblock (world : W) : (runBlock reg world b).view view
      = let rs := (b.reports reg world).map (StepReport.view view)
        let failed := rs.any (·.isFailed)
        { events :=
            [.scenarioStarted b.name] ++ List.zipWith (fun s r => r.event s) b.sequence rs
              ++ [.scenarioFinished b.name !failed]
          failed
          summary :=
            { scenarios := if failed then { failed := 1 } else { passed := 1 }
              steps := Tally.ofResults (rs.map (·.status)) } } := by
    rw [runBlock_eq]
    unfold BlockOutcome.view
    dsimp only
    rw [List.any_map, List.map_map, List.zipWith_map_right, List.map_append, List.map_append,
      List.map_zipWith]
    rfl
  rw [hblock, hblock, hreports]

/-! ## Blocks on other contexts -/

/-- **Blocks that run after some contexts look like blocks that run from the first**, if their fresh
contexts do. -/
theorem runBlocks_view (hsees : reg.SeesOnly view) {earlier : Nat}
    (hfresh : ∀ n, view (fresh (earlier + n)) = view (fresh' n)) (contexts : Nat)
    (blocks : List Block) :
    (runBlocks reg fresh o (earlier + contexts) blocks).view view
      = { (runBlocks reg fresh' o contexts blocks).view view with
          contexts := earlier + (runBlocks reg fresh' o contexts blocks).contexts } := by
  induction blocks generalizing contexts with
  | nil => rfl
  | cons b rest ih =>
    have hblock := runBlock_view hsees (hfresh (contexts + 1)) b
    have hfailed : (runBlock reg (fresh (earlier + (contexts + 1))) b).failed
        = (runBlock reg (fresh' (contexts + 1)) b).failed :=
      congrArg (fun b : BlockOutcome V => b.failed) hblock
    rw [runBlocks, runBlocks]
    dsimp only
    rw [Nat.add_assoc, hfailed]
    split
    next =>
      split
      next =>
        exact congrArg (fun b : BlockOutcome V => Outcome.mk b.events b.summary _) hblock
      next =>
        have hlater := ih (contexts + 1)
        have houtcome (here : BlockOutcome W) (later : Outcome W) :
            Outcome.view view
                { later with
                  events := here.events ++ later.events
                  summary := here.summary + later.summary }
              = { later.view view with
                  events := (here.view view).events ++ (later.view view).events
                  summary := (here.view view).summary + (later.view view).summary } := by
          unfold Outcome.view
          dsimp only
          rw [List.map_append]
          rfl
        rw [houtcome, houtcome, hblock, hlater]
    next => exact ih contexts

/-- A feature that runs after some contexts looks like one that runs from the first. -/
theorem run_view (hsees : reg.SeesOnly view) {earlier : Nat}
    (hfresh : ∀ n, view (fresh (earlier + n)) = view (fresh' n)) (contexts : Nat) (f : Feature) :
    (run reg fresh o (earlier + contexts) f).view view
      = { (run reg fresh' o contexts f).view view with
          contexts := earlier + (run reg fresh' o contexts f).contexts } := by
  have hblocks := runBlocks_view (o := o) hsees hfresh contexts f.blocks
  rw [run_eq_runBlocks, run_eq_runBlocks]
  exact congrArg (fun blocks : Outcome V =>
    { events := .started f :: blocks.events
      summary := { features := 1 } + blocks.summary
      contexts := blocks.contexts : Outcome V }) hblocks

end Course

/-! ## Texts -/

/-- What was run, with contexts as seen through the view. -/
def Ran.view {ε α : Type} (view : W → V) (ran : Ran W ε α) : Ran V ε α :=
  { events := ran.events.map (Event.view view), contexts := ran.contexts, result := ran.result }

namespace Executor

theorem runFeature_view (e : Executor W) {view : W → V} (hsees : e.registry.SeesOnly view)
    {fresh' : Nat → W} {earlier : Nat}
    (hfresh : ∀ n, view (e.fresh (earlier + n)) = view (fresh' n)) (contexts : Nat) (text : Text) :
    let ran := ({ e with fresh := fresh' } : Executor W).runFeature contexts text
    (e.runFeature (earlier + contexts) text).view view
      = { ran.view view with contexts := earlier + ran.contexts } := by
  unfold runFeature
  dsimp only
  cases Feature.read e.registry text with
  | error rejection => rfl
  | ok f =>
    dsimp only
    split
    next => rfl
    next =>
      have hrun := Course.run_view (o := e.options) hsees hfresh contexts f
      exact congrArg (fun outcome : Course.Outcome V =>
        { events := outcome.events
          contexts := outcome.contexts
          result :=
            .ok
              { listing := f.listing
                narrative := f.narrative
                scenarios := outcome.summary.scenarios
                steps := outcome.summary.steps } : Ran V Rejection Report }) hrun

/-- **A text that is run after some contexts looks like one that is run from the first**, if the
fresh contexts do. -/
theorem runText_view (e : Executor W) {view : W → V} (hsees : e.registry.SeesOnly view)
    {fresh' : Nat → W} {earlier : Nat}
    (hfresh : ∀ n, view (e.fresh (earlier + n)) = view (fresh' n)) (contexts : Nat) (text : Text) :
    let ran := ({ e with fresh := fresh' } : Executor W).runText contexts text
    (e.runText (earlier + contexts) text).view view
      = { ran.view view with contexts := earlier + ran.contexts } := by
  have hevents (e : Executor W) (contexts : Nat) :
      (e.runText contexts text).view view
        = let ran := (e.runFeature contexts text).view view
          { events := ran.events ++ [.finished (summaryOf ran.result)]
            contexts := ran.contexts
            result := ran.result.mapError .parse } := by
    unfold runText Ran.view
    dsimp only
    rw [List.map_append]
    rfl
  intro ran
  rw [hevents, e.runFeature_view hsees hfresh contexts text, hevents]
  rfl

/-- **The numbers of contexts matter to their making only.** A text is run after some contexts as it
is from the first on, with contexts made from the numbers after those. -/
theorem runText_renumber (e : Executor W) (earlier : Nat) (text : Text) :
    let ran := ({ e with fresh := fun n => e.fresh (earlier + n) } : Executor W).runText 0 text
    e.runText earlier text = { ran with contexts := earlier + ran.contexts } := by
  have hid (ran : Ran W RunFault Report) : ran.view id = ran := by
    unfold Ran.view
    rw [Event.view_id, List.map_id]
  have hfresh : ∀ n, id (e.fresh (earlier + n)) = id ((fun n => e.fresh (earlier + n)) n) :=
    fun _ => rfl
  have hview := e.runText_view e.registry.seesOnly_id hfresh 0 text
  dsimp only at hview
  rw [hid, hid] at hview
  exact hview

end Executor

end Gherkin
