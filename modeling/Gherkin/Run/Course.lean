import Gherkin.Run.Event

/-!
# Running a feature

A feature is run item by item. A marker of a scenario ends the scenario under way and begins its
own, with a fresh context and the steps of the background; a step before every marker begins a
scenario too, one without a name and without the background. A step that fails makes the rest of
its scenario be skipped. A scenario that the filter leaves out is not begun, and its steps are
passed over. If the run is to stop at a failure, it stops at the marker after it.

The context is passed along explicitly: a handler is a function of it and of its arguments, and the
contexts are numbered from the first one that a run creates. What a handler keeps elsewhere can be
thought of as a part of the context, which may be made from its number in any way.
-/

namespace Gherkin

/-- What to run of a feature. -/
structure Options where
  /-- Only scenarios whose names this matches. -/
  nameFilter : Option Pattern := none
  /-- Whether to stop after the first scenario that fails. -/
  failFast : Bool := false
  deriving DecidableEq, Repr

/-- Whether the filter lets a scenario of the name pass. -/
def Options.selects (o : Options) (name : Text) : Bool := o.nameFilter.all (·.isMatch name)

namespace Course

variable {W : Type}

/-- The message of a panic that carries none. -/
def unknownPanic : Text := "(Could not resolve panic payload)".toList

/-- Why a handler's reply is a failure, if it is one. How the handler ended comes first; errors it
reported count only if it came to its end. -/
def failure? (reply : Reply W) : Option Failure :=
  match reply.ending with
  | .failed message => some (.failed message)
  | .panicked message => some (.panicked (message.getD unknownPanic))
  | .finished => if reply.errors = [] then none else some (.reported reply.errors)

/-- What running a step comes to. -/
structure StepOutcome (W : Type) where
  failure : Option Failure
  logs : List Text
  invocation : Option (Invocation W)
  world : W

/-- Runs the handler of a step on a context. -/
def invoke (reg : Registry W) (s : Step) (world : W) : StepOutcome W :=
  match reg.definitions[s.found.handler]? with
  | none =>
    { failure :=
        some (.failed ("no handler registered for `".toList ++ s.found.pattern ++ ['`']))
      logs := []
      invocation := none
      world }
  | some e =>
    match e.handler.bind s.text s.arguments with
    | .error error => { failure := some (.bind error), logs := [], invocation := none, world }
    | .ok values =>
      let reply := e.handler.run values world
      { failure := failure? reply
        logs := reply.logs
        invocation := some { location := e.location, values, world := reply.world }
        world := reply.world }

/-- Steps under way on a context. -/
structure Progress (W : Type) where
  world : W
  /-- Whether a step has failed. -/
  failed : Bool := false
  steps : Tally := {}
  /-- The events so far. -/
  events : List (Event W) := []

/-- Runs a step, or skips it if one before it failed. -/
def runStep (reg : Registry W) (background : Bool) (p : Progress W) (s : Step) : Progress W :=
  if p.failed then
    { p with
      steps := p.steps + { skipped := 1 }
      events := p.events ++ [.step s background .skipped [] none] }
  else
    let o := invoke reg s p.world
    match o.failure with
    | none =>
      { world := o.world
        failed := false
        steps := p.steps + { passed := 1 }
        events := p.events ++ [.step s background .passed o.logs o.invocation] }
    | some e =>
      { world := o.world
        failed := true
        steps := p.steps + { failed := 1 }
        events := p.events ++ [.step s background (.failed e) o.logs o.invocation] }

/-- Where a run stands between two items. -/
inductive Stage (W : Type) where
  /-- No scenario has begun. -/
  | awaiting
  /-- The filter has left the scenario out. -/
  | filtered
  /-- The scenario is under way. -/
  | running (name : Text) (world : W) (failed : Bool)

/-- A run under way. -/
structure Standing (W : Type) where
  stage : Stage W := .awaiting
  /-- How many contexts have been created, those before the run included. -/
  contexts : Nat
  summary : Summary := {}
  /-- The events so far. -/
  events : List (Event W) := []

namespace Standing

/-- Whether the scenario under way has failed. -/
def failed (st : Standing W) : Bool :=
  match st.stage with
  | .awaiting | .filtered => false
  | .running _ _ failed => failed

/-- Begins a scenario on a fresh context, unless the filter leaves it out. -/
def start (fresh : Nat → W) (o : Options) (name : Text) (st : Standing W) : Standing W :=
  if o.selects name then
    { st with
      stage := .running name (fresh (st.contexts + 1)) false
      contexts := st.contexts + 1
      events := st.events ++ [.scenarioStarted name] }
  else { st with stage := .filtered }

/-- Runs a step in the scenario under way, if there is one. -/
def step (reg : Registry W) (background : Bool) (st : Standing W) (s : Step) : Standing W :=
  match st.stage with
  | .awaiting | .filtered => st
  | .running name world failed =>
    let p := runStep reg background
      { world, failed, steps := st.summary.steps, events := st.events } s
    { st with
      stage := .running name p.world p.failed
      summary := { st.summary with steps := p.steps }
      events := p.events }

/-- Ends the scenario under way, if there is one. -/
def finish (st : Standing W) : Standing W :=
  match st.stage with
  | .awaiting | .filtered => { st with stage := .awaiting }
  | .running name _ failed =>
    { st with
      stage := .awaiting
      summary :=
        { st.summary with
          scenarios := st.summary.scenarios + if failed then { failed := 1 } else { passed := 1 } }
      events := st.events ++ [.scenarioFinished name !failed] }

end Standing

/-- Runs the items that are left, one after another. A marker of a background among them says
nothing: the steps of the background are known. -/
def walk (reg : Registry W) (fresh : Nat → W) (o : Options) (background : List Step) :
    Standing W → List Item → Standing W
  | st, [] => st.finish
  | st, .step s :: rest =>
    let begun :=
      match st.stage with
      | .awaiting => st.start fresh o []
      | .filtered | .running _ _ _ => st
    walk reg fresh o background (begun.step reg false s) rest
  | st, .marker m :: rest =>
    if m.kind = .scenario then
      if st.failed && o.failFast then st.finish
      else
        let begun := st.finish.start fresh o m.name
        walk reg fresh o background (background.foldl (Standing.step reg true) begun) rest
    else walk reg fresh o background st rest

/-- What a run comes to. -/
structure Outcome (W : Type) where
  events : List (Event W)
  summary : Summary
  /-- How many contexts have been created, those before the run included. -/
  contexts : Nat

/-- Runs a feature. -/
def run (reg : Registry W) (fresh : Nat → W) (o : Options) (contexts : Nat) (f : Feature) :
    Outcome W :=
  let done := walk reg fresh o f.backgroundSteps
    { contexts, summary := { features := 1 }, events := [.started f] } f.items
  { events := done.events, summary := done.summary, contexts := done.contexts }

end Course

end Gherkin
