import Gherkin.Step.Handler

/-!
# Handlers written as scripts

A script is a handler given as a list of actions. Its context is a trail, a list of texts that
actions add to and check, and which carries the number of the context. Actions are carried out in
order until one ends the handler; what was done before stays done.

A script acts on the context only if it has a parameter that receives it, and logs and reports only
if it has a parameter that receives the reporter. Without one such an action does nothing; the
trail then reads as empty.
-/

namespace Gherkin

/-- A context with a trail of texts. -/
structure Trail where
  /-- The number of the context. -/
  number : Nat
  entries : List Text := []
  deriving DecidableEq, Repr

/-- One action of a script. Arguments are named by the positions of their parameters. -/
inductive Action where
  | push (argument : Nat)
  | pushText (t : Text)
  /-- Drops the last entry of the trail. -/
  | pop
  | log (t : Text)
  | logArgument (argument : Nat)
  | logTrail
  | error (t : Text)
  | errorArgument (argument : Nat)
  | fail (t : Text)
  | failArgument (argument : Nat)
  /-- Fails if the argument is true. -/
  | failIf (argument : Nat) (t : Text)
  /-- Fails if an error was reported. -/
  | failIfReported (t : Text)
  /-- Fails unless the trail is the argument. -/
  | expect (argument : Nat)
  /-- Fails unless the length of the trail is the argument. -/
  | expectLength (argument : Nat)
  | panic (t : Text)
  | panicArgument (argument : Nat)
  /-- Panics with a fixed message. -/
  | panicStatic
  /-- Panics without a message. -/
  | panicSilent
  deriving DecidableEq, Repr

/-- A value as a text. -/
def Value.display : Value → Text
  | text t => t
  | boolean b => (if b then "true" else "false").toList
  | integer n => (toString n).toList
  | isolation => "<isolation>".toList
  | reporter => "<reporter>".toList

namespace Script

/-- What a script under way has done so far. -/
structure State where
  world : Trail
  logs : List Text := []
  errors : List Text := []

/-- The trail as one text. -/
def State.trail (values : List Value) (s : State) : Text :=
  if .isolation ∈ values then Text.join [','] s.world.entries else []

/-- How many entries the trail has. -/
def State.length (values : List Value) (s : State) : Nat :=
  if .isolation ∈ values then s.world.entries.length else 0

/-- Changes the trail. -/
def State.edit (values : List Value) (f : List Text → List Text) (s : State) : State :=
  if .isolation ∈ values then { s with world := { s.world with entries := f s.world.entries } }
  else s

/-- Logs a message. -/
def State.log (values : List Value) (t : Text) (s : State) : State :=
  if .reporter ∈ values then { s with logs := s.logs ++ [t] } else s

/-- Reports an error. -/
def State.error (values : List Value) (t : Text) (s : State) : State :=
  if .reporter ∈ values then { s with errors := s.errors ++ [t] } else s

/-- Fails unless what was found is what was expected. -/
def demand (expected found : Text) (s : State) : State × Ending :=
  if found = expected then (s, .finished)
  else (s, .failed ("expected ".toList ++ expected ++ ", got ".toList ++ found))

/-- Carries out one action, and says whether it ends the handler. -/
def act (values : List Value) (s : State) (a : Action) : State × Ending :=
  let argument (i : Nat) : Text := (values[i]?.map Value.display).getD []
  match a with
  | .push i => (s.edit values (· ++ [argument i]), .finished)
  | .pushText t => (s.edit values (· ++ [t]), .finished)
  | .pop => (s.edit values List.dropLast, .finished)
  | .log t => (s.log values t, .finished)
  | .logArgument i => (s.log values (argument i), .finished)
  | .logTrail => (s.log values (s.trail values), .finished)
  | .error t => (s.error values t, .finished)
  | .errorArgument i => (s.error values (argument i), .finished)
  | .fail t => (s, .failed t)
  | .failArgument i => (s, .failed (argument i))
  | .failIf i t => (s, if argument i = "true".toList then .failed t else .finished)
  | .failIfReported t => (s, if s.errors = [] then .finished else .failed t)
  | .expect i => demand (argument i) (s.trail values) s
  | .expectLength i => demand (argument i) (Text.ofNat (s.length values)) s
  | .panic t => (s, .panicked (some t))
  | .panicArgument i => (s, .panicked (some (argument i)))
  | .panicStatic => (s, .panicked (some "static panic".toList))
  | .panicSilent => (s, .panicked none)

/-- Carries out actions up to one that ends the handler. -/
def perform (values : List Value) : State → List Action → Reply Trail
  | s, [] => { world := s.world, logs := s.logs, errors := s.errors, ending := .finished }
  | s, a :: rest =>
    match act values s a with
    | (s, .finished) => perform values s rest
    | (s, ending) => { world := s.world, logs := s.logs, errors := s.errors, ending }

end Script

/-- The handler that carries out a script. -/
def Handler.ofScript (params : List Param) (actions : List Action) : Handler Trail where
  params
  run values world := Script.perform values { world := world } actions

end Gherkin
