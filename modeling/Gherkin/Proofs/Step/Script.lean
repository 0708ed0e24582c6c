import Gherkin.Step.Script

/-!
# How far a script gets

A script is carried out up to the first action that ends the handler, and its reply is what stands
then: the context, and all messages that were logged and all errors that were reported by the
actions before, in their order (`Script.carriesOut_perform`). How the script ended takes nothing of
that back, and no action after the end adds to it.
-/

namespace Gherkin

namespace Script

variable {values : List Value} {s s' : State} {a : Action} {actions : List Action}

/-- The display of the argument at a position, as an action names it. -/
def argumentText (values : List Value) (i : Nat) : Text :=
  (values[i]?.map Value.display).getD []

/-- The message that an action logs. -/
def logged? (values : List Value) (s : State) (a : Action) : Option Text :=
  if .reporter ∈ values then
    match a with
    | .log t => some t
    | .logArgument i => some (argumentText values i)
    | .logTrail => some (s.trail values)
    | _ => none
  else none

/-- The error that an action reports. -/
def reported? (values : List Value) (a : Action) : Option Text :=
  if .reporter ∈ values then
    match a with
    | .error t => some t
    | .errorArgument i => some (argumentText values i)
    | _ => none
  else none

/-- Actions are carried out one after another, and none of them ends the handler. `logs` and
`errors` are the messages that they log and the errors that they report. -/
inductive CarriesOut (values : List Value) :
    State → List Action → (logs errors : List Text) → State → Prop
  | nil (s : State) : CarriesOut values s [] [] [] s
  | cons {s s' s'' : State} {a : Action} {rest : List Action} {logs errors : List Text}
    (goesOn : act values s a = (s', .finished))
    (later : CarriesOut values s' rest logs errors s'') :
    CarriesOut values s (a :: rest) ((logged? values s a).toList ++ logs)
      ((reported? values a).toList ++ errors) s''

/-- What is left of a script, where it stops: nothing, or an action that ends the handler. -/
inductive StopsAt (values : List Value) (s : State) : List Action → Ending → Prop
  | atEnd : StopsAt values s [] .finished
  | by (a : Action) (later : List Action) {ending : Ending}
    (ends : act values s a = (s, ending)) (failing : ending ≠ .finished) :
    StopsAt values s (a :: later) ending

@[simp] theorem logs_log (t : Text) :
    (s.log values t).logs = s.logs ++ if .reporter ∈ values then [t] else [] := by
  unfold State.log
  by_cases h : Value.reporter ∈ values
  · rw [if_pos h, if_pos h]
  · rw [if_neg h, if_neg h, List.append_nil]

@[simp] theorem errors_log (t : Text) : (s.log values t).errors = s.errors := by
  unfold State.log
  split <;> rfl

@[simp] theorem logs_error (t : Text) : (s.error values t).logs = s.logs := by
  unfold State.error
  split <;> rfl

@[simp] theorem errors_error (t : Text) :
    (s.error values t).errors = s.errors ++ if .reporter ∈ values then [t] else [] := by
  unfold State.error
  by_cases h : Value.reporter ∈ values
  · rw [if_pos h, if_pos h]
  · rw [if_neg h, if_neg h, List.append_nil]

@[simp] theorem logs_edit (f : List Text → List Text) : (s.edit values f).logs = s.logs := by
  unfold State.edit
  split <;> rfl

@[simp] theorem errors_edit (f : List Text → List Text) : (s.edit values f).errors = s.errors := by
  unfold State.edit
  split <;> rfl

@[simp] theorem state_demand (expected found : Text) : (demand expected found s).1 = s := by
  unfold demand
  split <;> rfl

/-- An action logs at most one message, after those before it. -/
theorem logs_act (values : List Value) (s : State) (a : Action) :
    (act values s a).1.logs = s.logs ++ (logged? values s a).toList := by
  unfold logged?
  by_cases h : Value.reporter ∈ values
  · cases a <;> simp [act, argumentText, h]
  · cases a <;> simp [act, h]

/-- An action reports at most one error, after those before it. -/
theorem errors_act (values : List Value) (s : State) (a : Action) :
    (act values s a).1.errors = s.errors ++ (reported? values a).toList := by
  unfold reported?
  by_cases h : Value.reporter ∈ values
  · cases a <;> simp [act, argumentText, h]
  · cases a <;> simp [act, h]

/-- What ends the handler does nothing else. -/
theorem state_act_of_ending (h : (act values s a).2 ≠ .finished) : (act values s a).1 = s := by
  cases a <;> simp_all [act]

theorem perform_cons_of_finished {rest : List Action} (h : act values s a = (s', .finished)) :
    perform values s (a :: rest) = perform values s' rest := by
  rw [perform, h]

theorem perform_cons_of_ending {rest : List Action} {ending : Ending}
    (h : act values s a = (s', ending)) (hending : ending ≠ .finished) :
    perform values s (a :: rest)
      = { world := s'.world, logs := s'.logs, errors := s'.errors, ending } := by
  rw [perform, h]
  cases ending with
  | finished => exact absurd rfl hending
  | _ => rfl

/-- **A script is carried out up to the first action that ends the handler**, and replies with what
was done until then. -/
theorem carriesOut_perform (values : List Value) (s : State) (actions : List Action) :
    ∃ (carried left : List Action) (logs errors : List Text) (s' : State) (ending : Ending),
      actions = carried ++ left ∧ CarriesOut values s carried logs errors s' ∧
      StopsAt values s' left ending ∧
      perform values s actions
        = { world := s'.world
            logs := s.logs ++ logs
            errors := s.errors ++ errors
            ending } := by
  induction actions generalizing s with
  | nil =>
    refine ⟨[], [], [], [], s, .finished, rfl, .nil s, .atEnd, ?_⟩
    rw [List.append_nil, List.append_nil, perform]
  | cons a rest ih =>
    by_cases hending : (act values s a).2 = .finished
    · have hact : act values s a = ((act values s a).1, .finished) := by rw [← hending]
      obtain ⟨carried, left, logs, errors, s', ending, rfl, hcarried, hstops, hreply⟩ :=
        ih (act values s a).1
      refine ⟨a :: carried, left, _, _, s', ending, rfl, .cons hact hcarried, hstops, ?_⟩
      rw [perform_cons_of_finished hact, hreply, logs_act, errors_act, List.append_assoc,
        List.append_assoc]
    · have hact : act values s a = (s, (act values s a).2) :=
        Prod.ext (state_act_of_ending hending) rfl
      refine ⟨[], a :: rest, [], [], s, _, rfl, .nil s, .by a rest hact hending, ?_⟩
      rw [perform_cons_of_ending hact hending, List.append_nil, List.append_nil]

end Script

/-- What a script on a context replies: what its actions did up to the one that ended it. -/
def Script.Replies (values : List Value) (world : Trail) (actions : List Action)
    (reply : Reply Trail) : Prop :=
  ∃ (carried left : List Action) (s : State), actions = carried ++ left ∧
    CarriesOut values { world := world } carried reply.logs reply.errors s ∧
    StopsAt values s left reply.ending ∧ reply.world = s.world

/-- A handler that carries out a script replies what the script does. -/
theorem Handler.replies_ofScript (params : List Param) (actions : List Action)
    (values : List Value) (world : Trail) :
    Script.Replies values world actions ((Handler.ofScript params actions).run values world) := by
  obtain ⟨carried, left, logs, errors, s, ending, hactions, hcarried, hstops, hreply⟩ :=
    Script.carriesOut_perform values { world := world } actions
  have hrun : (Handler.ofScript params actions).run values world
      = { world := s.world, logs, errors, ending } := hreply
  rw [hrun]
  exact ⟨carried, left, s, hactions, hcarried, hstops, rfl⟩

/-- Messages and changes before a panic stay, and what comes after it is not done. -/
example :
    let reply := (Handler.ofScript [.isolation, .reporter]
      [.log "a".toList, .pushText "b".toList, .error "c".toList, .panicSilent, .log "d".toList]).run
        [.isolation, .reporter] { number := 1 }
    (reply.logs, reply.errors, reply.world.entries, reply.ending)
      = (["a".toList], ["c".toList], ["b".toList], .panicked none) := by
  decide

end Gherkin
