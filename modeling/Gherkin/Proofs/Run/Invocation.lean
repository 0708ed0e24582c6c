import Gherkin.Proofs.Step.Positions
import Gherkin.Run.Course

/-!
# What calling a handler comes to

A step that has its handler comes to one of two things. Either the handler is entered, once, with
values that are bound, on the context of the scenario, and the step comes to what it replies
(`StepOutcome.entered`); or the handler is not entered, and then nothing is logged and the context
is left as it is (`StepOutcome.unbound`).

Which of them it is, and with which values or which fault, depends on the parameters of the handler
and the arguments of the step alone (`invoke_binds_by_position`).
-/

namespace Gherkin

namespace Course

variable {W : Type} {reg : Registry W} {s : Step} {d : Definition W}

/-- What a step comes to whose handler is entered with the values. -/
def StepOutcome.entered (d : Definition W) (values : List Value) (world : W) : StepOutcome W :=
  let reply := d.handler.run values world
  { failure := failure? reply
    logs := reply.logs
    invocation := some { location := d.location, values, world := reply.world }
    world := reply.world }

/-- What a step comes to whose handler is not entered. -/
def StepOutcome.unbound (e : BindingFault) (world : W) : StepOutcome W :=
  { failure := some (.bind e), logs := [], invocation := none, world }

/-- A step is run by entering its handler with the values that are bound. -/
theorem invoke_of_bind_eq_ok (hd : reg.definitions[s.found.handler]? = some d)
    {values : List Value} (hbind : d.handler.bind s.text s.arguments = .ok values) (world : W) :
    invoke reg s world = .entered d values world := by
  unfold invoke
  rw [hd]
  dsimp only
  rw [hbind]
  rfl

theorem invoke_of_bind_eq_error (hd : reg.definitions[s.found.handler]? = some d)
    {e : BindingFault} (hbind : d.handler.bind s.text s.arguments = .error e) (world : W) :
    invoke reg s world = .unbound e world := by
  unfold invoke
  rw [hd]
  dsimp only
  rw [hbind]
  rfl

/-- **Arguments are bound by position, and none is lost.** A handler that accepts their number is
entered if every integer among its parameters has an argument that is one: every parameter has the
value that comes of the argument in its place, and every argument is taken by exactly one. If an
argument is no integer, the handler is not entered, and the fault tells of the first such argument.
If the number is not accepted, the handler is not entered either, and the fault tells of the number
and of the number of parameters that take an argument. -/
theorem invoke_binds_by_position (hd : reg.definitions[s.found.handler]? = some d) (world : W) :
    (d.handler.Accepts s.text s.arguments → d.handler.Reads s.arguments →
      ∃ values, d.handler.Enters s.arguments values ∧
        (∀ j < s.arguments.length, ∃! i, TakesAt d.handler.params i j) ∧
        invoke reg s world = .entered d values world) ∧
    (d.handler.Accepts s.text s.arguments → ¬ d.handler.Reads s.arguments →
      ∃ c, d.handler.Refuses s.text s.arguments c ∧
        (∀ c', d.handler.Refuses s.text s.arguments c' → c.index ≤ c'.index) ∧
        invoke reg s world = .unbound (.coercion c) world) ∧
    (¬ d.handler.Accepts s.text s.arguments →
      invoke reg s world
        = .unbound
            (.arity
              { step := s.text
                groups := s.arguments.length
                required := takers d.handler.params })
            world) := by
  refine ⟨?entered, ?unread, ?unaccepted⟩
  case entered =>
    intro haccepts hreads
    rcases Handler.bind_of_accepted haccepts with ⟨values, hbind, henters⟩ | ⟨c, -, hrefuses⟩
    · refine ⟨values, henters, ?_, invoke_of_bind_eq_ok hd hbind world⟩
      intro j hj
      exact existsUnique_takesAt _ (Nat.lt_of_lt_of_le hj (Handler.length_le_takers haccepts))
    · exact absurd hreads hrefuses.not_reads
  case unread =>
    intro haccepts hreads
    rcases Handler.bind_of_accepted haccepts with ⟨values, -, henters⟩ | ⟨c, hbind, hrefuses⟩
    · exact absurd henters.reads hreads
    · exact ⟨c, hrefuses, fun _ => Handler.first_of_bind_eq_coercion haccepts hbind,
        invoke_of_bind_eq_error hd hbind world⟩
  case unaccepted =>
    intro haccepts
    exact invoke_of_bind_eq_error hd (Handler.bind_of_not_accepts haccepts) world

end Course

namespace Sample

/-- A definition that takes arguments around what the run supplies, and counts its calls in its
context. -/
def mixed : Definition Nat :=
  { pattern := { source := [], program := .ofNode .empty }
    location := { path := "steps.rs".toList, line := 1, column := 1 }
    handler :=
      { params := [.reporter, .text, .isolation, .integer ⟨true, 8⟩, .boolean, .text]
        run := fun _ n => { world := n + 1, logs := [], errors := [], ending := .finished } } }

/-- A step with arguments for that definition. -/
def mixedStep (arguments : List Text) : Step :=
  { keyword := .when
    conjunction := false
    line := 1
    found :=
      { handler := 0, pattern := [], location := mixed.location, captures := [],
        text := "count".toList }
    arguments
    docString := none }

/-- The sample handler has one integer, which takes the argument at 1. -/
theorem mixed_reads_iff (arguments : List Text) :
    mixed.handler.Reads arguments ↔
      ∃ argument n, arguments[1]? = some argument ∧
        (⟨true, 8⟩ : IntegerType).read? argument = some n := by
  constructor
  · intro h
    exact h 3 ⟨true, 8⟩ rfl
  · rintro h i type hp
    obtain ⟨rfl, rfl⟩ : i = 3 ∧ type = ⟨true, 8⟩ := by
      rcases i with _ | _ | _ | _ | _ | _ | i <;> simp_all [mixed]
    exact h

end Sample

namespace Course

open Sample

/-- The least number of the sample's type is read, an empty text is no truth and a text may be left
out; 200 is beyond the type; and of one argument alone the sample can make nothing. -/
theorem invoke_binds_by_position_sample :
    (mixed.handler.Enters ["a".toList, "-128".toList, []]
        [.reporter, .text "a".toList, .isolation, .integer (-128), .boolean false, .text []] ∧
      invoke { definitions := [mixed] } (mixedStep ["a".toList, "-128".toList, []]) 6
        = .entered mixed
            [.reporter, .text "a".toList, .isolation, .integer (-128), .boolean false, .text []]
            6) ∧
    (∃ c, mixed.handler.Refuses "count".toList ["a".toList, "200".toList, []] c ∧
      invoke { definitions := [mixed] } (mixedStep ["a".toList, "200".toList, []]) 6
        = .unbound (.coercion c) 6) ∧
    invoke { definitions := [mixed] } (mixedStep ["a".toList]) 6
      = .unbound (.arity { step := "count".toList, groups := 1, required := 4 }) 6 := by
  obtain ⟨hentered, -, -⟩ :=
    @invoke_binds_by_position Nat { definitions := [mixed] }
      (mixedStep ["a".toList, "-128".toList, []]) mixed rfl 6
  obtain ⟨-, hunread, -⟩ :=
    @invoke_binds_by_position Nat { definitions := [mixed] }
      (mixedStep ["a".toList, "200".toList, []]) mixed rfl 6
  obtain ⟨-, -, hunaccepted⟩ :=
    @invoke_binds_by_position Nat { definitions := [mixed] } (mixedStep ["a".toList]) mixed rfl 6
  obtain ⟨values, henters, -, hran⟩ :=
    hentered rfl ((mixed_reads_iff _).mpr ⟨"-128".toList, -128, rfl, by decide⟩)
  have hvalues : some values = some
      [.reporter, .text "a".toList, .isolation, .integer (-128), .boolean false, .text []] :=
    congrArg (fun o : StepOutcome Nat => o.invocation.map Invocation.values) hran.symm
  obtain rfl := Option.some.inj hvalues
  have hbeyond : ¬ mixed.handler.Reads ["a".toList, "200".toList, []] := by
    rw [mixed_reads_iff]
    rintro ⟨argument, n, hargument, hn⟩
    obtain rfl : "200".toList = argument := Option.some.inj hargument
    have hnone : (⟨true, 8⟩ : IntegerType).read? "200".toList = none := by decide
    exact absurd (hnone.symm.trans hn) (by simp)
  obtain ⟨c, hrefuses, -, hrefused⟩ := hunread rfl hbeyond
  exact ⟨⟨henters, hran⟩, ⟨c, hrefuses, hrefused⟩, hunaccepted fun haccepts => nomatch haccepts⟩

end Course

end Gherkin
