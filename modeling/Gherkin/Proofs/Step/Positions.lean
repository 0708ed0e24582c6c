import Gherkin.Proofs.Step.Arity
import Gherkin.Proofs.Step.Binding
import Mathlib.Logic.ExistsUnique

/-!
# One parameter for each argument

The parameters that take an argument take them in order, and so each of the arguments that there are
parameters for is taken by exactly one of them (`existsUnique_takesAt`). A handler that accepts a
number of arguments has a parameter for each, so that none is lost and none is given out twice.

If an argument cannot be read as the integer that its parameter takes, the handler is not entered,
and the fault names the first such argument (`first_of_bind_eq_coercion`).
-/

namespace Gherkin

/-- The parameter at `i` takes the argument at `j`. -/
def TakesAt (params : List Param) (i j : Nat) : Prop :=
  ∃ p, params[i]? = some p ∧ p.shape.isSupplied = false ∧ argumentIndex params i = j

/-- How many parameters take an argument. -/
def takers (params : List Param) : Nat := params.countP fun p => !p.shape.isSupplied

section

variable {p : Param} {params : List Param} {i j : Nat}

theorem length_argumentShapes (params : List Param) :
    (argumentShapes (params.map Param.shape)).length = takers params := by
  rw [Arity.length_eq_most, Arity.most, List.countP_map]
  rfl

theorem takers_cons (p : Param) (params : List Param) :
    takers (p :: params) = p.takes + takers params := by
  unfold takers Param.takes
  rw [List.countP_cons, Nat.add_comm]
  cases p.shape.isSupplied <;> rfl

/-- The first parameter takes the first argument, if it takes one. -/
theorem takesAt_cons_zero : TakesAt (p :: params) 0 j ↔ p.takes = 1 ∧ j = 0 := by
  have hindex : argumentIndex (p :: params) 0 = 0 := rfl
  unfold TakesAt Param.takes
  rw [hindex]
  constructor
  · rintro ⟨q, hq, hsupplied, rfl⟩
    obtain rfl := Option.some.inj hq
    exact ⟨if_neg (by simp [hsupplied]), rfl⟩
  · rintro ⟨htakes, rfl⟩
    refine ⟨p, rfl, ?_, rfl⟩
    cases hsupplied : p.shape.isSupplied with
    | false => rfl
    | true =>
      rw [if_pos hsupplied] at htakes
      omega

/-- The others take what the first one leaves. -/
theorem takesAt_cons_succ :
    TakesAt (p :: params) (i + 1) (p.takes + j) ↔ TakesAt params i j := by
  unfold TakesAt
  rw [argumentIndex_cons_succ, List.getElem?_cons_succ]
  simp only [Nat.add_left_cancel_iff]

/-- Nothing that the first parameter takes is left to the others. -/
theorem le_of_takesAt_cons_succ (h : TakesAt (p :: params) (i + 1) j) : p.takes ≤ j := by
  obtain ⟨-, -, -, hindex⟩ := h
  rw [argumentIndex_cons_succ] at hindex
  omega

/-- **Every argument that there is a parameter for is taken by exactly one.** -/
theorem existsUnique_takesAt (params : List Param) {j : Nat} (hj : j < takers params) :
    ∃! i, TakesAt params i j := by
  induction params generalizing j with
  | nil => exact absurd hj (Nat.not_lt_zero j)
  | cons p params ih =>
    rw [takers_cons] at hj
    by_cases hfirst : j < p.takes
    · -- the first parameter takes one argument at most, and this is it
      have hle : p.takes ≤ 1 := by
        unfold Param.takes
        split <;> omega
      refine ⟨0, takesAt_cons_zero.mpr ⟨by omega, by omega⟩, ?_⟩
      intro i hi
      cases i with
      | zero => rfl
      | succ i =>
        have hlater := le_of_takesAt_cons_succ hi
        omega
    · obtain ⟨k, rfl⟩ := Nat.exists_eq_add_of_le (Nat.le_of_not_lt hfirst)
      obtain ⟨i, hi, honly⟩ := ih (by omega : k < takers params)
      refine ⟨i + 1, takesAt_cons_succ.mpr hi, ?_⟩
      intro i' hi'
      cases i' with
      | zero =>
        obtain ⟨htakes, hzero⟩ := takesAt_cons_zero.mp hi'
        omega
      | succ i' => rw [honly i' (takesAt_cons_succ.mp hi')]

end

namespace Handler

variable {W : Type} {h : Handler W} {step : Text} {arguments : List Text}

/-- The handler accepts the number of arguments. -/
def Accepts (h : Handler W) (step : Text) (arguments : List Text) : Prop :=
  Arity.check step h.shapes arguments.length = .ok ()

/-- Every parameter that takes an integer has an argument that is one. -/
def Reads (h : Handler W) (arguments : List Text) : Prop :=
  ∀ (i : Nat) (type : IntegerType), h.params[i]? = some (.integer type) →
    ∃ argument n, argument? h.params arguments i = some argument ∧ type.read? argument = some n

/-- Where the number is accepted, there is a parameter for each argument. -/
theorem length_le_takers (haccepts : h.Accepts step arguments) :
    arguments.length ≤ takers h.params := by
  rw [← length_argumentShapes]
  exact (Arity.check_eq_ok_iff.mp haccepts).1

/-- A number that is not accepted is told of beside the number of parameters that take one. -/
theorem bind_of_not_accepts (haccepts : ¬ h.Accepts step arguments) :
    h.bind step arguments
      = .error (.arity { step, groups := arguments.length, required := takers h.params }) := by
  have hmost : Arity.most h.shapes = takers h.params :=
    (Arity.length_eq_most _).symm.trans (length_argumentShapes _)
  unfold Accepts at haccepts
  unfold bind
  cases hcheck : Arity.check step h.shapes arguments.length with
  | ok u => exact absurd hcheck haccepts
  | error e => rw [Arity.eq_of_check_eq_error hcheck, hmost]

/-- What is refused is not read. -/
theorem Refuses.not_reads {c : CoercionFault} (hrefuses : h.Refuses step arguments c) :
    ¬ h.Reads arguments := by
  obtain ⟨i, type, argument, hp, hargument, hnone, -⟩ := hrefuses
  intro hreads
  obtain ⟨argument', n, hargument', hsome⟩ := hreads i type hp
  obtain rfl := Option.some.inj (hargument.symm.trans hargument')
  exact absurd (hnone.symm.trans hsome) (by simp)

/-- What is taken for an integer is read. -/
theorem Enters.reads {values : List Value} (henters : h.Enters arguments values) :
    h.Reads arguments := by
  intro i type hp
  have hi : i < values.length := by
    rw [henters.length_eq]
    exact (List.getElem?_eq_some_iff.mp hp).1
  have htakes := henters.takes i _ _ hp (List.getElem?_eq_getElem hi)
  revert htakes
  generalize hargument : argument? h.params arguments i = argument
  generalize values[i] = v
  intro htakes
  cases htakes with
  | integer _ argument n hn => exact ⟨argument, n, rfl, hn⟩

/-- **The fault names the first argument that cannot be read.** -/
theorem first_of_bind_eq_coercion {c c' : CoercionFault} (haccepts : h.Accepts step arguments)
    (hbind : h.bind step arguments = .error (.coercion c))
    (hrefuses : h.Refuses step arguments c') :
    c.index ≤ c'.index := by
  unfold Accepts at haccepts
  unfold bind at hbind
  rw [haccepts] at hbind
  dsimp only at hbind
  cases hbound : bindParams step 0 h.params arguments with
  | ok values =>
    rw [hbound] at hbind
    exact absurd hbind (by simp)
  | error fault =>
    rw [hbound] at hbind
    obtain rfl : fault = c := BindingFault.coercion.inj (Except.error.inj hbind)
    obtain ⟨i, p, hp, hfails, hbefore⟩ := exists_of_bindParams_eq_error hbound
    obtain ⟨k, type, argument, hk, hargument, hnone, rfl⟩ := hrefuses
    have hindex : fault.index = argumentIndex h.params i := by
      cases p with
      | integer type =>
        rw [Nat.zero_add, Param.bind] at hfails
        split at hfails
        next => exact absurd hfails (by simp)
        next => rw [← Except.error.inj hfails]
      | _ => exact absurd hfails (by simp [Param.bind])
    rw [hindex]
    -- binding has not got beyond an argument that cannot be read
    by_cases hlt : k < i
    · obtain ⟨v, hv⟩ := hbefore k _ hlt hk
      rw [hargument, Option.getD_some, Param.bind, hnone] at hv
      exact absurd hv (by simp)
    · exact argumentIndex_mono h.params (Nat.le_of_not_lt hlt)

end Handler

end Gherkin
