import Gherkin.Step.Handler

/-!
# What a handler is entered with

`bindParams` goes through the parameters and drops an argument for each one that takes one. Here the
same is said by position: the parameter at `i` takes the argument at `argumentIndex params i`, which
is the number of parameters before it that take one (`bindParams_eq_ok_iff`). Binding stops where
one parameter cannot be bound (`exists_of_bindParams_eq_error`).

A number of arguments that is accepted has an argument for every parameter but some texts at the end
(`exists_argument?`). So a handler that accepts the number is either entered with values that come
from the arguments, or has an argument that is no integer (`Handler.bind_of_accepted`).
-/

namespace Gherkin

/-- How many arguments the parameter takes. -/
def Param.takes (p : Param) : Nat := if p.shape.isSupplied then 0 else 1

/-- The position of the argument that the parameter at `i` takes, if it takes one. -/
def argumentIndex (params : List Param) (i : Nat) : Nat :=
  (params.take i).countP fun p => !p.shape.isSupplied

/-- The argument that the parameter at `i` takes, if it takes one; it may be missing. -/
def argument? (params : List Param) (arguments : List Text) (i : Nat) : Option Text :=
  arguments[argumentIndex params i]?

/-- What a parameter may be bound to, given the argument in its place. Only a text does without
one, and what the run supplies takes none. -/
inductive Param.Takes : Param → Option Text → Value → Prop
  | text (argument : Option Text) : Takes .text argument (.text (argument.getD []))
  | boolean (argument : Text) : Takes .boolean (some argument) (.boolean (argument != []))
  | integer (type : IntegerType) (argument : Text) (n : Int) (hn : type.read? argument = some n) :
    Takes (.integer type) (some argument) (.integer n)
  | isolation (argument : Option Text) : Takes .isolation argument .isolation
  | reporter (argument : Option Text) : Takes .reporter argument .reporter

section

variable {p : Param} {params : List Param} {arguments : List Text} {values : List Value}
  {step : Text} {index i : Nat}

theorem argumentIndex_cons_succ (p : Param) (params : List Param) (i : Nat) :
    argumentIndex (p :: params) (i + 1) = p.takes + argumentIndex params i := by
  unfold argumentIndex Param.takes
  rw [List.take_succ_cons, List.countP_cons, Nat.add_comm]
  cases p.shape.isSupplied <;> rfl

theorem argument?_cons_zero (p : Param) (params : List Param) (arguments : List Text) :
    argument? (p :: params) arguments 0 = arguments.head? :=
  List.head?_eq_getElem?.symm

theorem argument?_cons_succ (p : Param) (params : List Param) (arguments : List Text) (i : Nat) :
    argument? (p :: params) arguments (i + 1)
      = argument? params (arguments.drop p.takes) i := by
  unfold argument?
  rw [argumentIndex_cons_succ, List.getElem?_drop]

/-- Parameters are bound one after another. What a supplied parameter is bound to does not depend on
the argument in its place, so all parameters may be said to look at it. -/
theorem bindParams_cons (step : Text) (index : Nat) (p : Param) (params : List Param)
    (arguments : List Text) :
    bindParams step index (p :: params) arguments
      = (p.bind step index (arguments.head?.getD [])).bind fun value =>
          (bindParams step (index + p.takes) params (arguments.drop p.takes)).map (value :: ·) := by
  rw [bindParams]
  have hhead : arguments.headD [] = arguments.head?.getD [] := by cases arguments <;> rfl
  split
  next hsupplied =>
    have htakes : p.takes = 0 := if_pos hsupplied
    -- what the run supplies is bound without looking at an argument
    have hbind : p.bind step index [] = p.bind step index (arguments.head?.getD []) := by
      cases p with
      | isolation => rfl
      | reporter => rfl
      | _ => exact absurd hsupplied (by simp [Param.shape, Shape.isSupplied])
    rw [htakes, hbind, List.drop_zero]
    cases p.bind step index (arguments.head?.getD []) with
    | error c => rfl
    | ok value => cases bindParams step index params arguments <;> rfl
  next hsupplied =>
    have htakes : p.takes = 1 := if_neg hsupplied
    rw [htakes, hhead, List.drop_one]
    cases p.bind step index (arguments.head?.getD []) with
    | error c => rfl
    | ok value => cases bindParams step (index + 1) params arguments.tail <;> rfl

/-- **Every parameter is bound to the argument in its place.** -/
theorem bindParams_eq_ok_iff :
    bindParams step index params arguments = .ok values ↔
      values.length = params.length ∧
        ∀ (i : Nat) (p : Param) (v : Value), params[i]? = some p → values[i]? = some v →
          p.bind step (index + argumentIndex params i) ((argument? params arguments i).getD [])
            = .ok v := by
  induction params generalizing index arguments values with
  | nil =>
    rw [bindParams]
    cases values with
    | nil => simp
    | cons v values => simp
  | cons p params ih =>
    rw [bindParams_cons]
    constructor
    · intro h
      cases hvalue : p.bind step index (arguments.head?.getD []) with
      | error c =>
        rw [hvalue] at h
        exact absurd h (by simp [Except.bind])
      | ok value =>
        rw [hvalue] at h
        cases hrest : bindParams step (index + p.takes) params (arguments.drop p.takes) with
        | error c =>
          rw [hrest] at h
          exact absurd h (by simp [Except.bind, Except.map])
        | ok rest =>
          rw [hrest] at h
          obtain rfl : value :: rest = values := Except.ok.inj h
          obtain ⟨hlength, hall⟩ := ih.mp hrest
          refine ⟨by rw [List.length_cons, List.length_cons, hlength], ?_⟩
          intro i q v hq hv
          cases i with
          | zero =>
            obtain rfl := Option.some.inj hq
            obtain rfl := Option.some.inj hv
            rw [argument?_cons_zero]
            exact hvalue
          | succ i =>
            rw [argument?_cons_succ, argumentIndex_cons_succ, ← Nat.add_assoc]
            exact hall i q v hq hv
    · rintro ⟨hlength, hall⟩
      cases values with
      | nil => exact absurd hlength (by simp)
      | cons value rest =>
        have hvalue := hall 0 p value rfl rfl
        rw [argument?_cons_zero] at hvalue
        have hrest : bindParams step (index + p.takes) params (arguments.drop p.takes)
            = .ok rest := by
          refine ih.mpr ⟨Nat.succ.inj hlength, ?_⟩
          intro i q v hq hv
          have h := hall (i + 1) q v hq hv
          rw [argument?_cons_succ, argumentIndex_cons_succ, ← Nat.add_assoc] at h
          exact h
        have hfirst : p.bind step index (arguments.head?.getD []) = .ok value := hvalue
        rw [hfirst, hrest]
        rfl

/-- Binding stops at the first parameter that cannot be bound to the argument in its place. -/
theorem exists_of_bindParams_eq_error {c : CoercionFault}
    (h : bindParams step index params arguments = .error c) :
    ∃ (i : Nat) (p : Param), params[i]? = some p ∧
      p.bind step (index + argumentIndex params i) ((argument? params arguments i).getD [])
        = .error c ∧
      ∀ (k : Nat) (q : Param), k < i → params[k]? = some q →
        ∃ v, q.bind step (index + argumentIndex params k) ((argument? params arguments k).getD [])
          = .ok v := by
  induction params generalizing index arguments with
  | nil => exact absurd h (by simp [bindParams])
  | cons p params ih =>
    rw [bindParams_cons] at h
    cases hvalue : p.bind step index (arguments.head?.getD []) with
    | error c' =>
      rw [hvalue] at h
      obtain rfl : c' = c := Except.error.inj h
      refine ⟨0, p, rfl, ?_, fun k q hk => absurd hk (Nat.not_lt_zero k)⟩
      rw [argument?_cons_zero]
      exact hvalue
    | ok value =>
      rw [hvalue] at h
      cases hrest : bindParams step (index + p.takes) params (arguments.drop p.takes) with
      | ok rest =>
        rw [hrest] at h
        exact absurd h (by simp [Except.bind, Except.map])
      | error c' =>
        rw [hrest] at h
        obtain rfl : c' = c := Except.error.inj h
        obtain ⟨i, q, hq, hbind, hbefore⟩ := ih hrest
        refine ⟨i + 1, q, hq, ?_, ?_⟩
        · rw [argument?_cons_succ, argumentIndex_cons_succ, ← Nat.add_assoc]
          exact hbind
        · intro k q' hk hq'
          cases k with
          | zero =>
            obtain rfl := Option.some.inj hq'
            rw [argument?_cons_zero]
            exact ⟨value, hvalue⟩
          | succ k =>
            rw [argument?_cons_succ, argumentIndex_cons_succ, ← Nat.add_assoc]
            exact hbefore k q' (Nat.lt_of_succ_lt_succ hk) hq'

/-- The shapes that take an argument are those of the parameters that do, each in the place of its
argument. -/
theorem getElem?_argumentShapes (hp : params[i]? = some p)
    (hsupplied : p.shape.isSupplied = false) :
    (argumentShapes (params.map Param.shape))[argumentIndex params i]? = some p.shape := by
  induction params generalizing i with
  | nil => exact absurd hp (by simp)
  | cons q params ih =>
    unfold argumentShapes at ih ⊢
    rw [List.map_cons]
    cases i with
    | zero =>
      obtain rfl := Option.some.inj hp
      rw [List.filter_cons_of_pos (by simp [hsupplied])]
      rfl
    | succ i =>
      rw [argumentIndex_cons_succ]
      by_cases hq : q.shape.isSupplied = true
      · have htakes : q.takes = 0 := if_pos hq
        rw [List.filter_cons_of_neg (by simp [hq]), htakes, Nat.zero_add]
        exact ih hp
      · have htakes : q.takes = 1 := if_neg hq
        rw [List.filter_cons_of_pos (by simp [hq]), htakes, Nat.add_comm,
          List.getElem?_cons_succ]
        exact ih hp

/-- **If the number of arguments is accepted, only a text may miss its argument.** -/
theorem exists_argument?
    (h : Arity.check step (params.map Param.shape) arguments.length = .ok ())
    (hp : params[i]? = some p) (hsupplied : p.shape.isSupplied = false) (htext : p.shape ≠ .text) :
    ∃ argument, argument? params arguments i = some argument := by
  obtain ⟨-, htexts⟩ := Arity.check_eq_ok_iff.mp h
  have hshape := getElem?_argumentShapes hp hsupplied
  have hlt : argumentIndex params i < arguments.length := by
    refine Nat.lt_of_not_le fun hle => htext (htexts p.shape ?_)
    -- a parameter whose argument is missing is one of those left over
    obtain ⟨k, hk⟩ := Nat.exists_eq_add_of_le hle
    have hleft : ((argumentShapes (params.map Param.shape)).drop arguments.length)[k]?
        = some p.shape := by
      rw [List.getElem?_drop, ← hk]
      exact hshape
    exact List.mem_of_getElem? hleft
  exact ⟨_, List.getElem?_eq_getElem hlt⟩

/-- Later parameters take later arguments. -/
theorem argumentIndex_mono (params : List Param) {i j : Nat} (hij : i ≤ j) :
    argumentIndex params i ≤ argumentIndex params j := by
  obtain ⟨k, rfl⟩ := Nat.exists_eq_add_of_le hij
  unfold argumentIndex
  rw [List.take_add, List.countP_append]
  omega

/-- **If the number of arguments is accepted, then from the first missing argument on all parameters
that take one are texts.** -/
theorem eq_text_of_missing
    (h : Arity.check step (params.map Param.shape) arguments.length = .ok ()) {j : Nat}
    (hij : i ≤ j) (hmissing : argument? params arguments i = none) (hp : params[j]? = some p)
    (hsupplied : p.shape.isSupplied = false) : p = .text := by
  -- the argument of a later parameter is missing too
  have hnone : argument? params arguments j = none := by
    unfold argument? at hmissing ⊢
    have hmono := argumentIndex_mono params hij
    rw [List.getElem?_eq_none_iff] at hmissing ⊢
    omega
  by_cases htext : p.shape = .text
  · cases p with
    | text => rfl
    | _ => exact absurd htext (by simp [Param.shape])
  · obtain ⟨argument, hsome⟩ := exists_argument? h hp hsupplied htext
    exact absurd (hnone.symm.trans hsome) (by simp)

end

namespace Handler

variable {W : Type} {h : Handler W} {step : Text} {arguments : List Text}

/-- Values that the handler may be entered with: one for each parameter, taken from the argument in
its place. -/
structure Enters (h : Handler W) (arguments : List Text) (values : List Value) : Prop where
  length_eq : values.length = h.params.length
  takes : ∀ (i : Nat) (p : Param) (v : Value), h.params[i]? = some p → values[i]? = some v →
    p.Takes (argument? h.params arguments i) v
  /-- Where one argument is missing all later ones are, and texts alone go without. -/
  missing : ∀ (i j : Nat) (p : Param), i ≤ j → argument? h.params arguments i = none →
    h.params[j]? = some p → p.shape.isSupplied = false → p = .text

/-- A fault that tells of an integer parameter whose argument is there, but is no integer of the
type. -/
def Refuses (h : Handler W) (step : Text) (arguments : List Text) (c : CoercionFault) : Prop :=
  ∃ (i : Nat) (type : IntegerType) (argument : Text), h.params[i]? = some (.integer type) ∧
    argument? h.params arguments i = some argument ∧ type.read? argument = none ∧
    c = { step, value := argument, index := argumentIndex h.params i, shape := .integer }

/-- **A handler that accepts the number of arguments is entered, or an argument is no integer.** -/
theorem bind_of_accepted (haccepted : Arity.check step h.shapes arguments.length = .ok ()) :
    (∃ values, h.bind step arguments = .ok values ∧ h.Enters arguments values) ∨
      ∃ c, h.bind step arguments = .error (.coercion c) ∧ h.Refuses step arguments c := by
  unfold bind
  rw [haccepted]
  dsimp only
  cases hbound : bindParams step 0 h.params arguments with
  | ok values =>
    obtain ⟨hlength, hall⟩ := bindParams_eq_ok_iff.mp hbound
    refine Or.inl ⟨values, rfl, hlength, ?_, fun i j p => eq_text_of_missing haccepted⟩
    intro i p v hp hv
    have hbind := hall i p v hp hv
    cases p with
    | text =>
      obtain rfl := Except.ok.inj hbind
      exact .text _
    | isolation =>
      obtain rfl := Except.ok.inj hbind
      exact .isolation _
    | reporter =>
      obtain rfl := Except.ok.inj hbind
      exact .reporter _
    | boolean =>
      obtain ⟨argument, hargument⟩ := exists_argument? haccepted hp rfl (by simp [Param.shape])
      rw [hargument] at hbind ⊢
      obtain rfl := Except.ok.inj hbind
      exact .boolean argument
    | integer type =>
      obtain ⟨argument, hargument⟩ := exists_argument? haccepted hp rfl (by simp [Param.shape])
      rw [hargument, Option.getD_some, Param.bind] at hbind
      rw [hargument]
      split at hbind
      next n hn =>
        obtain rfl := Except.ok.inj hbind
        exact .integer type argument n hn
      next => exact absurd hbind (by simp)
  | error c =>
    obtain ⟨i, p, hp, hbind, -⟩ := exists_of_bindParams_eq_error hbound
    refine Or.inr ⟨c, rfl, ?_⟩
    cases p with
    -- only an integer can refuse its argument
    | integer type =>
      obtain ⟨argument, hargument⟩ := exists_argument? haccepted hp rfl (by simp [Param.shape])
      rw [hargument, Option.getD_some, Nat.zero_add, Param.bind] at hbind
      split at hbind
      next => exact absurd hbind (by simp)
      next hnone => exact ⟨i, type, argument, hp, hargument, hnone, (Except.error.inj hbind).symm⟩
    | _ => exact absurd hbind (by simp [Param.bind])

end Handler

end Gherkin
