import Gherkin.Step.Arity

/-!
# Handlers and what they are given

A handler is a function of its arguments and of the context of the scenario. It answers with the
context as it leaves it, with what it logged and reported on the way, and with how it ended.

Binding turns the argument texts of a step into values, from left to right and by position. Texts
are taken as they are, a boolean says whether its text is not empty, and an integer must be written
in decimal and lie in the range of its type. Binding stops at the first text that is no integer;
the handler is then not entered.
-/

namespace Gherkin

/-- The type of an integer parameter. -/
structure IntegerType where
  signed : Bool
  bits : Nat
  deriving DecidableEq, Repr

namespace IntegerType

/-- How many values of the type are not negative. -/
def bound (t : IntegerType) : Nat := Nat.pow 2 (if t.signed then t.bits - 1 else t.bits)

/-- The least value of the type. -/
def least (t : IntegerType) : Int := if t.signed then -(t.bound : Int) else 0

/-- The greatest value of the type. -/
def greatest (t : IntegerType) : Int := (t.bound : Int) - 1

end IntegerType

/-- The value of a text of ASCII digits, of which there must be one at least. -/
def natural? (t : Text) : Option Nat :=
  if t ≠ [] ∧ t.all Char.isDigit then
    some (t.foldl (fun n c => 10 * n + (c.toNat - '0'.toNat)) 0)
  else none

/-- The integer a text stands for: decimal digits after an optional sign, where a minus sign is
known to signed types only, with a value that lies in the range of the type. -/
def IntegerType.read? (t : IntegerType) (s : Text) : Option Int :=
  let value : Option Int :=
    match s with
    | '+' :: digits => (natural? digits).map Int.ofNat
    | '-' :: digits => if t.signed then (natural? digits).map fun n => -Int.ofNat n else none
    | digits => (natural? digits).map Int.ofNat
  value.filter fun n => t.least ≤ n && n ≤ t.greatest

/-- A parameter of a handler. -/
inductive Param where
  | text
  | boolean
  | integer (type : IntegerType)
  | isolation
  | reporter
  deriving DecidableEq, Repr

/-- The shape of a parameter. -/
def Param.shape : Param → Shape
  | text => .text
  | boolean => .boolean
  | integer _ => .integer
  | isolation => .isolation
  | reporter => .reporter

/-- What a parameter is bound to. -/
inductive Value where
  | text (t : Text)
  | boolean (b : Bool)
  | integer (n : Int)
  /-- The context of the scenario. -/
  | isolation
  /-- The reporter of the step. -/
  | reporter
  deriving DecidableEq, Repr

/-- How a handler ended. -/
inductive Ending where
  | finished
  | failed (message : Text)
  /-- It panicked; the message is absent if the panic carried none. -/
  | panicked (message : Option Text)
  deriving DecidableEq, Repr

/-- What a handler leaves behind. -/
structure Reply (W : Type) where
  world : W
  logs : List Text
  errors : List Text
  ending : Ending

/-- A handler over contexts of type `W`. -/
structure Handler (W : Type) where
  params : List Param
  run : List Value → W → Reply W

/-- The shapes of a handler's parameters. -/
def Handler.shapes {W : Type} (h : Handler W) : List Shape := h.params.map Param.shape

/-- An argument cannot be read as what its parameter takes. -/
structure CoercionFault where
  step : Text
  value : Text
  /-- The position of the argument, from 0. -/
  index : Nat
  shape : Shape
  deriving DecidableEq, Repr

/-- The text of the fault. -/
def CoercionFault.message (e : CoercionFault) : Text :=
  "cannot use `".toList ++ e.value ++ "` (group ".toList ++ Text.ofNat e.index ++ ") as ".toList
    ++ e.shape.display ++ " in step: ".toList ++ e.step

/-- Why a step could not be bound to its handler. -/
inductive BindingFault where
  | arity (e : ArityFault)
  | coercion (e : CoercionFault)
  deriving DecidableEq, Repr

/-- The text of the fault. -/
def BindingFault.message : BindingFault → Text
  | arity e => e.message
  | coercion e => e.message

/-- Binds one parameter that takes the argument at `index`; a missing argument is an empty text. -/
def Param.bind (step : Text) (index : Nat) (argument : Text) : Param → Except CoercionFault Value
  | text => .ok (.text argument)
  | boolean => .ok (.boolean (argument != []))
  | integer t =>
    match t.read? argument with
    | some n => .ok (.integer n)
    | none => .error { step, value := argument, index, shape := .integer }
  | isolation => .ok .isolation
  | reporter => .ok .reporter

/-- Binds parameters from left to right; `index` is the position of the first argument left. -/
def bindParams (step : Text) : (index : Nat) → List Param → List Text →
    Except CoercionFault (List Value)
  | _, [], _ => .ok []
  | index, p :: params, arguments =>
    if p.shape.isSupplied then do
      let value ← p.bind step index []
      let values ← bindParams step index params arguments
      return value :: values
    else do
      let value ← p.bind step index (arguments.headD [])
      let values ← bindParams step (index + 1) params arguments.tail
      return value :: values

/-- The values a handler is entered with, or why it is not entered. -/
def Handler.bind {W : Type} (h : Handler W) (step : Text) (arguments : List Text) :
    Except BindingFault (List Value) :=
  match Arity.check step h.shapes arguments.length with
  | .error e => .error (.arity e)
  | .ok () =>
    match bindParams step 0 h.params arguments with
    | .error e => .error (.coercion e)
    | .ok values => .ok values

end Gherkin
