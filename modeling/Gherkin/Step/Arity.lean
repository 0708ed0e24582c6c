import Gherkin.Text.Basic

/-!
# How many arguments a handler accepts

Every parameter of a handler has a shape. Parameters of two shapes are injected: they receive the
context of the scenario or the reporter of the step, and take no argument. The others take one
argument each, in order. Trailing text parameters may go without, because the doc string of a step
may be left out; so the accepted numbers of arguments form an interval.
-/

namespace Gherkin

/-- What kind of value a parameter takes. -/
inductive Shape where
  | text
  | integer
  | boolean
  | isolation
  | reporter
  deriving DecidableEq, Repr

namespace Shape

/-- Whether a parameter of the shape is supplied by the run and takes no argument. -/
def isSupplied : Shape → Bool
  | isolation | reporter => true
  | text | integer | boolean => false

/-- The shape in words. -/
def display : Shape → Text
  | text => "text".toList
  | integer => "integer".toList
  | boolean => "boolean".toList
  | isolation => "isolation context".toList
  | reporter => "reporter".toList

/-- The name of the shape as a constructor. -/
def name : Shape → Text
  | text => "Text".toList
  | integer => "Integer".toList
  | boolean => "Boolean".toList
  | isolation => "Isolation".toList
  | reporter => "Reporter".toList

end Shape

/-- The shapes that take an argument. -/
def argumentShapes (shapes : List Shape) : List Shape := shapes.filter fun s => !s.isSupplied

/-- A step has a number of arguments that its handler does not accept. -/
structure ArityFault where
  step : Text
  groups : Nat
  required : Nat
  deriving DecidableEq, Repr

/-- The text of the fault. -/
def ArityFault.message (e : ArityFault) : Text :=
  "pattern provided ".toList ++ Text.ofNat e.groups ++ " groups, but the step requires ".toList
    ++ Text.ofNat e.required ++ " arguments:\n\t".toList ++ e.step

/-- Checks that a handler of these shapes accepts the number of arguments: there is a parameter for
each, and the parameters left over are texts. -/
def Arity.check (step : Text) (shapes : List Shape) (groups : Nat) : Except ArityFault Unit :=
  let required := argumentShapes shapes
  if groups > required.length || (required.drop groups).any (· != .text) then
    .error { step, groups, required := required.length }
  else .ok ()

/-- The number is accepted if there is a parameter for each argument, and all that is left over are
texts. -/
theorem Arity.check_eq_ok_iff {step : Text} {shapes : List Shape} {groups : Nat} :
    Arity.check step shapes groups = .ok () ↔
      groups ≤ (argumentShapes shapes).length ∧
        ∀ s ∈ (argumentShapes shapes).drop groups, s = .text := by
  simp only [Arity.check]
  split
  next h =>
    simp only [Bool.or_eq_true, decide_eq_true_eq, List.any_eq_true, bne_iff_ne] at h
    simp only [reduceCtorEq, false_iff, not_and]
    rintro hle htexts
    rcases h with h | ⟨s, hs, hne⟩
    · exact absurd hle (by omega)
    · exact hne (htexts s hs)
  next h =>
    simp only [Bool.or_eq_true, decide_eq_true_eq, List.any_eq_true, bne_iff_ne, not_or,
      not_exists, not_and, Classical.not_not] at h
    exact ⟨fun _ => ⟨by omega, h.2⟩, fun _ => rfl⟩

end Gherkin
