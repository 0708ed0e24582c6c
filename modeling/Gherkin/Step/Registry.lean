import Gherkin.Pattern.Basic
import Gherkin.Step.Handler
import Gherkin.Step.Location

/-!
# The registry of steps

A registry is the list of step definitions in the order of their registration: each has a pattern,
the location that registered it, and a handler. Patterns are pairwise distinct as texts; a step
whose pattern is there already is refused and nothing changes.

A step text is looked up by all patterns at once. No pattern takes precedence over another: a text
that two patterns match is ambiguous, and the candidates are named in the order of their texts.
-/

namespace Gherkin

/-- The definition of a step. -/
structure Definition (W : Type) where
  pattern : Pattern
  location : Location
  handler : Handler W

/-- The definitions, in the order of their registration. -/
structure Registry (W : Type) where
  definitions : List (Definition W) := []

/-- Why a step was not registered. -/
inductive RegistrationFault where
  /-- The pattern is registered already: where it was first, and where it is now. -/
  | duplicate (pattern : Text) (existing duplicate : Location)
  | invalidPattern
  deriving DecidableEq, Repr

/-- The text of a refusal of a duplicate. -/
def RegistrationFault.duplicateMessage (pattern : Text) (existing : Location) : Text :=
  "step for `".toList ++ pattern ++ "` already exists at ".toList ++ existing.display

/-- What a step text was matched with. -/
structure Match where
  /-- The position of the step in the registry. -/
  handler : Nat
  pattern : Text
  location : Location
  captures : List Text
  text : Text
  deriving DecidableEq, Repr

/-- A step text that several patterns match, in the order of their texts. -/
structure Ambiguity where
  step : Text
  candidates : List (Text × Location)
  deriving DecidableEq, Repr

/-- The text of the fault: one line for each candidate. -/
def Ambiguity.message (e : Ambiguity) : Text :=
  "conflicting steps for `".toList ++ e.step ++ "`:".toList
    ++ e.candidates.flatMap fun (pattern, location) =>
      "\n\t".toList ++ pattern ++ " --> ".toList ++ location.display

/-- Why no step was found. -/
inductive LookupFault where
  | notFound
  | ambiguous (e : Ambiguity)
  deriving DecidableEq, Repr

/-- The text of the fault. -/
def LookupFault.message : LookupFault → Text
  | notFound => "no matching step".toList
  | ambiguous e => e.message

/-- The order of candidates: by pattern, then by location. -/
def Ambiguity.le (a b : Text × Location) : Bool :=
  if a.1 = b.1 then a.2.le b.2 else Text.le a.1 b.1

namespace Registry

variable {W : Type}

/-- Adds a step. That the pattern is new is checked before it is read. -/
def register (r : Registry W) (pattern : Text) (location : Location) (handler : Handler W) :
    Except RegistrationFault (Registry W) :=
  match r.definitions.find? fun e => e.pattern.source = pattern with
  | some e => .error (.duplicate pattern e.location location)
  | none =>
    match Pattern.ofText? pattern with
    | none => .error .invalidPattern
    | some p => .ok { definitions := r.definitions ++ [{ pattern := p, location, handler }] }

/-- The patterns in the order of their registration. -/
def patterns (r : Registry W) : List Text := r.definitions.map fun e => e.pattern.source

/-- A registration adds its definition at the end and changes nothing else. -/
theorem definitions_of_register {r r' : Registry W} {pattern : Text} {location : Location}
    {handler : Handler W} (h : r.register pattern location handler = .ok r') :
    ∃ p, Pattern.ofText? pattern = some p ∧
      r'.definitions = r.definitions ++ [{ pattern := p, location, handler }] := by
  simp only [register] at h
  split at h
  · simp at h
  · split at h
    · simp at h
    next p hp =>
      simp only [Except.ok.injEq] at h
      exact ⟨p, hp, by rw [← h]⟩

/-- The shapes of the handler at a position. -/
def shapes? (r : Registry W) (i : Nat) : Option (List Shape) :=
  r.definitions[i]?.map fun e => e.handler.shapes

/-- The definitions that match a text, with their positions and captures. -/
def matching (text : Text) : (position : Nat) → List (Definition W) →
    List (Nat × Definition W × List Text)
  | _, [] => []
  | i, e :: rest =>
    match e.pattern.captures? text with
    | some captures => (i, e, captures) :: matching text (i + 1) rest
    | none => matching text (i + 1) rest

/-- The one step whose pattern matches the text. -/
def find (r : Registry W) (text : Text) : Except LookupFault Match :=
  match matching text 0 r.definitions with
  | [] => .error .notFound
  | [(i, e, captures)] =>
    .ok { handler := i, pattern := e.pattern.source, location := e.location, captures, text }
  | several =>
    .error (.ambiguous
      { step := text
        candidates :=
          (several.map fun m => (m.2.1.pattern.source, m.2.1.location)).mergeSort Ambiguity.le })

end Registry

/-- A program that registers steps. It changes the registry in place, and stops at a refusal. -/
abbrev Registering (W : Type) := ExceptT RegistrationFault (StateM (Registry W))

namespace Registering

variable {W : Type}

/-- Adds a step in place. What could be wrong is checked before anything is changed. -/
def register (pattern : Text) (location : Location) (handler : Handler W) :
    Registering W Unit := do
  let r ← get
  match r.definitions.find? fun e => e.pattern.source = pattern with
  | some e => throw (.duplicate pattern e.location location)
  | none =>
    match Pattern.ofText? pattern with
    | none => throw .invalidPattern
    | some p =>
      set ({ definitions := r.definitions ++ [{ pattern := p, location, handler }] } : Registry W)

/-- Adds a step for lines with `Given`. All steps are of one class, so the keyword is for the reader
alone, here and with the two below. -/
def given (pattern : Text) (location : Location) (handler : Handler W) : Registering W Unit :=
  register pattern location handler

/-- Adds a step for lines with `When`. -/
def when (pattern : Text) (location : Location) (handler : Handler W) : Registering W Unit :=
  register pattern location handler

/-- Adds a step for lines with `Then`. -/
def «then» (pattern : Text) (location : Location) (handler : Handler W) : Registering W Unit :=
  register pattern location handler

/-- What the program makes of a registry, and whether it stopped at a refusal. -/
def on (program : Registering W Unit) (r : Registry W) :
    Except RegistrationFault Unit × Registry W := program.run.run r

/-- **A step is added in place as `Registry.register` says, and a refusal changes nothing.** -/
theorem register_on (pattern : Text) (location : Location) (handler : Handler W)
    (r : Registry W) :
    (register pattern location handler).on r
      = match r.register pattern location handler with
        | .ok r' => (.ok (), r')
        | .error fault => (.error fault, r) := by
  show on (match r.definitions.find? fun e => e.pattern.source = pattern with
    | some e => throw (.duplicate pattern e.location location)
    | none =>
      match Pattern.ofText? pattern with
      | none => throw .invalidPattern
      | some p => set ({ definitions :=
          r.definitions ++ [{ pattern := p, location, handler }] } : Registry W)) r = _
  unfold Registry.register
  cases r.definitions.find? fun e => e.pattern.source = pattern with
  | some e => rfl
  | none =>
    cases Pattern.ofText? pattern with
    | none => rfl
    | some p => rfl

end Registering

end Gherkin
