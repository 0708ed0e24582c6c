import Gherkin.Pattern.Reader.Escape

/-!
# Reading a bracketed class

A class in brackets is a union of characters, ranges, named classes and nested classes. The
operators `&&`, `--` and `~~` combine the unions written so far and the next one; they bind alike
and group to the left. A class also has a depth, the height of what is nested in it, because a
pattern may not be nested without end.
-/

namespace Gherkin.Pattern.Reader

/-- The operators between two unions of a class. -/
inductive SetOperator where
  | intersection
  | difference
  | symmetricDifference

/-- What the operator makes of two sets. -/
def SetOperator.apply : SetOperator → CharSet → CharSet → CharSet
  | intersection, a, b => .inter a b
  | difference, a, b => a.diff b
  | symmetricDifference, a, b => a.symmDiff b

/-- A set and the depth of the expression it was read from. -/
structure Sized where
  set : CharSet
  depth : Nat

/-- A class that is still open. -/
structure OpenClass where
  negated : Bool
  /-- The items of the union being read, the latest first. -/
  items : List Sized
  /-- The operator before this union and what it applies to. -/
  pending : Option (SetOperator × Sized)

/-- The union of the items read so far; only two items or more are nested in it. -/
def OpenClass.union (level : OpenClass) : Sized :=
  match level.items with
  | [] => ⟨.empty, 0⟩
  | [item] => item
  | items => ⟨.unions (items.reverse.map (·.set)), 1 + (items.map (·.depth)).foldl max 0⟩

/-- What the open class holds so far, with its pending operator applied. -/
def OpenClass.value (flags : Flags) (level : OpenClass) : Sized :=
  let right := level.union
  match level.pending with
  | none => right
  | some (op, left) =>
    ⟨op.apply (folded flags left.set) (folded flags right.set), 1 + max left.depth right.depth⟩

/-- The class once its closing bracket is read. -/
def OpenClass.close (flags : Flags) (level : OpenClass) : Sized :=
  let inner := level.value flags
  ⟨.negateIf level.negated (folded flags inner.set), 1 + inner.depth⟩

/-- Opens a class after its bracket: a caret negates it, and hyphens, or else one closing bracket,
stand for themselves at its start. -/
def openClass (flags : Flags) (s : Text) : Option (OpenClass × Text) :=
  let s := skip flags s
  let (negated, s) :=
    match s with
    | '^' :: rest => (true, skip flags rest)
    | _ => (false, s)
  let rec hyphens : (fuel : Nat) → List Sized → Text → List Sized × Text
    | 0, items, s => (items, s)
    | fuel + 1, items, s =>
      match s with
      | '-' :: rest => hyphens fuel (⟨.singleton '-', 0⟩ :: items) (skip flags rest)
      | _ => (items, s)
  let (items, s) := hyphens s.length [] s
  match items, s with
  | _, [] => none
  | [], ']' :: rest =>
    match skip flags rest with
    | [] => none
    | rest => some (⟨negated, [⟨.singleton ']', 0⟩], none⟩, rest)
  | items, s => some (⟨negated, items, none⟩, s)

/-- A class `[:name:]` or `[:^name:]`, read after its opening bracket. -/
def asciiClass? (flags : Flags) (s : Text) : Option (CharSet × Text) :=
  match s with
  | ':' :: rest =>
    let (negated, rest) :=
      match rest with
      | '^' :: rest => (true, rest)
      | _ => (false, rest)
    let name := rest.takeWhile (· != ':')
    match rest.drop name.length with
    | ':' :: ']' :: rest =>
      (ClassName.ascii? name).map fun set => (.negateIf negated (folded flags set), rest)
    | _ => none
  | _ => none

/-- One character of a class, or an escape. -/
def classItem (flags : Flags) : Text → Option (Escaped × Text)
  | [] => none
  | '\\' :: rest => escape flags rest
  | c :: rest => some (.char c, rest)

/-- The character an item stands for, where only a character will do. -/
def Escaped.char? (flags : Flags) : Escaped → Option Char
  | .char c => if flags.unicode || c.toNat < 0x80 then some c else none
  | _ => none

/-- A character, a range, or an escaped class. A hyphen makes a range unless a closing bracket or
another hyphen follows it. -/
def classRange (flags : Flags) (s : Text) : Option (CharSet × Text) := do
  let (first, rest) ← classItem flags s
  let rest := skip flags rest
  let alone : Option (CharSet × Text) :=
    match first with
    | .set set => some (set, rest)
    | item => (item.char? flags).map fun c => (.singleton c, rest)
  match rest with
  | [] => none
  | '-' :: after =>
    match skip flags after with
    | ']' :: _ => alone
    | '-' :: _ => alone
    | after => do
      let (last, rest) ← classItem flags after
      let a ← first.char? flags
      let b ← last.char? flags
      if a ≤ b then some (.range a b, rest) else none
  | _ => alone

/-- Reads a class to its closing bracket. `level` is the class that is open and `outer` are those
around it, the innermost first. Each round takes a character at least, so `fuel` may be the length
of the text. -/
def classRest (flags : Flags) :
    (fuel : Nat) → (level : OpenClass) → (outer : List OpenClass) → Text → Option (Sized × Text)
  | 0, _, _, _ => none
  | fuel + 1, level, outer, s =>
    let operator (op : SetOperator) (rest : Text) : Option (Sized × Text) :=
      classRest flags fuel
        { level with items := [], pending := some (op, level.value flags) } outer rest
    match skip flags s with
    | [] => none
    | '[' :: rest =>
      match asciiClass? flags rest with
      | some (set, rest) =>
        classRest flags fuel { level with items := ⟨set, 0⟩ :: level.items } outer rest
      | none =>
        match openClass flags rest with
        | none => none
        | some (inner, rest) => classRest flags fuel inner (level :: outer) rest
    | ']' :: rest =>
      let closed := level.close flags
      match outer with
      | [] => some (closed, rest)
      | around :: outer =>
        classRest flags fuel { around with items := closed :: around.items } outer rest
    | '&' :: '&' :: rest => operator .intersection rest
    | '-' :: '-' :: rest => operator .difference rest
    | '~' :: '~' :: rest => operator .symmetricDifference rest
    | s =>
      match classRange flags s with
      | none => none
      | some (set, rest) =>
        classRest flags fuel { level with items := ⟨set, 0⟩ :: level.items } outer rest

/-- A whole class, read after its opening bracket. -/
def bracketed (flags : Flags) (s : Text) : Option (Sized × Text) := do
  let (level, rest) ← openClass flags s
  let (closed, rest) ← classRest flags (rest.length + 1) level [] rest
  if isAllowed flags closed.set then some (closed, rest) else none

end Gherkin.Pattern.Reader
