import Gherkin.Pattern.Syntax

/-!
# Patterns as programs

For the search a pattern becomes a program: numbered instructions, each with the numbers of those
that may follow it. Where an instruction has two successors the first is preferred, so the order in
which a tree prefers its matches is the order in which the program is explored.

Instructions are laid down from the end of the pattern to its beginning: every part is told where
to go on and answers where it begins.
-/

namespace Gherkin.Pattern

/-- One step of a search. -/
inductive Instruction where
  /-- The whole pattern has matched. -/
  | accept
  /-- Takes one character of the set. -/
  | take (set : CharSet) (next : Nat)
  /-- Goes on at `first`, or else at `second`. -/
  | split (first second : Nat)
  /-- Notes the place in a slot. -/
  | save (slot next : Nat)
  /-- Goes on if the assertion holds. -/
  | check (a : Assertion) (next : Nat)
  deriving DecidableEq, Repr

/-- The instructions laid down so far. -/
abbrev Code := Array Instruction

/-- Lays down one instruction: its number, and the code with it. -/
def Code.emit (code : Code) (i : Instruction) : Nat × Code := (code.size, code.push i)

/-- A way to lay down a part: given where to go on and the code so far, where the part begins and
the code with it. -/
abbrev Layout := Nat → Code → Nat × Code

namespace Layout

/-- Goes on at `a` or at `b`, whichever is preferred first. -/
def prefer (greedy : Bool) (a b : Nat) : Instruction :=
  if greedy then .split a b else .split b a

/-- The part `count` times over. -/
def times (part : Layout) : (count : Nat) → Layout
  | 0, next, code => (next, code)
  | count + 1, next, code =>
    let (entry, code) := part next code
    times part count entry code

/-- The part at most `count` times; each round may be the last. -/
def upTo (part : Layout) (greedy : Bool) : (count : Nat) → Layout
  | 0, next, code => (next, code)
  | count + 1, next, code =>
    let (later, code) := upTo part greedy count next code
    let (entry, code) := part later code
    code.emit (prefer greedy entry next)

/-- The part once or more: its number and where the decision after each round stands. -/
def onceOrMore (part : Layout) (greedy : Bool) (next : Nat) (code : Code) : Nat × Nat × Code :=
  let (decision, code) := code.emit (.split next next)
  let (entry, code) := part decision code
  (entry, decision, code.setIfInBounds decision (prefer greedy entry next))

/-- The part any number of times. A part that may match the empty text is laid down as "once or
more, or not at all": its first round may then be empty, while a later empty round leads back to a
place already explored. -/
def anyTimes (part : Layout) (nullable greedy : Bool) : Layout := fun next code =>
  let (entry, decision, code) := onceOrMore part greedy next code
  if nullable then code.emit (prefer greedy entry next) else (decision, code)

end Layout

/-- Lays down a node. -/
def Node.layout : Node → Layout
  | .empty, next, code => (next, code)
  | .one set, next, code => code.emit (.take set next)
  | .assertion a, next, code => code.emit (.check a next)
  | .group n body, next, code =>
    let (stop, code) := code.emit (.save (2 * n - 1) next)
    let (entry, code) := body.layout stop code
    code.emit (.save (2 * n - 2) entry)
  | .seq a b, next, code =>
    let (entry, code) := b.layout next code
    a.layout entry code
  | .alt a b, next, code =>
    let (first, code) := a.layout next code
    let (second, code) := b.layout next code
    code.emit (.split first second)
  | .iterate body least most greedy, next, code =>
    let part : Layout := body.layout
    match most with
    | some most =>
      let (entry, code) := Layout.upTo part greedy (most - least) next code
      Layout.times part least entry code
    | none =>
      match least with
      | 0 => Layout.anyTimes part body.nullable greedy next code
      | least + 1 =>
        let (entry, _, code) := Layout.onceOrMore part greedy next code
        Layout.times part least entry code

/-- A pattern made ready for searching. -/
structure Program where
  code : Code
  /-- The instruction to begin with. -/
  start : Nat
  /-- How many groups the pattern captures. -/
  groups : Nat
  deriving DecidableEq, Repr

/-- The program of a pattern. -/
def Program.ofNode (n : Node) : Program :=
  let (start, code) := n.layout 0 #[.accept]
  { code, start, groups := n.groups }

end Gherkin.Pattern
