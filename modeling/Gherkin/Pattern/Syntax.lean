import Gherkin.Pattern.CharSet

/-!
# Patterns as trees

A pattern is a tree of character sets, assertions and groups, joined by sequence, choice and
repetition. It is first read as it is written. What is searched for is that tree with its
repetitions simplified (`Node.simplified`): a part that is repeated no times vanishes together with
its groups, and a part that can only match the empty text is repeated at most once.
-/

namespace Gherkin.Pattern

/-- A condition on the place between two characters. -/
inductive Assertion where
  | textStart
  | textEnd
  | lineStart
  | lineEnd
  /-- As `lineStart`, where a carriage return, a line feed, or the one before the other ends a
  line. -/
  | lineStartCrlf
  | lineEndCrlf
  | wordBoundary (word : CharSet)
  | notWordBoundary (word : CharSet)
  | wordStart (word : CharSet)
  | wordEnd (word : CharSet)
  /-- No word character stands before the place. -/
  | wordStartHalf (word : CharSet)
  /-- No word character stands after the place. -/
  | wordEndHalf (word : CharSet)
  deriving DecidableEq, Repr

/-- Whether the assertion holds between the two characters, each absent at its end of the text. -/
def Assertion.holds (a : Assertion) (before after : Option Char) : Bool :=
  match a with
  | textStart => before.isNone
  | textEnd => after.isNone
  | lineStart => before.all (· == '\n')
  | lineEnd => after.all (· == '\n')
  | lineStartCrlf => before.all fun c => c == '\n' || (c == '\r' && after != some '\n')
  | lineEndCrlf => after.all fun c => c == '\r' || (c == '\n' && before != some '\r')
  | wordBoundary w => before.any w.contains != after.any w.contains
  | notWordBoundary w => before.any w.contains == after.any w.contains
  | wordStart w => !before.any w.contains && after.any w.contains
  | wordEnd w => before.any w.contains && !after.any w.contains
  | wordStartHalf w => !before.any w.contains
  | wordEndHalf w => !after.any w.contains

/-- A pattern, or a part of one. -/
inductive Node where
  /-- Matches the empty text. -/
  | empty
  /-- Matches one character of the set. -/
  | one (set : CharSet)
  /-- Matches the empty text where the assertion holds. -/
  | assertion (a : Assertion)
  /-- Matches what `body` matches and captures it as the group of this number, from 1. -/
  | group (number : Nat) (body : Node)
  | seq (first second : Node)
  /-- Matches as either part does, the first preferred. -/
  | alt (first second : Node)
  /-- Matches `body` from `least` up to `most` times, or without an upper bound. A greedy
  repetition prefers more rounds, any other fewer. -/
  | iterate (body : Node) (least : Nat) (most : Option Nat) (greedy : Bool)
  deriving DecidableEq, Repr

namespace Node

/-- Whether the node may match the empty text, as far as its shape tells: a set always takes a
character and an assertion never does. -/
def nullable : Node → Bool
  | empty => true
  | one _ => false
  | assertion _ => true
  | group _ body => body.nullable
  | seq a b => a.nullable && b.nullable
  | alt a b => a.nullable || b.nullable
  | .iterate body least _ _ => least == 0 || body.nullable

/-- Whether the node can match nothing but the empty text. -/
def zeroWidth : Node → Bool
  | empty => true
  | one _ => false
  | assertion _ => true
  | group _ body => body.zeroWidth
  | seq a b => a.zeroWidth && b.zeroWidth
  | alt a b => a.zeroWidth && b.zeroWidth
  | .iterate body _ _ _ => body.zeroWidth

/-- The number of the last group in the node, 0 if it has none. -/
def groups : Node → Nat
  | empty | one _ | assertion _ => 0
  | group n body => max n body.groups
  | seq a b => max a.groups b.groups
  | alt a b => max a.groups b.groups
  | .iterate body _ _ _ => body.groups

/-- The repetition of a node. No rounds at all match the empty text, and exactly one round is the
node itself. -/
def rounds (body : Node) (least : Nat) (most : Option Nat) (greedy : Bool) : Node :=
  match least, most with
  | 0, some 0 => empty
  | 1, some 1 => body
  | _, _ => .iterate body least most greedy

/-- The repetition of a node, where what can only match the empty text needs no second round. -/
def repeated (body : Node) (least : Nat) (most : Option Nat) (greedy : Bool) : Node :=
  if body.zeroWidth then body.rounds (min least 1) (some (min (most.getD 1) 1)) greedy
  else body.rounds least most greedy

/-- The node with all its repetitions simplified, the inner ones first. -/
def simplified : Node → Node
  | empty => empty
  | one set => one set
  | assertion a => assertion a
  | group n body => group n body.simplified
  | seq a b => seq a.simplified b.simplified
  | alt a b => alt a.simplified b.simplified
  | .iterate body least most greedy => repeated body.simplified least most greedy

/-- The parts one after another. -/
def sequence : List Node → Node
  | [] => empty
  | [n] => n
  | n :: rest => seq n (sequence rest)

/-- The first of the parts that matches. -/
def choice : List Node → Node
  | [] => empty
  | [n] => n
  | n :: rest => alt n (choice rest)

/-- Whether the node is a choice. -/
def isChoice : Node → Bool
  | alt _ _ => true
  | _ => false

/-- An estimate, in bytes, of what a search keeps for the node once every repetition is written
out. A state takes 32 bytes, and 4 more for each of several states it may go on with. A choice takes
two states, and a choice that is a part of another becomes one with it. -/
def cost : Node → Nat
  | empty => 32
  | one set => set.cost
  | assertion _ => 32
  | group _ body => 64 + body.cost
  | seq a b => a.cost + b.cost
  | alt a b =>
    64 + (if a.isChoice then a.cost - 64 else a.cost + 4)
      + (if b.isChoice then b.cost - 64 else b.cost + 4)
  | .iterate body least most _ =>
    match most with
    | none =>
      if least = 0 ∧ body.nullable then 112 + body.cost else 40 + (max least 1) * body.cost
    | some most =>
      if least = most then least * body.cost
      else 32 + least * body.cost + (most - least) * (40 + body.cost)

end Node

end Gherkin.Pattern
