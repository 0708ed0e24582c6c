import Gherkin.Pattern.Program
import Gherkin.Text.Basic

/-!
# Searching a text for a pattern

All ways to match are followed side by side, one character of the text at a time. A thread is a
place in the program together with what it has captured on the way; threads stand in the order in
which the pattern prefers them, and of two threads at one place only the preferred one lives on.
The match found is therefore the leftmost one, and among those the preferred one.

The work is bounded by the length of the text times the length of the program, whatever the
pattern.
-/

namespace Gherkin.Pattern

/-- The places noted for each slot; group `n` begins at slot `2n - 2` and ends at slot `2n - 1`. -/
abbrev Slots := List (Option Nat)

/-- One of the ways to match that are followed. -/
structure Thread where
  place : Nat
  slots : Slots

namespace Program

/-- Follows threads, the preferred first, to the instructions that take a character. A place once
seen is not entered again. Where a thread accepts, the less preferred ones are dropped.

Every place is entered at most once and adds at most two threads, so `fuel` suffices if it is the
number of threads plus twice the number of instructions, plus one. -/
def follow (p : Program) (before after : Option Char) (position : Nat) :
    (fuel : Nat) → (seen : Array Bool) → List Thread → (ready : List Thread) →
      List Thread × Option Slots
  | 0, _, _, ready => (ready.reverse, none)
  | _ + 1, _, [], ready => (ready.reverse, none)
  | fuel + 1, seen, t :: rest, ready =>
    if seen.getD t.place true then follow p before after position fuel seen rest ready
    else
      let seen := seen.setIfInBounds t.place true
      match p.code[t.place]? with
      | none => follow p before after position fuel seen rest ready
      | some .accept => (ready.reverse, some t.slots)
      | some (.take _ _) => follow p before after position fuel seen rest (t :: ready)
      | some (.split a b) =>
        follow p before after position fuel seen
          ({ t with place := a } :: { t with place := b } :: rest) ready
      | some (.save slot next) =>
        follow p before after position fuel seen
          ({ place := next, slots := t.slots.set slot (some position) } :: rest) ready
      | some (.check a next) =>
        if a.holds before after then
          follow p before after position fuel seen ({ t with place := next } :: rest) ready
        else follow p before after position fuel seen rest ready

/-- The threads that can take the character, after taking it. -/
def advance (p : Program) (c : Char) (threads : List Thread) : List Thread :=
  threads.filterMap fun (t : Thread) =>
    match (p.code[t.place]? : Option Instruction) with
    | some (.take set next) => if set.contains c then some { t with place := next } else none
    | _ => none

/-- The thread that begins a match. -/
def fresh (p : Program) : Thread :=
  { place := p.start, slots := List.replicate (2 * p.groups) none }

/-- Searches the rest of a text from a position, with the threads that are under way. As long as
nothing has been found a new thread begins at each position, less preferred than those before. -/
def searchFrom (p : Program) (position : Nat) (before : Option Char) (threads : List Thread)
    (found : Option Slots) : Text → Option Slots
  | [] =>
    let threads := if found.isNone then threads ++ [p.fresh] else threads
    let (_, accepted) :=
      p.follow before none position (threads.length + 2 * p.code.size + 1)
        (Array.replicate p.code.size false) threads []
    accepted <|> found
  | c :: rest =>
    let threads := if found.isNone then threads ++ [p.fresh] else threads
    let (ready, accepted) :=
      p.follow before (some c) position (threads.length + 2 * p.code.size + 1)
        (Array.replicate p.code.size false) threads []
    let found := accepted <|> found
    let threads := p.advance c ready
    -- nothing is left to follow once a match is found and no thread goes on
    if found.isSome && threads.isEmpty then found
    else searchFrom p (position + 1) (some c) threads found rest

/-- The slots of the match in a text, if there is one. -/
def search (p : Program) (t : Text) : Option Slots := p.searchFrom 0 none [] none t

/-- The part of a text between two noted places; nothing if one is missing. -/
def between (t : Text) : Option Nat → Option Nat → Text
  | some a, some b => (t.drop a).take (b - a)
  | _, _ => []

/-- What each group captured. -/
def captured (t : Text) : Slots → List Text
  | a :: b :: rest => between t a b :: captured t rest
  | _ => []

/-- What the groups of the program capture in a text that it matches. -/
def captures? (p : Program) (t : Text) : Option (List Text) := (p.search t).map (captured t)

/-- Whether the program matches somewhere in the text. -/
def isMatch (p : Program) (t : Text) : Bool := (p.search t).isSome

end Program

end Gherkin.Pattern
