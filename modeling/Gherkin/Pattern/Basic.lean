import Gherkin.Pattern.Reader
import Gherkin.Pattern.Search

/-!
# Patterns

A pattern is known by its text: two patterns are the same when they are written the same, whatever
they match, and they are ordered by their texts.
-/

namespace Gherkin

/-- A pattern with the program that searches for it. -/
structure Pattern where
  /-- The pattern as written. -/
  source : Text
  program : Pattern.Program
  deriving DecidableEq, Repr

namespace Pattern

/-- The pattern written as the text, if it is one. -/
def ofText? (source : Text) : Option Pattern :=
  (Node.read? source).map fun n => { source, program := .ofNode n }

/-- The order of patterns. -/
def le (a b : Pattern) : Bool := Text.le a.source b.source

/-- Whether the pattern matches somewhere in the text. -/
def isMatch (p : Pattern) (t : Text) : Bool := p.program.isMatch t

/-- What the groups of the pattern capture, in the order of their opening parentheses; a group that
takes no part in the match captures the empty text. -/
def captures? (p : Pattern) (t : Text) : Option (List Text) := p.program.captures? t

end Pattern

end Gherkin
