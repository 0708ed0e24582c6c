import Gherkin.Text.Basic

/-!
# Where a step was registered

A location names a place in a source file. It is shown as `path:line:column`, and locations are
ordered by path, then line, then column.
-/

namespace Gherkin

/-- A place in a source file. -/
structure Location where
  path : Text
  line : Nat
  column : Nat
  deriving DecidableEq, Repr

namespace Location

/-- The location as shown beside matched lines. -/
def display (l : Location) : Text :=
  l.path ++ [':'] ++ Text.ofNat l.line ++ [':'] ++ Text.ofNat l.column

/-- The order of locations. -/
def le (a b : Location) : Bool :=
  if a.path = b.path then
    if a.line = b.line then a.column ≤ b.column else a.line < b.line
  else Text.le a.path b.path

end Location

end Gherkin
