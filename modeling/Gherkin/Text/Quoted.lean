import Gherkin.Text.Basic
import Gherkin.Unicode.Property

/-!
# Quoted texts

A text in quotes shows every character that can be shown as it is. The quote and the backslash are
escaped with a backslash, and so are the tab and the line ends; characters that leave no mark of
their own, or that combine with the one before them, are shown by their code points in braces.
-/

namespace Gherkin.Text

open Unicode in
/-- Whether a character extends the one before it. -/
def isExtending (n : Nat) : Bool :=
  Ranges.contains CategoryTable.nonspacingMark n || Ranges.contains CategoryTable.enclosingMark n
    || Ranges.contains Property.otherExtending n

open Unicode in
/-- Whether a character leaves a mark of its own: it is assigned, no control or format character,
not for private use, and no separator but the space. -/
def isPrintable (n : Nat) : Bool :=
  n == 0x20
    || (Property.letters ++ Property.marks ++ Property.numbers ++ Property.punctuation
          ++ Property.symbols).any (·.contains n)

/-- A code point in lower case hexadecimal digits. -/
def hex (n : Nat) : Text := Nat.toDigits 16 n

/-- A character as it stands in quotes. -/
def escapeChar (c : Char) : Text :=
  if c = '\x00' then ['\\', '0']
  else if c = '\t' then ['\\', 't']
  else if c = '\r' then ['\\', 'r']
  else if c = '\n' then ['\\', 'n']
  else if c = '"' ∨ c = '\\' then ['\\', c]
  else if (0x20 ≤ c.toNat ∧ c.toNat < 0x7F)
      ∨ (!isExtending c.toNat && isPrintable c.toNat) then [c]
  else ['\\', 'u', '\x7b'] ++ hex c.toNat ++ ['\x7d']

/-- The text in quotes. -/
def quoted (t : Text) : Text := ['"'] ++ t.flatMap escapeChar ++ ['"']

end Gherkin.Text
