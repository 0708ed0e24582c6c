import Gherkin.Text.Basic

/-!
# Colours on the console

Text is painted with escape sequences, one before it that switches a style on and one after it that
switches all styles off. Painting is off at first; of the policies applied the last one that is not
`auto` decides.
-/

namespace Gherkin

/-- A policy on colours. -/
inductive ColorPolicy where
  /-- Leaves it as it is. -/
  | auto
  | always
  | never
  deriving DecidableEq, Repr

namespace ColorPolicy

/-- The policy of a name, in any case. -/
def read? (name : Text) : Option ColorPolicy :=
  let name := name.map Char.toLower
  if name = "auto".toList then some auto
  else if name = "always".toList then some always
  else if name = "never".toList then some never
  else none

/-- What is said of a name that is no policy. -/
def unknownMessage : Text := "possible options: auto, always, never".toList

end ColorPolicy

/-- What a piece of output is about, which decides how it is painted. -/
inductive Style where
  | ok
  | skipped
  | err
  | header
  | bold
  deriving DecidableEq, Repr

/-- The number that switches the style on: green, cyan, red, blue, bold. -/
def Style.code : Style → Text
  | ok => ['3', '2']
  | skipped => ['3', '6']
  | err => ['3', '1']
  | header => ['3', '4']
  | bold => ['1']

/-- The escape sequence of a number. -/
def escapeSequence (code : Text) : Text := ['\x1b', '['] ++ code ++ ['m']

/-- Whether output is painted. -/
structure Palette where
  painting : Bool := false
  deriving DecidableEq, Repr

namespace Palette

/-- Applies a policy. -/
def apply (s : Palette) : ColorPolicy → Palette
  | .auto => s
  | .always => { painting := true }
  | .never => { painting := false }

/-- The text in a style. -/
def paint (s : Palette) (style : Style) (t : Text) : Text :=
  if s.painting then escapeSequence style.code ++ t ++ escapeSequence ['0'] else t

theorem paint_of_not_painting {s : Palette} (h : s.painting = false) (style : Style) (t : Text) :
    s.paint style t = t := by
  simp [paint, h]

end Palette

end Gherkin
