import Gherkin.Step.Location

/-!
# Annotated listings

A listing is a copy of a feature's lines, each with its number, its indentation, and a remark where
there is something to say: where the step of the line was registered, or what is wrong with it. In
the rendered table all notes begin in one column, to the right of every line, and the further lines
of a remark are indented to where its text begins.
-/

namespace Gherkin

/-- What a listing says about a line. -/
inductive Remark where
  | matched (location : Location)
  | failed (message : Text)
  deriving DecidableEq, Repr

namespace Remark

/-- Whether the remark tells of something wrong. -/
def isFault : Remark → Bool
  | matched _ => false
  | failed _ => true

/-- The remark as shown: a check mark and the location, or a cross and the message. -/
def display : Remark → Text
  | matched location => '✔' :: ' ' :: location.display
  | failed message => '✘' :: ' ' :: message

end Remark

/-- A line of a listing. -/
structure ListedLine where
  number : Nat
  /-- How many white space characters the line begins with. -/
  indent : Nat
  /-- The line, trimmed. -/
  text : Text
  remark : Option Remark
  deriving DecidableEq, Repr

namespace ListedLine

/-- The line with its indentation, in spaces. -/
def source (l : ListedLine) : Text := Text.spaces l.indent ++ l.text

/-- How many columns the line takes. -/
def width (l : ListedLine) : Nat := l.indent + l.text.length

theorem length_source (l : ListedLine) : l.source.length = l.width := by
  simp [source, width, Text.spaces]

end ListedLine

/-- A text filled up with spaces to a width. -/
def Text.padEnd (width : Nat) (t : Text) : Text := t ++ Text.spaces (width - t.length)

/-- The lines of a feature in order, as far as they were read. -/
structure Listing where
  lines : List ListedLine := []
  deriving DecidableEq, Repr

namespace Listing

/-- The line of the given number. -/
def line? (l : Listing) (number : Nat) : Option ListedLine :=
  l.lines.find? fun line => line.number = number

/-- The lines whose remarks tell of something wrong. -/
def failures (l : Listing) : List ListedLine :=
  l.lines.filter fun line => line.remark.any Remark.isFault

/-- How many columns the longest line takes. -/
def width (l : Listing) : Nat := (l.lines.map ListedLine.width).foldr max 0

/-- The listing with one more line. -/
def push (l : Listing) (line : ListedLine) : Listing := { lines := l.lines ++ [line] }

/-- The lines with a remark put on the first that has the number. -/
def annotateLines (number : Nat) (remark : Remark) : List ListedLine → List ListedLine
  | [] => []
  | line :: rest =>
    if line.number = number then { line with remark := some remark } :: rest
    else line :: annotateLines number remark rest

/-- The listing with a remark put on the line of the given number. -/
def annotate (l : Listing) (number : Nat) (remark : Remark) : Listing :=
  { lines := annotateLines number remark l.lines }

@[simp] theorem lines_push (l : Listing) (line : ListedLine) :
    (l.push line).lines = l.lines ++ [line] := rfl

/-- One line of the table, in which lines take up to `width` columns. -/
def row (width : Nat) (line : ListedLine) : Text :=
  match line.remark with
  | none => Text.trimEnd line.source
  | some remark =>
    Text.padEnd width line.source ++ Text.spaces 2
      ++ Text.replace '\n' ('\n' :: Text.spaces (width + 4)) remark.display

/-- The listing as a table. -/
def display (l : Listing) : Text := Text.join ['\n'] (l.lines.map (row l.width))

end Listing

end Gherkin
