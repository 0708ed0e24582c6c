import Gherkin.Text.Basic

/-!
# The kinds of lines

A line of a feature, trimmed, is recognised by how it begins. A declaration is its keyword and a
colon; `Scenario`, optionally followed by `Outline`, does without the colon where white space or
the end of the line follows. A step is a keyword as a whole word. Everything else is of no known
kind and is named by its first word.
-/

namespace Gherkin

/-- The keywords of steps. -/
inductive Keyword where
  | given
  | when
  | then
  deriving DecidableEq, Repr

/-- A keyword as it is written. -/
def Keyword.display : Keyword → Text
  | .given => "Given".toList
  | .when => "When".toList
  | .then => "Then".toList

/-- What a line is. Names and texts are trimmed. -/
inductive LineKind where
  | blank
  | comment
  /-- Begins or ends a doc string. -/
  | delimiter
  | feature (name : Text)
  | background (name : Text)
  | scenario (name : Text)
  | examples
  | step (keyword : Keyword) (text : Text)
  /-- A step that takes the keyword of the one before it. -/
  | conjunction (text : Text)
  | other (word : Text)
  deriving DecidableEq, Repr

namespace LineKind

/-- Three quotes, which begin and end a doc string. -/
def quotes : Text := ['"', '"', '"']

/-- The rest of a line after one colon or one white space character, or at the end of the line. -/
def afterBreak? : Text → Option Text
  | [] => some []
  | c :: rest => if c = ':' ∨ isBlank c then some (Text.trim rest) else none

/-- The rest of a line after white space and the word `Outline`. -/
def afterOutline? : Text → Option Text
  | [] => none
  | c :: rest =>
    if isBlank c then Text.after? "Outline".toList (Text.trimStart rest) else none

/-- The name of a scenario, if the line declares one. `Outline` belongs to the keyword only if it
is followed as the keyword must be; otherwise it is the beginning of the name. -/
def scenarioName? (line : Text) : Option Text := do
  let rest ← Text.after? "Scenario".toList line
  ((afterOutline? rest).bind afterBreak?) <|> afterBreak? rest

/-- What follows a word, if it stands as a whole word at the beginning of the line. -/
def afterWord? (word line : Text) : Option Text := do
  match ← Text.after? word line with
  | [] => some []
  | c :: rest => if isBlank c then some (Text.trimStart rest) else none

/-- The step that a line is, if it is one. -/
def step? (line : Text) : Option LineKind :=
  ((afterWord? "Given".toList line).map (.step .given))
    <|> ((afterWord? "When".toList line).map (.step .when))
    <|> ((afterWord? "Then".toList line).map (.step .then))
    <|> ((afterWord? "And".toList line).map .conjunction)

/-- What a trimmed line is. -/
def ofLine (line : Text) : LineKind :=
  if line = [] then .blank
  else if (Text.after? quotes line).isSome then .delimiter
  else if line.head? = some '#' then .comment
  else
    match Text.after? "Feature:".toList line with
    | some rest => .feature (Text.trim rest)
    | none =>
      match Text.after? "Background:".toList line with
      | some rest => .background (Text.trim rest)
      | none =>
        match scenarioName? line with
        | some name => .scenario name
        | none =>
          if (Text.after? "Examples:".toList line).isSome then .examples
          else (step? line).getD (.other (Text.firstWord line))

end LineKind

end Gherkin
