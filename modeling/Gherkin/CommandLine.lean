import Gherkin.Console.Style
import Gherkin.Pattern.Basic

/-!
# The command line

Options are read from left to right. An option that takes a value takes what is attached to it, or
else the next argument unless that is an option itself; such a value is only read when the next
option is met or the arguments end. Short options can be written together. Only `-v` may be
repeated, and there are no arguments besides options.
-/

namespace Gherkin

/-- What the command line chooses. -/
structure CommandLine where
  /-- Only scenarios whose names match. -/
  nameFilter : Option Pattern := none
  failFast : Bool := false
  lint : Bool := false
  verbosity : Nat := 0
  coloring : ColorPolicy := .auto
  deriving DecidableEq, Repr

namespace CommandLine

/-- Why arguments are refused. -/
inductive Refusal where
  /-- The argument is no option. -/
  | unknownArgument
  /-- A value is missing. -/
  | invalidValue
  /-- A value cannot be read. -/
  | valueValidation
  /-- An option is given twice. -/
  | argumentConflict
  /-- An option has a value but takes none. -/
  | tooManyValues
  | displayHelp
  deriving DecidableEq, Repr

/-- The options. -/
inductive Flag where
  | name
  | failFast
  | lint
  | verbose
  | color
  | help
  deriving DecidableEq, Repr

/-- Whether the option takes a value. -/
def Flag.takesValue : Flag → Bool
  | name | color => true
  | failFast | lint | verbose | help => false

/-- The option of a long name. -/
def Flag.ofLong? (name : Text) : Option Flag :=
  if name = "name".toList ∨ name = "scenario-name".toList then some .name
  else if name = "fail-fast".toList ∨ name = "ff".toList then some .failFast
  else if name = "lint".toList then some .lint
  else if name = "color".toList then some .color
  else if name = "help".toList then some .help
  else none

/-- The option of a letter. -/
def Flag.ofShort? : Char → Option Flag
  | 'n' => some .name
  | 'v' => some .verbose
  | 'h' => some .help
  | _ => none

/-- How far the arguments have been read. -/
structure Progress where
  chosen : CommandLine := {}
  /-- The options given so far. -/
  given : List Flag := []
  /-- The option whose value is next, or whose value has not been read yet. -/
  pending : Option (Flag × Option Text) := none

/-- Notes that an option is given, which only `-v` may be twice. -/
def Progress.give (p : Progress) (flag : Flag) : Except Refusal Progress :=
  if flag ∈ p.given then .error .argumentConflict else .ok { p with given := flag :: p.given }

/-- Gives an option the value attached to it or taken for it. -/
def Progress.setValue (p : Progress) (flag : Flag) (value : Text) : Except Refusal Progress := do
  let p ← p.give flag
  match flag with
  | .name =>
    match Pattern.ofText? value with
    | some pattern => .ok { p with chosen := { p.chosen with nameFilter := some pattern } }
    | none => .error .valueValidation
  | .color =>
    match ColorPolicy.read? value with
    | some coloring => .ok { p with chosen := { p.chosen with coloring } }
    | none => .error .valueValidation
  | .failFast | .lint | .verbose | .help => .ok p

/-- Reads the pending value. -/
def Progress.settle (p : Progress) : Except Refusal Progress :=
  match p.pending with
  | none => .ok p
  | some (_, none) => .error .invalidValue
  | some (flag, some value) => { p with pending := none }.setValue flag value

/-- Gives an option that takes no value. The count of `-v` stops at 255. -/
def Progress.setFlag (p : Progress) (flag : Flag) : Except Refusal Progress := do
  let p ← p.settle
  match flag with
  | .failFast =>
    let p ← p.give flag
    .ok { p with chosen := { p.chosen with failFast := true } }
  | .lint =>
    let p ← p.give flag
    .ok { p with chosen := { p.chosen with lint := true } }
  | .verbose =>
    .ok { p with chosen := { p.chosen with verbosity := min 255 (p.chosen.verbosity + 1) } }
  | .help => .error .displayHelp
  | .name | .color => .ok p

/-- Gives an option that takes a value, which is attached or yet to come. -/
def Progress.setOption (p : Progress) (flag : Flag) (attached : Option Text) :
    Except Refusal Progress := do
  let p ← p.settle
  match attached with
  | some value => p.setValue flag value
  | none => .ok { p with pending := some (flag, none) }

/-- Reads short options written together. The first that takes a value takes the rest as its value,
an equals sign apart. -/
def Progress.readShort (p : Progress) : Text → Except Refusal Progress
  | [] => .ok p
  | c :: rest =>
    match Flag.ofShort? c with
    | none => .error .unknownArgument
    | some flag =>
      if flag.takesValue then
        match rest with
        | [] => p.setOption flag none
        | '=' :: value => p.setOption flag (some value)
        | value => p.setOption flag (some value)
      else do
        let p ← p.setFlag flag
        readShort p rest

/-- Reads a long option, which is written without its hyphens here. -/
def Progress.readLong (p : Progress) (t : Text) : Except Refusal Progress :=
  let name := t.takeWhile (· != '=')
  let attached := (t.drop name.length).tail?
  match Flag.ofLong? name with
  | none => .error .unknownArgument
  | some flag =>
    if flag.takesValue then p.setOption flag attached
    else if attached.isSome then .error .tooManyValues
    else p.setFlag flag

/-- Reads an argument that is no option: the value of the option before it, if that waits for
one. -/
def Progress.readPlain (p : Progress) (t : Text) : Except Refusal Progress :=
  match p.pending with
  | some (flag, none) => .ok { p with pending := some (flag, some t) }
  | _ => .error .unknownArgument

/-- Reads the arguments to their end. After two hyphens there may be no more. -/
def Progress.read (p : Progress) : List Text → Except Refusal Progress
  | [] => p.settle
  | ['-', '-'] :: [] => p.settle
  | ['-', '-'] :: _ :: _ => .error .unknownArgument
  | ('-' :: '-' :: name) :: rest => do
    let p ← p.readLong name
    p.read rest
  | ['-'] :: rest => do
    let p ← p.readPlain ['-']
    p.read rest
  | ('-' :: letters) :: rest => do
    let p ← p.readShort letters
    p.read rest
  | plain :: rest => do
    let p ← p.readPlain plain
    p.read rest

/-- What the arguments choose. -/
def parse (arguments : List Text) : Except Refusal CommandLine :=
  (Progress.read {} arguments).map (·.chosen)

end CommandLine

end Gherkin
