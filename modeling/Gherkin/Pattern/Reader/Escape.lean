import Gherkin.Pattern.ClassName
import Gherkin.Pattern.Syntax

/-!
# Reading what follows a backslash

An escape stands for a character, for a class of characters, or for an assertion. Reading one also
needs the flags in force: they decide which tables a class refers to, whether case counts, and
whether blanks and comments are skipped.

Every reader here takes the rest of the pattern and answers with what it read and what is left;
`none` says that the pattern is not one.
-/

namespace Gherkin.Pattern

/-- The modes that a pattern can switch while it is read. -/
structure Flags where
  /-- `i`: letters match without regard to case. -/
  ignoreCase : Bool := false
  /-- `m`: `^` and `$` hold at the ends of lines too. -/
  multiLine : Bool := false
  /-- `s`: `.` matches line ends too. -/
  dotAll : Bool := false
  /-- `U`: repetitions are lazy, and greedy when followed by `?`. -/
  swapGreed : Bool := false
  /-- `u`: classes are those of Unicode, not of ASCII. -/
  unicode : Bool := true
  /-- `R`: a carriage return ends a line as well. -/
  crlf : Bool := false
  /-- `x`: blanks and comments in the pattern do not count. -/
  extended : Bool := false

namespace Reader

/-- Skips blanks, and comments from `#` to the end of the line; `comment` says whether the reader
stands inside one. -/
def skipLayout (comment : Bool) : Text → Text
  | [] => []
  | c :: rest =>
    if comment then skipLayout (c != '\n') rest
    else if isBlank c then skipLayout false rest
    else if c = '#' then skipLayout true rest
    else c :: rest

/-- Skips what does not count under the flags. -/
def skip (flags : Flags) (s : Text) : Text :=
  if flags.extended then skipLayout false s else s

/-- The value of a hexadecimal digit. -/
def hexDigit? (c : Char) : Option Nat :=
  if '0' ≤ c ∧ c ≤ '9' then some (c.toNat - 0x30)
  else if 'a' ≤ c ∧ c ≤ 'f' then some (c.toNat - 0x57)
  else if 'A' ≤ c ∧ c ≤ 'F' then some (c.toNat - 0x37)
  else none

/-- The character of a code point; surrogates and numbers beyond the last code point have none. -/
def character? (n : Nat) : Option Char :=
  if h : n.isValidChar then some (Char.ofNatAux n h) else none

/-- Exactly `count` hexadecimal digits, read into `value`. -/
def hexDigits (flags : Flags) : (count : Nat) → (value : Nat) → Text → Option (Nat × Text)
  | 0, value, s => some (value, s)
  | _ + 1, _, [] => none
  | count + 1, value, c :: rest => do
    let d ← hexDigit? c
    hexDigits flags count (16 * value + d) (skip flags rest)

/-- Hexadecimal digits up to a closing brace. Every digit read shortens the rest, so `fuel` may be
the length of it. -/
def hexBraced (flags : Flags) : (fuel : Nat) → (digits value : Nat) → Text → Option (Nat × Text)
  | 0, _, _, _ => none
  | _ + 1, _, _, [] => none
  | fuel + 1, digits, value, c :: rest =>
    if c = '\x7d' then
      if digits = 0 ∨ value > 0xFFFFFFFF then none else some (value, skip flags rest)
    else do
      let d ← hexDigit? c
      hexBraced flags fuel (digits + 1) (16 * value + d) (skip flags rest)

/-- What an escape stands for. -/
inductive Escaped where
  | char (c : Char)
  | set (s : CharSet)
  | assertion (a : Assertion)

/-- The characters of a set under the flags: its variants too if case does not count. -/
def folded (flags : Flags) (s : CharSet) : CharSet :=
  if flags.ignoreCase then
    if flags.unicode then .anyCase s else .anyCaseAscii s
  else s

/-- A character given by its code point: two, four or eight digits by the letter that introduces
them, or any number of digits in braces. Outside Unicode mode two digits name a byte, and a byte
beyond ASCII is no character. -/
def hexEscape (flags : Flags) (width : Nat) (s : Text) : Option (Escaped × Text) :=
  match skip flags s with
  | [] => none
  | c :: rest =>
    if c = '\x7b' then do
      let (n, rest) ← hexBraced flags (rest.length + 1) 0 0 (skip flags rest)
      let ch ← character? n
      some (.char ch, rest)
    else do
      let (n, rest) ← hexDigits flags width 0 (c :: rest)
      let ch ← character? n
      if width = 2 ∧ !flags.unicode ∧ n ≥ 0x80 then none else some (.char ch, rest)

/-- Where `sep` first stands in a text: what is before it and what is after it. -/
def cut? (sep : Text) : Text → Option (Text × Text)
  | [] => if sep = [] then some ([], []) else none
  | c :: rest =>
    match Text.after? sep (c :: rest) with
    | some after => some ([], after)
    | none => (cut? sep rest).map fun (before, after) => (c :: before, after)

/-- The class a name in braces stands for: `name`, `name=value`, `name:value`, or the complement
of the latter, `name!=value`. -/
def namedClass? (name : Text) : Option CharSet :=
  match cut? ['!', '='] name with
  | some (property, value) => (ClassName.unicodeValue? property value).map .compl
  | none =>
    match cut? [':'] name with
    | some (property, value) => ClassName.unicodeValue? property value
    | none =>
      match cut? ['='] name with
      | some (property, value) => ClassName.unicodeValue? property value
      | none => ClassName.unicode? name

/-- Characters up to a closing brace. -/
def braced (flags : Flags) : (fuel : Nat) → (name : Text) → Text → Option (Text × Text)
  | 0, _, _ => none
  | _ + 1, _, [] => none
  | fuel + 1, name, c :: rest =>
    if c = '\x7d' then some (name.reverse, rest)
    else braced flags fuel (c :: name) (skip flags rest)

/-- A class by its property: one letter, or a name in braces. -/
def propertyEscape (flags : Flags) (negated : Bool) (s : Text) : Option (Escaped × Text) :=
  match skip flags s with
  | [] => none
  | c :: rest =>
    if !flags.unicode then none
    else if c = '\x7b' then do
      let (name, rest) ← braced flags (rest.length + 1) [] (skip flags rest)
      let set ← namedClass? name
      some (.set (.negateIf negated (folded flags set)), rest)
    else if c = '\\' then none
    else do
      let set ← ClassName.unicode? [c]
      some (.set (.negateIf negated (folded flags set)), skip flags rest)

/-- Whether a set may stand in a pattern under the flags. Outside Unicode mode a complement holds
bytes beyond ASCII, which are no characters; such a set is refused. -/
def isAllowed (flags : Flags) (s : CharSet) : Bool := flags.unicode || !s.containsCode 0x80

/-- The word characters under the flags. -/
def wordSet (flags : Flags) : CharSet := if flags.unicode then .word else .asciiWord

/-- A class written with one letter, upper case for its complement. -/
def letterClass (flags : Flags) (c : Char) : CharSet :=
  .negateIf c.isUpper <|
    match c.toLower with
    | 'd' => if flags.unicode then .digit else .asciiDigit
    | 's' => if flags.unicode then .space else .asciiSpace
    | _ => wordSet flags

/-- The name of a word boundary in braces, read up to the closing brace. -/
def boundaryName (flags : Flags) : (fuel : Nat) → (name : Text) → Text → Option (Text × Text)
  | 0, _, _ => none
  | _ + 1, _, [] => none
  | fuel + 1, name, c :: rest =>
    if c = '\x7d' then some (name.reverse, rest)
    else if c.isAlpha ∨ c = '-' then boundaryName flags fuel (c :: name) (skip flags rest)
    else none

/-- A word boundary, which a name in braces narrows down. Braces that do not begin like a name are
left for the repetition that they may be. -/
def boundaryEscape (flags : Flags) (s : Text) : Option (Escaped × Text) :=
  let plain := Escaped.assertion (.wordBoundary (wordSet flags))
  match s with
  | '\x7b' :: rest =>
    match skip flags rest with
    | [] => none
    | c :: rest =>
      if c.isAlpha ∨ c = '-' then do
        let (name, rest) ← boundaryName flags (rest.length + 2) [] (c :: rest)
        let w := wordSet flags
        if name = "start".toList then some (.assertion (.wordStart w), rest)
        else if name = "end".toList then some (.assertion (.wordEnd w), rest)
        else if name = "start-half".toList then some (.assertion (.wordStartHalf w), rest)
        else if name = "end-half".toList then some (.assertion (.wordEndHalf w), rest)
        else none
      else some (plain, s)
  | _ => some (plain, s)

/-- Whether a character may follow a backslash to stand for itself: any ASCII character but
letters, digits and the angle brackets. -/
def isEscapable (c : Char) : Bool :=
  c.toNat < 0x80 && !c.isAlphanum && c != '<' && c != '>'

/-- What follows a backslash. -/
def escape (flags : Flags) : Text → Option (Escaped × Text)
  | [] => none
  | c :: rest =>
    if c = 'x' then hexEscape flags 2 rest
    else if c = 'u' then hexEscape flags 4 rest
    else if c = 'U' then hexEscape flags 8 rest
    else if c = 'p' ∨ c = 'P' then propertyEscape flags (c == 'P') rest
    else if c ∈ ['d', 'D', 's', 'S', 'w', 'W'] then some (.set (letterClass flags c), rest)
    else if isEscapable c then some (.char c, rest)
    else
      let w := wordSet flags
      match c with
      | 'a' => some (.char '\x07', rest)
      | 'f' => some (.char '\x0c', rest)
      | 't' => some (.char '\t', rest)
      | 'n' => some (.char '\n', rest)
      | 'r' => some (.char '\r', rest)
      | 'v' => some (.char '\x0b', rest)
      | 'A' => some (.assertion .textStart, rest)
      | 'z' => some (.assertion .textEnd, rest)
      | 'b' => boundaryEscape flags rest
      | 'B' => some (.assertion (.notWordBoundary w), rest)
      | '<' => some (.assertion (.wordStart w), rest)
      | '>' => some (.assertion (.wordEnd w), rest)
      | _ => none

end Reader

end Gherkin.Pattern
