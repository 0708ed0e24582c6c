import Gherkin.Pattern.Reader.Class

/-!
# Reading a pattern

The reader walks once over the text of a pattern with a stack of open groups. What is open at one
level is a choice whose last part is still growing; a group that closes becomes one item of the
level around it.

`Node.written?` is the tree of what is written, and `Node.read?` that of what is searched for. They
answer `none` for a text that is no pattern: brackets or groups that do not match, a repetition of
nothing, an escape or class that has no meaning, flags that are unknown or repeated, two groups of
one name, or nesting beyond `maxDepth`; and `Node.read?` also for a pattern that would take too much
space.
-/

namespace Gherkin.Pattern

namespace Reader

/-- How deep a pattern may be nested. -/
def maxDepth : Nat := 250

/-- How many bytes a search may take up, by `Node.cost`. -/
def maxCost : Nat := 10485760

/-- How many bytes a search takes up besides, to begin at any place, to note where the match begins
and ends, and to end with it. -/
def fixedCost : Nat := 168

/-- A part of a sequence. -/
structure Item where
  node : Node
  /-- The height of the expression that the part was read from. -/
  depth : Nat
  /-- Whether a repetition may follow; it may not follow a change of flags. -/
  repeatable : Bool := true

/-- A choice that is still open. -/
structure OpenChoice where
  /-- The finished parts, the latest first. -/
  done : List Item
  /-- The items of the part being read, the latest first. -/
  items : List Item

/-- The part that the items make up. -/
def Item.ofSequence (items : List Item) : Item :=
  match items with
  | [] => { node := .empty, depth := 0 }
  | [item] => item
  | items =>
    { node := .sequence (items.reverse.map (·.node))
      depth := 1 + (items.map (·.depth)).foldl max 0 }

/-- Ends the part being read and begins the next. -/
def OpenChoice.next (level : OpenChoice) : OpenChoice :=
  { done := Item.ofSequence level.items :: level.done, items := [] }

/-- The choice as a whole. -/
def OpenChoice.close (level : OpenChoice) : Item :=
  match level.done with
  | [] => Item.ofSequence level.items
  | done =>
    let parts := Item.ofSequence level.items :: done
    { node := .choice (parts.reverse.map (·.node))
      depth := 1 + (parts.map (·.depth)).foldl max 0 }

/-- An open group: the level around it, the flags to return to, and its number if it captures. -/
structure OpenGroup where
  around : OpenChoice
  flags : Flags
  number : Option Nat

/-- How far the reader has come. -/
structure State where
  flags : Flags := {}
  level : OpenChoice := ⟨[], []⟩
  /-- The open groups, the innermost first. -/
  outer : List OpenGroup := []
  /-- How many capturing groups have been opened. -/
  groups : Nat := 0
  /-- The names of groups so far. -/
  names : List Text := []

/-- The state with one more item in the part being read. -/
def State.push (st : State) (item : Item) : State :=
  { st with level := { st.level with items := item :: st.level.items } }

/-- Whether the character may stand in the name of a group, `first` if it begins it. -/
def isNameChar (first : Bool) (c : Char) : Bool :=
  let inTables (ts : List Unicode.Ranges) := ts.any (·.contains c.toNat)
  c == '_' || inTables Unicode.Property.alphabetic
    || (!first && (c == '.' || c == '[' || c == ']' || inTables Unicode.Property.numbers))

/-- The name of a group up to its closing angle bracket. -/
def groupName? (s : Text) : Option (Text × Text) :=
  let name := s.takeWhile (· != '>')
  match name, s.drop name.length with
  | c :: cs, '>' :: rest =>
    if isNameChar true c && cs.all (isNameChar false) then some (c :: cs, rest) else none
  | _, _ => none

/-- Switches the flag of the given letter. -/
def Flags.set? (flags : Flags) (letter : Char) (value : Bool) : Option Flags :=
  match letter with
  | 'i' => some { flags with ignoreCase := value }
  | 'm' => some { flags with multiLine := value }
  | 's' => some { flags with dotAll := value }
  | 'U' => some { flags with swapGreed := value }
  | 'u' => some { flags with unicode := value }
  | 'R' => some { flags with crlf := value }
  | 'x' => some { flags with extended := value }
  | _ => none

/-- Reads letters of flags up to a colon or a closing parenthesis, which stays in the rest. Letters
after a hyphen switch their flag off. No letter and no hyphen may stand twice, and a hyphen must be
followed by a letter. `seen` are the characters so far, the latest first. -/
def groupFlags (flags : Flags) (seen : Text) : Text → Option (Flags × Text × Text)
  | [] => none
  | c :: rest =>
    if c = ':' ∨ c = ')' then
      if seen.head? = some '-' then none else some (flags, seen, c :: rest)
    else if c ∈ seen then none
    else if c = '-' then groupFlags flags (c :: seen) rest
    else
      match Flags.set? flags c (!seen.contains '-') with
      | none => none
      | some flags => groupFlags flags (c :: seen) rest

/-- Opens a group within the state. -/
def State.open (st : State) (number : Option Nat) (flags : Flags) : State :=
  { st with
    flags
    level := ⟨[], []⟩
    outer := ⟨st.level, st.flags, number⟩ :: st.outer
    groups := number.getD st.groups }

/-- Reads what follows an opening parenthesis: the head of a group, or a change of flags that holds
to the end of the level. -/
def State.parenthesis (st : State) (s : Text) : Option (State × Text) :=
  let named (rest : Text) : Option (State × Text) := do
    let (name, rest) ← groupName? rest
    if name ∈ st.names then none
    else some ({ st with names := name :: st.names }.open (some (st.groups + 1)) st.flags, rest)
  match skip st.flags s with
  | '?' :: 'P' :: '<' :: rest => named rest
  | '?' :: '<' :: '=' :: _ => none
  | '?' :: '<' :: '!' :: _ => none
  | '?' :: '<' :: rest => named rest
  | '?' :: rest => do
    let (flags, letters, rest) ← groupFlags st.flags [] rest
    match rest with
    | ':' :: rest => some (st.open none flags, rest)
    | ')' :: rest =>
      if letters = [] then none
      else some ({ st with flags }.push { node := .empty, depth := 0, repeatable := false }, rest)
    | _ => none
  | rest => some (st.open (some (st.groups + 1)) st.flags, rest)

/-- Closes the innermost group. -/
def State.close (st : State) : Option State :=
  match st.outer with
  | [] => none
  | group :: outer =>
    let body := st.level.close
    let node :=
      match group.number with
      | some n => Node.group n body.node
      | none => body.node
    some ({ st with flags := group.flags, level := group.around, outer }.push
      { node, depth := 1 + body.depth })

/-- Repeats the latest item. A question mark directly after the operator makes it lazy. -/
def State.repetition (st : State) (least : Nat) (most : Option Nat) (s : Text) :
    Option (State × Text) :=
  match st.level.items with
  | [] => none
  | item :: items =>
    if !item.repeatable then none
    else
      let (lazy, rest) :=
        match s with
        | '?' :: rest => (true, rest)
        | _ => (false, s)
      let node := Node.iterate item.node least most (lazy == st.flags.swapGreed)
      some ({ st with level := { st.level with items } }.push { node, depth := 1 + item.depth },
        rest)

/-- Decimal digits, between which blanks and comments are skipped if the flags say so. -/
def digits (flags : Flags) : (fuel : Nat) → Text → Text × Text
  | 0, s => ([], s)
  | _ + 1, [] => ([], [])
  | fuel + 1, c :: rest =>
    if c.isDigit then
      let (ds, rest) := digits flags fuel (skip flags rest)
      (c :: ds, rest)
    else ([], c :: rest)

/-- A count of at most 32 bits, with blanks around it. -/
def count? (flags : Flags) (s : Text) : Option (Nat × Text) :=
  let s := s.dropWhile isBlank
  let (ds, rest) := digits flags s.length s
  let n := ds.foldl (fun n d => 10 * n + (d.toNat - 0x30)) 0
  if ds = [] ∨ n > 0xFFFFFFFF then none else some (n, skip flags (rest.dropWhile isBlank))

/-- The bounds of a repetition, read after the opening brace to after the closing one. -/
def bounds? (flags : Flags) (s : Text) : Option (Nat × Option Nat × Text) := do
  let (least, rest) ← count? flags (skip flags s)
  match rest with
  | '\x7d' :: rest => some (least, some least, skip flags rest)
  | ',' :: rest =>
    match skip flags rest with
    | '\x7d' :: rest => some (least, none, skip flags rest)
    | rest => do
      let (most, rest) ← count? flags rest
      match rest with
      | '\x7d' :: rest => if least ≤ most then some (least, some most, skip flags rest) else none
      | _ => none
  | _ => none

/-- The node of a character that stands for itself. -/
def literal (flags : Flags) (c : Char) : Node := .one (folded flags (.singleton c))

/-- The node of a dot. -/
def dot? (flags : Flags) : Option Node :=
  if !flags.unicode then none
  else if flags.dotAll then some (.one .any)
  else if flags.crlf then some (.one (.compl (.ranges [(0xA, 0xA), (0xD, 0xD)])))
  else some (.one (.compl (.singleton '\n')))

/-- The assertion of a caret. -/
def caret (flags : Flags) : Assertion :=
  if !flags.multiLine then .textStart
  else if flags.crlf then .lineStartCrlf else .lineStart

/-- The assertion of a dollar sign. -/
def dollar (flags : Flags) : Assertion :=
  if !flags.multiLine then .textEnd
  else if flags.crlf then .lineEndCrlf else .lineEnd

/-- The node of an escape. -/
def Escaped.node? (flags : Flags) : Escaped → Option Node
  | .char c => some (literal flags c)
  | .set s => if isAllowed flags s then some (.one s) else none
  | .assertion a => some (.assertion a)

/-- Reads one item, operator or bracket. -/
def State.step (st : State) (c : Char) (rest : Text) : Option (State × Text) :=
  let leaf (node : Node) (rest : Text) : Option (State × Text) :=
    some (st.push { node, depth := 0 }, rest)
  match c with
  | '(' => st.parenthesis rest
  | ')' => st.close.map fun st => (st, rest)
  | '|' => some ({ st with level := st.level.next }, rest)
  | '[' => do
    let (closed, rest) ← bracketed st.flags rest
    some (st.push { node := .one closed.set, depth := closed.depth }, rest)
  | '?' => st.repetition 0 (some 1) rest
  | '*' => st.repetition 0 none rest
  | '+' => st.repetition 1 none rest
  | '\x7b' => do
    let (least, most, rest) ← bounds? st.flags rest
    st.repetition least most rest
  | '\\' => do
    let (escaped, rest) ← escape st.flags rest
    let node ← escaped.node? st.flags
    leaf node rest
  | '.' => do leaf (← dot? st.flags) rest
  | '^' => leaf (.assertion (caret st.flags)) rest
  | '$' => leaf (.assertion (dollar st.flags)) rest
  | c => leaf (literal st.flags c) rest

/-- Reads to the end of the text. Each round takes a character at least, so `fuel` may be the
length of the text. -/
def State.run : (fuel : Nat) → State → Text → Option State
  | 0, _, _ => none
  | fuel + 1, st, s =>
    match skip st.flags s with
    | [] => some st
    | c :: rest =>
      match st.step c rest with
      | none => none
      | some (st, rest) => State.run fuel st rest

end Reader

/-- The pattern as it is written, if the text is one. -/
def Node.written? (source : Text) : Option Node := do
  let st ← Reader.State.run (source.length + 1) {} source
  if !st.outer.isEmpty then none
  else
    let whole := st.level.close
    if whole.depth ≤ Reader.maxDepth then some whole.node else none

/-- The pattern that a text is, if it is one, simplified and not too large. -/
def Node.read? (source : Text) : Option Node := do
  let written ← Node.written? source
  if Reader.fixedCost + written.simplified.cost ≤ Reader.maxCost then some written.simplified
  else none

end Gherkin.Pattern
