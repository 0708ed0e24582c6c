import Gherkin.Feature.Basic
import Gherkin.Feature.Rejection
import Gherkin.Feature.DocString
import Gherkin.Text.Lines

/-!
# Reading a feature

A feature is read line by line. What a line means depends on where it stands, and that is kept as a
stack of modes: the innermost mode decides first. Steps are matched as they are read. The steps of a
background are first read among the other items, and are moved out when the background ends: at a
blank line, at the next scenario, or at the end of the text.

A reading either stops at a line that makes no sense where it stands, or comes to the end. Faults
that only concern single steps are collected on the way; of those the end reports the most
important one.
-/

namespace Gherkin

/-- What is being read. -/
inductive Mode where
  /-- A scenario, or what stands before the first one. -/
  | declaration
  /-- The free text after a feature's name. -/
  | narrative
  | background
  /-- A run of steps of one keyword, which `And` continues. -/
  | steps (keyword : Keyword)
  | docString
  /-- A section of examples, which is skipped. -/
  | examples
  deriving DecidableEq, Repr

/-- The keyword that `And` stands for in the mode. -/
def Mode.keyword? : Mode → Option Keyword
  | steps k => some k
  | declaration | narrative | background | docString | examples => none

/-- The place of a step that has been read. -/
inductive StepPlace where
  /-- The position among the items. -/
  | item (i : Nat)
  /-- The position among the steps of the background. -/
  | background (i : Nat)
  deriving DecidableEq, Repr

/-- How far a feature has been read. -/
structure Reading where
  /-- The modes, the innermost first. -/
  modes : List Mode := [.declaration]
  name : Option Text := none
  narrative : List Text := []
  background : Option Background := none
  /-- Where the marker of the background stands that is being read. -/
  openBackground : Option Nat := none
  items : List Item := []
  listing : Listing := {}
  /-- The doc string that is being read. -/
  docString : Option (DocString StepPlace) := none
  /-- The step that a doc string would belong to. -/
  lastStep : Option StepPlace := none
  missing : List MissingStep := []
  ambiguous : List (Nat × Ambiguity) := []
  /-- The first line that belongs to a section of examples. -/
  unsupported : Option (Nat × Text) := none
  deriving DecidableEq, Repr

namespace Reading

variable {W : Type}

/-- The innermost mode. -/
def mode (r : Reading) : Mode := r.modes.headD .declaration

/-- Adds a marker. A doc string after it belongs to no step before it. -/
def mark (r : Reading) (kind : Section) (name : Text) (line : Nat) : Reading :=
  { r with lastStep := none, items := r.items ++ [.marker { kind := kind, name, line }] }

/-- Puts the text of a block into the step it belongs to, if it belongs to one. -/
def attach (r : Reading) (target : Option StepPlace) (doc : Text) : Reading :=
  match target with
  | none => r
  | some (.item i) =>
    { r with
      items := r.items.modify i fun
        | .step s => .step (s.withDocString doc)
        | .marker m => .marker m }
  | some (.background i) =>
    { r with
      background := r.background.map fun b =>
        { b with steps := b.steps.modify i fun s => s.withDocString doc } }

/-- Ends the doc string that is being read. -/
def endDocString (r : Reading) : Reading :=
  let r := if r.mode = .docString then { r with modes := r.modes.tail } else r
  match r.docString with
  | none => r
  | some block =>
    { ({ r with docString := none }.attach block.target block.text) with lastStep := none }

/-- The modes around the innermost background, if no scenario begins inside it. -/
def aroundBackground? : List Mode → Option (List Mode)
  | [] => none
  | .background :: outer => some outer
  | .declaration :: _ => none
  | _ :: outer => aroundBackground? outer

/-- What the last step is once the items from `start` on are moved to the background: the marker at
`start` goes, and the steps after it are counted from 0. -/
def movedStep (items : List Item) (start : Nat) : Option StepPlace → Option StepPlace
  | some (.item i) =>
    if start < i then
      some (.background (((items.take i).drop start).filterMap Item.step?).length)
    else none
  | _ => none

/-- Ends the background that is being read, if one is: its marker and the steps after it leave the
items. A doc string may still follow its last step. -/
def endBackground (r : Reading) : Reading :=
  match aroundBackground? r.modes, r.openBackground with
  | some outer, some start =>
    { r with
      modes := outer
      openBackground := none
      lastStep := movedStep r.items start r.lastStep
      items := r.items.take start
      background := some (Background.ofItems (r.items.drop start)) }
  | _, _ => r

/-- Marks a line as one of a section of examples, the first of which is kept. -/
def refuse (r : Reading) (line : Nat) (text : Text) : Reading × Remark :=
  ({ r with unsupported := r.unsupported <|> some (line, text) },
    .failed (FeatureFault.unsupported line text).message)

/-- Reads a step: it is matched, and becomes an item if exactly one pattern matches. -/
def step (reg : Registry W) (r : Reading) (line : Nat) (keyword : Keyword) (conjunction : Bool)
    (text : Text) : Reading × Remark :=
  let outer := if r.mode.keyword?.isSome then r.modes.tail else r.modes
  let r := { r with modes := .steps keyword :: outer }
  match reg.find text with
  | .ok found =>
    let s : Step :=
      { keyword, conjunction, line, found, arguments := found.captures, docString := none }
    ({ r with lastStep := some (.item r.items.length), items := r.items ++ [.step s] },
      .matched found.location)
  | .error .notFound =>
    ({ r with lastStep := none, missing := r.missing ++ [{ line := line, text }] },
      .failed LookupFault.notFound.message)
  | .error (.ambiguous e) =>
    ({ r with lastStep := none, ambiguous := r.ambiguous ++ [(line, e)] },
      .failed (LookupFault.ambiguous e).message)

/-- Whether a line goes on with the free text of a feature. -/
def continuesNarrative : LineKind → Bool
  | .other _ | .conjunction _ => true
  | _ => false

/-- Whether a line is read as usual inside a section of examples. -/
def passesExamples : LineKind → Bool
  | .blank | .comment | .feature _ | .background _ | .scenario _ => true
  | _ => false

/-- Reads a line that neither free text, nor a doc string, nor a section of examples takes. -/
def readKind (reg : Registry W) (r : Reading) (line : Nat) (raw text : Text) :
    LineKind → Except FeatureFault (Reading × Option Remark)
  | .blank => .ok (r.endBackground, none)
  | .comment => .ok (r, none)
  | .delimiter =>
    .ok ({ r with
            modes := .docString :: r.modes
            docString := some { column := Text.indent raw, target := r.lastStep } }, none)
  | .feature name =>
    if name = [] then .error (.unnamedFeature line)
    else .ok ({ r with name := some name, modes := .narrative :: r.modes }, none)
  | .background name =>
    if r.background.isSome || r.openBackground.isSome then .error (.secondBackground line)
    else
      .ok ({ r with
              modes := .background :: r.modes
              openBackground := some r.items.length }.mark .background name line, none)
  | .scenario name =>
    let r := r.endBackground
    .ok ({ r with modes := .declaration :: r.modes }.mark .scenario name line, none)
  | .step keyword stepText =>
    let read := r.step reg line keyword false stepText
    .ok (read.1, some read.2)
  | .conjunction stepText =>
    match r.mode.keyword? with
    | none => .error (.strayConjunction line)
    | some keyword =>
      let read := r.step reg line keyword true stepText
      .ok (read.1, some read.2)
  | .examples =>
    let refused := { r with modes := .examples :: r.modes }.refuse line text
    .ok (refused.1, some refused.2)
  | .other word => .error (.unknownLine line word)

/-- Reads a line outside doc strings and free text. -/
def readOutside (reg : Registry W) (r : Reading) (line : Nat) (raw text : Text)
    (kind : LineKind) : Except FeatureFault (Reading × Option Remark) :=
  if r.mode = .examples && !passesExamples kind then
    let refused := r.refuse line text
    .ok (refused.1, some refused.2)
  else r.readKind reg line raw text kind

/-- Reads a line, and answers with the remark it gets in the listing. -/
def readLine (reg : Registry W) (r : Reading) (line : Nat) (raw : Text) :
    Except FeatureFault (Reading × Option Remark) :=
  let text := Text.trim raw
  let kind := LineKind.ofLine text
  match r.mode with
  | .docString =>
    if (Text.after? LineKind.quotes text).isSome then .ok (r.endDocString, none)
    else .ok ({ r with docString := r.docString.map (·.push raw) }, none)
  | .narrative =>
    if continuesNarrative kind then .ok ({ r with narrative := r.narrative ++ [text] }, none)
    else if kind = .comment then .ok (r, none)
    else { r with modes := r.modes.tail }.readOutside reg line raw text kind
  | _ => r.readOutside reg line raw text kind

/-- The reading with the line listed. -/
def list (r : Reading) (line : Nat) (raw : Text) (remark : Option Remark) : Reading :=
  { r with
    listing := r.listing.push
      { number := line, indent := Text.indent raw, text := Text.trim raw, remark } }

/-- Reads a line and lists it. -/
def take (reg : Registry W) (r : Reading) (line : Nat) (raw : Text) :
    Except Rejection Reading :=
  match r.readLine reg line raw with
  | .ok read => .ok (read.1.list line raw read.2)
  | .error fault =>
    .error { fault, listing := (r.list line raw (some (.failed fault.message))).listing }

/-- Reads lines, the first of which has the given number. -/
def takeLines (reg : Registry W) : Reading → (line : Nat) → List Text → Except Rejection Reading
  | r, _, [] => .ok r
  | r, line, raw :: rest => do
    let r ← r.take reg line raw
    takeLines reg r (line + 1) rest

/-- All steps read so far, those of the background first. -/
def stepsRead (r : Reading) : List Step :=
  (r.background.elim [] (·.steps)) ++ r.items.filterMap Item.step?

/-- The steps whose handlers do not accept their arguments, with their lines. -/
def arityFaults (reg : Registry W) (steps : List Step) : List (Nat × ArityFault) :=
  steps.filterMap fun s =>
    match reg.shapes? s.found.handler with
    | none => none
    | some shapes =>
      match Arity.check s.text shapes s.arguments.length with
      | .ok () => none
      | .error e => some (s.line, e)

/-- The reading at the end of the text: nothing stays open. -/
def close (r : Reading) : Reading :=
  let r := if r.docString.isSome then r.endDocString else r
  r.endBackground

/-- Ends a reading. Of the collected faults the first of these is reported: an unsupported line, an
ambiguous step, a handler that does not accept its arguments, the missing steps. -/
def finish (reg : Registry W) (r : Reading) : Except Rejection Feature :=
  let r := r.close
  let mismatched := arityFaults reg r.stepsRead
  let listing := mismatched.foldl
    (fun (l : Listing) fault => l.annotate fault.1 (.failed fault.2.message)) r.listing
  let mismatched := mismatched.mergeSort fun a b => a.1 ≤ b.1
  match r.unsupported, r.ambiguous, mismatched, r.missing with
  | some (line, construct), _, _, _ =>
    .error { fault := .unsupported line construct, listing }
  | none, (line, e) :: _, _, _ => .error { fault := .ambiguous line e, listing }
  | none, [], (line, e) :: _, _ => .error { fault := .arity line e, listing }
  | none, [], [], missing =>
    if missing = [] then
      .ok
        { name := r.name
          narrative := r.narrative
          background := r.background
          items := r.items
          listing }
    else .error { fault := .unimplemented missing, listing }

end Reading

/-- Reads a feature whose steps are those of the registry. -/
def Feature.read {W : Type} (reg : Registry W) (text : Text) : Except Rejection Feature := do
  let r ← Reading.takeLines reg {} 1 (Text.lines text)
  r.finish reg

end Gherkin
