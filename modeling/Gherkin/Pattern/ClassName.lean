import Gherkin.Pattern.ClassName.Boundary
import Gherkin.Text.Basic
import Gherkin.Unicode.AgeTable

/-!
# Named classes of characters

The names that a pattern may write inside `[:…:]` and `\p{…}`. Names of the first kind are exact
and stand for ASCII characters. Names of the second kind are those of Unicode 15.0 and are read
loosely: case, blanks, hyphens, underscores and a leading `is` do not count. One name alone stands
for a property that holds or not, a general category or a script; a name with a value also for the
characters with that script extension, of that version, or with that class for finding boundaries.
-/

namespace Gherkin.ClassName

open Unicode

/-- The class written `[:name:]`. -/
def ascii? (name : Text) : Option CharSet :=
  let table : List (String × Ranges) :=
    [("alnum", [(0x30, 0x39), (0x41, 0x5A), (0x61, 0x7A)]),
     ("alpha", [(0x41, 0x5A), (0x61, 0x7A)]),
     ("ascii", [(0x0, 0x7F)]),
     ("blank", [(0x9, 0x9), (0x20, 0x20)]),
     ("cntrl", [(0x0, 0x1F), (0x7F, 0x7F)]),
     ("digit", [(0x30, 0x39)]),
     ("graph", [(0x21, 0x7E)]),
     ("lower", [(0x61, 0x7A)]),
     ("print", [(0x20, 0x7E)]),
     ("punct", [(0x21, 0x2F), (0x3A, 0x40), (0x5B, 0x60), (0x7B, 0x7E)]),
     ("space", [(0x9, 0xD), (0x20, 0x20)]),
     ("upper", [(0x41, 0x5A)]),
     ("word", [(0x30, 0x39), (0x41, 0x5A), (0x5F, 0x5F), (0x61, 0x7A)]),
     ("xdigit", [(0x30, 0x39), (0x41, 0x46), (0x61, 0x66)])]
  (table.find? fun entry => entry.1.toList = name).map fun entry => .ranges entry.2

/-- The form in which names are compared: without separators, in lower case, and without a leading
`is`. The name `isc` keeps its two first letters, because `c` alone names something else. -/
def loose (name : Text) : Text :=
  let lower : Text → Text := fun t =>
    (t.filter fun c => c.toNat < 0x80 && c != ' ' && c != '_' && c != '-').map Char.toLower
  match name with
  | i :: s :: rest =>
    if i.toLower = 'i' ∧ s.toLower = 's' then
      let short := lower rest
      if short = ['c'] then ['i', 's', 'c'] else short
    else lower name
  | _ => lower name

/-- General categories and groups of them, under the names they answer to. -/
def categories : List (List String × CharSet) :=
  open CategoryTable in
  [(["any"], .any),
   (["assigned"], .tables Property.assigned),
   (["ascii"], .ranges [(0x0, 0x7F)]),
   (["l", "letter"], .tables Property.letters),
   (["lc", "casedletter"],
    .tables [uppercaseLetter, lowercaseLetter, titlecaseLetter]),
   (["lu", "uppercaseletter"], .ranges uppercaseLetter),
   (["ll", "lowercaseletter"], .ranges lowercaseLetter),
   (["lt", "titlecaseletter"], .ranges titlecaseLetter),
   (["lm", "modifierletter"], .ranges modifierLetter),
   (["lo", "otherletter"], .ranges otherLetter),
   (["m", "mark", "combiningmark"], .tables Property.marks),
   (["mn", "nonspacingmark"], .ranges nonspacingMark),
   (["mc", "spacingmark"], .ranges spacingMark),
   (["me", "enclosingmark"], .ranges enclosingMark),
   (["n", "number"], .tables Property.numbers),
   (["nd", "decimalnumber", "digit"], .ranges decimalNumber),
   (["nl", "letternumber"], .ranges letterNumber),
   (["no", "othernumber"], .ranges otherNumber),
   (["p", "punct", "punctuation"], .tables Property.punctuation),
   (["pc", "connectorpunctuation"], .ranges connectorPunctuation),
   (["pd", "dashpunctuation"], .ranges dashPunctuation),
   (["ps", "openpunctuation"], .ranges openPunctuation),
   (["pe", "closepunctuation"], .ranges closePunctuation),
   (["pi", "initialpunctuation"], .ranges initialPunctuation),
   (["pf", "finalpunctuation"], .ranges finalPunctuation),
   (["po", "otherpunctuation"], .ranges otherPunctuation),
   (["s", "symbol"], .tables Property.symbols),
   (["sm", "mathsymbol"], .ranges mathSymbol),
   (["sc", "currencysymbol"], .ranges currencySymbol),
   (["sk", "modifiersymbol"], .ranges modifierSymbol),
   (["so", "othersymbol"], .ranges otherSymbol),
   (["z", "separator"], .tables Property.separators),
   (["zs", "spaceseparator"], .ranges spaceSeparator),
   (["zl", "lineseparator"], .ranges lineSeparator),
   (["zp", "paragraphseparator"], .ranges paragraphSeparator),
   (["c", "other"],
    .union (.tables [control, format, privateUse]) (.compl (.tables Property.assigned))),
   (["cc", "cntrl", "control"], .ranges control),
   (["cf", "format"], .ranges format),
   (["co", "privateuse"], .ranges privateUse),
   (["cn", "unassigned"], .compl (.tables Property.assigned))]

/-- Scripts, under the names they answer to. -/
def scripts : List (List String × CharSet) :=
  ScriptTable.named.map fun entry => (entry.1, .ranges entry.2)

/-- Scripts with all that is used with them, under the names they answer to. What is used with
another script than its own counts for the scripts that it is used with alone. -/
def scriptExtensions : List (List String × CharSet) :=
  ScriptTable.named.map fun (names, rs) =>
    let used := ScriptTable.shared.filter fun entry => names.any entry.1.contains
    (names,
      .union (.diff (.ranges rs) (.tables (ScriptTable.shared.map (·.2))))
        (.tables (used.map (·.2))))

/-- Versions with all that was assigned in them and before, `earlier` before the first of them. -/
def agesFrom (earlier : CharSet) : List (List String × Ranges) → List (List String × CharSet)
  | [] => []
  | (names, rs) :: rest =>
    let upTo := .union (.ranges rs) earlier
    (names, upTo) :: agesFrom upTo rest

/-- The characters that each version of Unicode had, under the names the version answers to. -/
def ages : List (List String × CharSet) := agesFrom .empty AgeTable.versions

/-- Properties with several values: the names of each, and its values under the names they answer
to. -/
def valued : List (List String × List (List String × CharSet)) :=
  [(["gc", "generalcategory"], categories),
   (["sc", "script"], scripts),
   (["scx", "scriptextensions"], scriptExtensions),
   (["age"], ages),
   (["gcb", "graphemeclusterbreak"], clusterClasses),
   (["wb", "wordbreak"], wordClasses),
   (["sb", "sentencebreak"], sentenceClasses)]

/-- The first entry of a list that answers to a name in its loose form. -/
def lookup? {A : Type} (entries : List (List String × A)) (name : Text) : Option A :=
  (entries.find? fun entry => entry.1.any fun n => n.toList = name).map (·.2)

/-- The class that a single name stands for: a property, a category or a script, in this order. -/
def unicode? (name : Text) : Option CharSet :=
  let key := loose name
  lookup? properties key <|> lookup? categories key <|> lookup? scripts key

/-- The class of the characters whose property `name` has the given value. -/
def unicodeValue? (name value : Text) : Option CharSet := do
  let values ← lookup? valued (loose name)
  lookup? values (loose value)

end Gherkin.ClassName
