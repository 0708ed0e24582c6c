import Gherkin.Unicode.CaseFold
import Gherkin.Unicode.Encoded
import Gherkin.Unicode.Property

/-!
# Sets of characters

What one place of a pattern accepts is a set of characters. Sets are kept as the expression they
are written as, and `contains` reads them: a character class is a tree of ranges under union,
intersection, complement and closure under case, and membership follows the tree.
-/

namespace Gherkin

/-- A set of characters. -/
inductive CharSet where
  /-- The characters whose code points lie in the ranges. -/
  | ranges (rs : Unicode.Ranges)
  /-- The characters in either set. -/
  | union (a b : CharSet)
  /-- The characters in both sets. -/
  | inter (a b : CharSet)
  /-- The characters outside the set. -/
  | compl (a : CharSet)
  /-- The characters with a variant in the set, variants being those of simple case folding. -/
  | anyCase (a : CharSet)
  /-- The characters with a variant in the set, where only ASCII letters have variants. -/
  | anyCaseAscii (a : CharSet)
  deriving DecidableEq, Repr

namespace CharSet

/-- Membership of a code point. -/
def containsCode : CharSet → Nat → Bool
  | ranges rs, n => rs.contains n
  | union a b, n => a.containsCode n || b.containsCode n
  | inter a b, n => a.containsCode n && b.containsCode n
  | compl a, n => !a.containsCode n
  | anyCase a, n => a.containsCode n || (Unicode.CaseFold.variants n).any a.containsCode
  | anyCaseAscii a, n => a.containsCode n || (Unicode.CaseFold.asciiVariants n).any a.containsCode

/-- Membership of a character. -/
def contains (s : CharSet) (c : Char) : Bool := s.containsCode c.toNat

/-- The set without members. -/
def empty : CharSet := ranges []

/-- The set of all characters. -/
def any : CharSet := compl empty

/-- The set with one member. -/
def singleton (c : Char) : CharSet := ranges [(c.toNat, c.toNat)]

/-- The characters from `a` to `b`. -/
def range (a b : Char) : CharSet := ranges [(a.toNat, b.toNat)]

/-- The characters of any of the sets. -/
def unions : List CharSet → CharSet
  | [] => empty
  | s :: rest => union s (unions rest)

/-- The characters of any of the tables. -/
def tables (ts : List Unicode.Ranges) : CharSet := unions (ts.map ranges)

/-- The characters of the first set that are not in the second. -/
def diff (a b : CharSet) : CharSet := inter a (compl b)

/-- The characters in exactly one of the sets. -/
def symmDiff (a b : CharSet) : CharSet := union (diff a b) (diff b a)

/-- The set or its complement. -/
def negateIf (negated : Bool) (s : CharSet) : CharSet := if negated then compl s else s

@[simp] theorem contains_union (a b : CharSet) (c : Char) :
    (union a b).contains c = (a.contains c || b.contains c) := rfl

@[simp] theorem contains_inter (a b : CharSet) (c : Char) :
    (inter a b).contains c = (a.contains c && b.contains c) := rfl

@[simp] theorem contains_compl (a : CharSet) (c : Char) :
    (compl a).contains c = !a.contains c := rfl

@[simp] theorem contains_empty (c : Char) : empty.contains c = false := rfl

@[simp] theorem contains_any (c : Char) : any.contains c = true := rfl

theorem contains_singleton (a c : Char) : (singleton a).contains c = true ↔ c = a := by
  simp only [singleton, contains, containsCode, Unicode.Ranges.contains_singleton]
  constructor
  · intro h
    exact Char.toNat_inj.mp (Nat.le_antisymm h.2 h.1)
  · rintro rfl
    exact ⟨Nat.le_refl _, Nat.le_refl _⟩

/-- Decimal digits of every script. -/
def digit : CharSet := ranges Unicode.CategoryTable.decimalNumber

/-- White space. -/
def space : CharSet := ranges Unicode.Property.whiteSpace

/-- Word characters. -/
def word : CharSet := tables Unicode.Property.word

/-- The digits `0` to `9`. -/
def asciiDigit : CharSet := range '0' '9'

/-- ASCII white space, the vertical tab included. -/
def asciiSpace : CharSet := ranges [(0x9, 0xD), (0x20, 0x20)]

/-- ASCII letters, digits and the underscore. -/
def asciiWord : CharSet := ranges [(0x30, 0x39), (0x41, 0x5A), (0x5F, 0x5F), (0x61, 0x7A)]

/-- The fewest ranges that hold the set. -/
def extent : CharSet → Unicode.Ranges
  | ranges rs => Unicode.Ranges.union rs []
  | union a b => a.extent.union b.extent
  | inter a b => (a.extent.compl.union b.extent.compl).compl
  | compl a => a.extent.compl
  | anyCase a => Unicode.CaseFold.closure Unicode.CaseFold.foldings a.extent
  | anyCaseAscii a => Unicode.CaseFold.closure Unicode.CaseFold.asciiFoldings a.extent

/-- An estimate, in bytes, of what a search keeps for one character of the set. A state takes 32
bytes. One character alone takes a state for each of its bytes. A set within ASCII takes two states
and 8 bytes for every range, and any other set two states, one for every range of bytes and 4 bytes
for every way to go through them. -/
def cost (s : CharSet) : Nat :=
  match s.extent with
  | [] => 32
  | (first, last) :: rest =>
    let top := (rest.getLast?.getD (first, last)).2
    if first = top then 32 * (Char.ofNat first).utf8Size
    else if top ≤ 0x7F then 64 + 8 * (rest.length + 1)
    else
      s.extent.encoded.foldl
        (fun bytes ways => bytes + 4 * ways.length + 32 * Unicode.ByteRanges.count [] ways) 64

theorem cost_singleton (c : Char) : (singleton c).cost = 32 * c.utf8Size := by
  simp [cost, singleton, extent, Unicode.Ranges.union_nil, Unicode.Ranges.joinFrom]

end CharSet

end Gherkin
