import Gherkin.Unicode.Ranges

/-!
# The bytes of a set of code points

A search goes through the bytes that a text has in UTF-8. A range of characters becomes sequences of
byte ranges there, and how many of them it takes says how much space the set takes up in a search.
-/

namespace Gherkin.Unicode

/-- Characters by a range for each of their bytes. What marks a byte as the first or as a further one
is left out, so a further byte is a number below 64. -/
abbrev ByteRanges := List (Nat × Nat)

/-- The part of the ranges from `first` to `last`. -/
def Ranges.clip (first last : Nat) (rs : Ranges) : Ranges :=
  (rs.map fun r => (max first r.1, min last r.2)).filter fun r => r.1 ≤ r.2

/-- The fewest byte ranges that hold the characters from `first` to `last`, each of which has so many
bytes after its first. They begin alike, or else at the ends of the range the further bytes may be
some only; between the ends they may be all. -/
def byteRanges : (further : Nat) → (first last : Nat) → List ByteRanges
  | 0, first, last => [[(first, last)]]
  | further + 1, first, last =>
    let unit := 64 ^ (further + 1)
    let a := first / unit
    let b := last / unit
    if a = b then
      (byteRanges further (first % unit) (last % unit)).map ((a, a) :: ·)
    else
      let below :=
        if first % unit = 0 then []
        else (byteRanges further (first % unit) (unit - 1)).map ((a, a) :: ·)
      let above :=
        if last % unit = unit - 1 then []
        else (byteRanges further 0 (last % unit)).map ((b, b) :: ·)
      let low := if first % unit = 0 then a else a + 1
      let high := if last % unit = unit - 1 then b else b - 1
      let between :=
        if low ≤ high then [(low, high) :: List.replicate (further + 1) (0, 63)] else []
      below ++ between ++ above

/-- The characters with so many bytes after their first; surrogates are no characters. -/
def encodings : List (Nat × Nat × Nat) :=
  [(0, 0x0, 0x7F), (1, 0x80, 0x7FF), (2, 0x800, 0xD7FF), (2, 0xE000, 0xFFFF),
   (3, 0x10000, 0x10FFFF)]

/-- The byte ranges of a set, for each way to encode a character. -/
def Ranges.encoded (rs : Ranges) : List (List ByteRanges) :=
  encodings.map fun (further, first, last) =>
    (rs.clip first last).flatMap fun r => byteRanges further r.1 r.2

/-- How far two characters begin alike. -/
def ByteRanges.alike : ByteRanges → ByteRanges → Nat
  | r :: rest, s :: more => if r = s then alike rest more + 1 else 0
  | _, _ => 0

/-- How many byte ranges there are if those count once in which several begin alike. `before` are
those of the characters before. -/
def ByteRanges.count (before : ByteRanges) : List ByteRanges → Nat
  | [] => 0
  | bytes :: rest => bytes.length - alike before bytes + count bytes rest

end Gherkin.Unicode
