import Gherkin.Text.Basic

/-!
# Reading UTF-8

Bytes are read as UTF-8 up to the first sequence that is none. A fault says where that sequence
begins, and how many of its bytes could not begin any character; if the bytes end while the
sequence could still become one, it is incomplete instead.
-/

namespace Gherkin

/-- Why bytes are not UTF-8. -/
inductive Utf8Fault where
  /-- The sequence of so many bytes from the index on begins no character. -/
  | invalid (index length : Nat)
  /-- The bytes end within a character that begins at the index. -/
  | incomplete (index : Nat)
  deriving DecidableEq, Repr

/-- The text of the fault. -/
def Utf8Fault.message : Utf8Fault → Text
  | invalid index length =>
    "invalid utf-8 sequence of ".toList ++ Text.ofNat length ++ " bytes from index ".toList
      ++ Text.ofNat index
  | incomplete index =>
    "incomplete utf-8 byte sequence from index ".toList ++ Text.ofNat index

namespace Utf8

/-- What a first byte begins: how many bytes follow it, the bits it contributes, and the least and
greatest second byte. The bounds keep out overlong forms, surrogates, and code points beyond the
last one. -/
def lead? (b : Nat) : Option (Nat × Nat × Nat × Nat) :=
  if b < 0x80 then some (0, b, 0, 0)
  else if 0xC2 ≤ b ∧ b ≤ 0xDF then some (1, b - 0xC0, 0x80, 0xBF)
  else if b = 0xE0 then some (2, b - 0xE0, 0xA0, 0xBF)
  else if b = 0xED then some (2, b - 0xE0, 0x80, 0x9F)
  else if 0xE1 ≤ b ∧ b ≤ 0xEF then some (2, b - 0xE0, 0x80, 0xBF)
  else if b = 0xF0 then some (3, b - 0xF0, 0x90, 0xBF)
  else if 0xF1 ≤ b ∧ b ≤ 0xF3 then some (3, b - 0xF0, 0x80, 0xBF)
  else if b = 0xF4 then some (3, b - 0xF0, 0x80, 0x8F)
  else none

/-- Reads bytes. `start` is the index at which the current character begins and `taken` the number
of its bytes so far; `left` bytes of it are to come, the next of them between `low` and `high`, and
`value` holds the bits so far. `text` is what has been read, the latest character first. -/
def readFrom (start taken left value low high : Nat) (text : Text) :
    List Nat → Except Utf8Fault Text
  | [] => if left = 0 then .ok text.reverse else .error (.incomplete start)
  | b :: rest =>
    if left = 0 then
      match lead? b with
      | none => .error (.invalid start 1)
      | some (0, value, _, _) => readFrom (start + 1) 0 0 0 0 0 (Char.ofNat value :: text) rest
      | some (left, value, low, high) => readFrom start 1 left value low high text rest
    else if low ≤ b ∧ b ≤ high then
      let value := 64 * value + (b - 0x80)
      if left = 1 then
        readFrom (start + taken + 1) 0 0 0 0 0 (Char.ofNat value :: text) rest
      else readFrom start (taken + 1) (left - 1) value 0x80 0xBF text rest
    else .error (.invalid start taken)

/-- The text that the bytes spell. -/
def decode (bytes : List Nat) : Except Utf8Fault Text := readFrom 0 0 0 0 0 0 [] bytes

end Utf8

end Gherkin
