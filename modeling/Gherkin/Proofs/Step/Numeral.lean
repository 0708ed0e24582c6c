import Gherkin.Step.Script
import Mathlib.Data.Nat.Digits.Lemmas

/-!
# Which texts an integer parameter takes

An integer is read digit by digit, and whether it fits its type is asked at the end. Here both are
said without the reader. `decimal` is the number that digits stand for by their places, `Numeral`
says how a number may be written for a type, and `Holds` which numbers the type has. An argument is
taken if it is a numeral of a number that the type has, and as that number; every other text is
refused (`Param.bind_integer`). So nothing wraps around or is cut off at a bound: leading zeros may
come in any number, and digits that run past the range make the text a fault.

The reader goes through the digits from the left and multiplies what it has by ten, while a place
counts from the right; `foldl_digit` brings the two together.
-/

namespace Gherkin

/-! ## Decimal digits -/

/-- The number that a digit stands for. -/
def digit (c : Char) : Nat := c.toNat - '0'.toNat

/-- The number that digits stand for, where each counts as many powers of ten as digits follow. -/
def decimal (digits : Text) : Nat := Nat.ofDigits 10 (digits.reverse.map digit)

/-- The text consists of the digits `0` to `9`, of which there is one at least. -/
def IsDecimal (t : Text) : Prop := t ≠ [] ∧ ∀ c ∈ t, '0' ≤ c ∧ c ≤ '9'

theorem isDigit_iff (c : Char) : c.isDigit = true ↔ '0' ≤ c ∧ c ≤ '9' := by
  unfold Char.isDigit
  rw [Bool.and_eq_true, decide_eq_true_eq, decide_eq_true_eq]
  rfl

theorem isDecimal_iff (t : Text) : IsDecimal t ↔ t ≠ [] ∧ t.all Char.isDigit = true := by
  unfold IsDecimal
  rw [List.all_eq_true]
  simp only [isDigit_iff]

/-- The first of some digits counts a power of ten for each of the others. -/
theorem decimal_cons (c : Char) (rest : Text) :
    decimal (c :: rest) = digit c * 10 ^ rest.length + decimal rest := by
  unfold decimal
  rw [List.reverse_cons, List.map_append, Nat.ofDigits_append, List.length_map,
    List.length_reverse, List.map_singleton, Nat.ofDigits_singleton]
  ring

/-- To read digits one after another, from a number on, is to put them behind that number. -/
theorem foldl_digit (n : Nat) (digits : Text) :
    digits.foldl (fun n c => 10 * n + (c.toNat - '0'.toNat)) n
      = n * 10 ^ digits.length + decimal digits := by
  induction digits generalizing n with
  | nil => exact (Nat.mul_one n).symm
  | cons c rest ih =>
    have hdigit : 10 * n + (c.toNat - '0'.toNat) = 10 * n + digit c := rfl
    rw [List.foldl_cons, ih, decimal_cons, List.length_cons, hdigit]
    ring

/-- **A text is read as a natural number if it consists of digits**, and as the one they stand
for. -/
theorem natural?_eq_some_iff {t : Text} {n : Nat} :
    natural? t = some n ↔ IsDecimal t ∧ n = decimal t := by
  unfold natural?
  rw [foldl_digit, Nat.zero_mul, Nat.zero_add, isDecimal_iff]
  by_cases h : t ≠ [] ∧ t.all Char.isDigit = true
  · rw [if_pos h, Option.some.injEq]
    exact ⟨fun hn => ⟨h, hn.symm⟩, fun hn => hn.2.symm⟩
  · rw [if_neg h]
    exact iff_of_false (by simp) fun hn => h hn.1

/-- A natural number is written in digits that stand for it. -/
theorem natural?_ofNat (n : Nat) : natural? (Text.ofNat n) = some n := by
  have hne : Text.ofNat n ≠ [] := Nat.toDigits_ne_nil
  have hdigits : (Text.ofNat n).all Char.isDigit = true := by
    rw [List.all_eq_true]
    intro c hc
    exact Nat.isDigit_of_mem_toDigits (by omega) (by omega) hc
  have hvalue : (Text.ofNat n).foldl (fun n c => 10 * n + (c.toNat - '0'.toNat)) 0 = n :=
    Nat.ofDigitChars_ten_toDigits
  unfold natural?
  rw [if_pos ⟨hne, hdigits⟩, hvalue]

/-! ## Numerals -/

namespace IntegerType

variable {t : IntegerType} {s : Text} {n : Int}

/-- The text is a numeral of the number: digits after an optional sign, where a minus sign is known
to signed types only. -/
inductive Numeral (t : IntegerType) : Text → Int → Prop
  | plain (digits : Text) (h : IsDecimal digits) : Numeral t digits (decimal digits)
  | plus (digits : Text) (h : IsDecimal digits) : Numeral t ('+' :: digits) (decimal digits)
  | minus (signed : t.signed = true) (digits : Text) (h : IsDecimal digits) :
    Numeral t ('-' :: digits) (-decimal digits)

/-- The number is one of the type: of its bits a signed type gives one to the sign. -/
def Holds (t : IntegerType) (n : Int) : Prop :=
  if t.signed then -2 ^ (t.bits - 1) ≤ n ∧ n < 2 ^ (t.bits - 1) else 0 ≤ n ∧ n < 2 ^ t.bits

theorem holds_iff : t.Holds n ↔ t.least ≤ n ∧ n ≤ t.greatest := by
  obtain ⟨signed, bits⟩ := t
  unfold Holds least greatest bound
  cases signed with
  | true =>
    have hbound : ((Nat.pow 2 (bits - 1) : Nat) : Int) = 2 ^ (bits - 1) := by
      exact_mod_cast rfl
    simp only [if_true]
    rw [hbound]
    omega
  | false =>
    have hbound : ((Nat.pow 2 bits : Nat) : Int) = 2 ^ bits := by
      exact_mod_cast rfl
    simp only [Bool.false_eq_true, if_false]
    rw [hbound]
    omega

/-- A sign is no digit. -/
theorem not_isDecimal_cons {sign : Char} (h : ¬ ('0' ≤ sign ∧ sign ≤ '9')) (rest : Text) :
    ¬ IsDecimal (sign :: rest) :=
  fun hdecimal => h (hdecimal.2 sign (List.mem_cons_self ..))

/-- **A text is read as the number of which it is a numeral**, if the type has that number. -/
theorem read?_eq_some_iff : t.read? s = some n ↔ t.Numeral s n ∧ t.Holds n := by
  have hrange : (decide (t.least ≤ n) && decide (n ≤ t.greatest)) = true ↔ t.Holds n := by
    rw [holds_iff, Bool.and_eq_true, decide_eq_true_eq, decide_eq_true_eq]
  unfold read?
  dsimp only
  rw [Option.filter_eq_some_iff, hrange]
  apply and_congr_left
  intro _
  -- the reader looks for a sign first, which no digits begin with
  split
  next digits =>
    rw [Option.map_eq_some_iff]
    constructor
    · rintro ⟨m, hm, rfl⟩
      obtain ⟨hdigits, rfl⟩ := natural?_eq_some_iff.mp hm
      exact .plus digits hdigits
    · intro h
      cases h with
      | plain _ hdigits => exact absurd hdigits (not_isDecimal_cons (by decide) digits)
      | plus _ hdigits => exact ⟨_, natural?_eq_some_iff.mpr ⟨hdigits, rfl⟩, rfl⟩
  next digits =>
    by_cases hsigned : t.signed = true
    · rw [if_pos hsigned, Option.map_eq_some_iff]
      constructor
      · rintro ⟨m, hm, rfl⟩
        obtain ⟨hdigits, rfl⟩ := natural?_eq_some_iff.mp hm
        exact .minus hsigned digits hdigits
      · intro h
        cases h with
        | plain _ hdigits => exact absurd hdigits (not_isDecimal_cons (by decide) digits)
        | minus _ _ hdigits => exact ⟨_, natural?_eq_some_iff.mpr ⟨hdigits, rfl⟩, rfl⟩
    · rw [if_neg hsigned]
      refine iff_of_false (by simp) fun h => ?_
      cases h with
      | plain _ hdigits => exact not_isDecimal_cons (by decide) digits hdigits
      | minus hs => exact hsigned hs
  next hplus hminus =>
    rw [Option.map_eq_some_iff]
    constructor
    · rintro ⟨m, hm, rfl⟩
      obtain ⟨hdigits, rfl⟩ := natural?_eq_some_iff.mp hm
      exact .plain s hdigits
    · intro h
      cases h with
      | plain _ hdigits => exact ⟨_, natural?_eq_some_iff.mpr ⟨hdigits, rfl⟩, rfl⟩
      | plus digits => exact absurd rfl (hplus digits)
      | minus _ digits => exact absurd rfl (hminus digits)

/-- A number of the type as it is written is a numeral of it. -/
theorem numeral_display (h : t.Holds n) : t.Numeral (Value.integer n).display n := by
  cases n with
  | ofNat m =>
    have hdisplay : (Value.integer (Int.ofNat m)).display = Text.ofNat m := Nat.toList_repr
    obtain ⟨hdecimal, hm⟩ := natural?_eq_some_iff.mp (natural?_ofNat m)
    have hvalue : Int.ofNat m = (decimal (Text.ofNat m) : Int) := by rw [← hm]; rfl
    rw [hdisplay, hvalue]
    exact .plain _ hdecimal
  | negSucc m =>
    have hdisplay : (Value.integer (Int.negSucc m)).display = '-' :: Text.ofNat (m + 1) := by
      show ("-" ++ Nat.repr (m + 1)).toList = _
      rw [String.toList_append, Nat.toList_repr]
      rfl
    obtain ⟨hdecimal, hm⟩ := natural?_eq_some_iff.mp (natural?_ofNat (m + 1))
    have hvalue : Int.negSucc m = -(decimal (Text.ofNat (m + 1)) : Int) := by rw [← hm]; rfl
    -- an unsigned type has no negative number
    have hsigned : t.signed = true := by
      by_contra hunsigned
      unfold Holds at h
      rw [if_neg hunsigned] at h
      omega
    rw [hdisplay, hvalue]
    exact .minus hsigned _ hdecimal

end IntegerType

namespace Param

/-- **An integer parameter takes the numerals of the numbers that its type has**, each as its number
and no other. Every other text is refused, and named as it is. A number of the type is taken back
from how it is written. -/
theorem bind_integer (t : IntegerType) (step : Text) (index : Nat) (s : Text) :
    (∀ n, Param.bind step index s (.integer t) = .ok (.integer n) ↔
      t.Numeral s n ∧ t.Holds n) ∧
    (Param.bind step index s (.integer t)
        = .error { step, value := s, index, shape := .integer } ↔
      ¬ ∃ n, t.Numeral s n ∧ t.Holds n) ∧
    ∀ n, Param.bind step index (Value.integer n).display (.integer t) = .ok (.integer n) ↔
      t.Holds n := by
  have htaken (s : Text) (n : Int) : Param.bind step index s (.integer t) = .ok (.integer n) ↔
      t.Numeral s n ∧ t.Holds n := by
    rw [← IntegerType.read?_eq_some_iff, Param.bind]
    cases t.read? s with
    | some m => simp
    | none => simp
  refine ⟨htaken s, ?refused, ?written⟩
  case refused =>
    simp only [← IntegerType.read?_eq_some_iff]
    rw [Param.bind]
    cases t.read? s with
    | some m => simp
    | none => simp
  case written =>
    intro n
    rw [htaken]
    exact ⟨fun h => h.2, fun h => ⟨IntegerType.numeral_display h, h⟩⟩

end Param

/-- The least number of eight bits is taken, and the next one below it is not. -/
example :
    (⟨true, 8⟩ : IntegerType).read? "-00128".toList = some (-128) ∧
      (⟨true, 8⟩ : IntegerType).read? "-129".toList = none := by
  decide

end Gherkin
