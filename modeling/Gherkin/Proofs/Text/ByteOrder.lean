import Gherkin.Proofs.Step.Candidates
import Mathlib.Algebra.Group.Nat.Defs
import Mathlib.Tactic.SplitIfs

/-!
# The order of bytes

Texts are ordered by their characters, and this is the order of their bytes in UTF-8
(`Text.le_iff_utf8_le`), because UTF-8 keeps the order of characters. A character becomes a first
byte and some number of further ones that hold six bits each (`byteSequence`). Of two that become as
many bytes the greater one is greater in the first byte in which they differ; if they become
different numbers of bytes, that is the first of all.
-/

namespace Gherkin.Text

/-- The bytes of the text in UTF-8. -/
def utf8 (t : Text) : List UInt8 := t.flatMap String.utf8EncodeChar

/-! ## The bytes of a character -/

/-- A number in bytes: the `k` last ones hold six bits each, and the first one holds what is left on
top of its base. -/
def byteSequence (base : Nat) : (k : Nat) → Nat → List UInt8
  | 0, n => [UInt8.ofNat (n + base)]
  | k + 1, n => byteSequence base k (n / 64) ++ [UInt8.ofNat (n % 64 + 128)]

theorem length_byteSequence (base k n : Nat) : (byteSequence base k n).length = k + 1 := by
  induction k generalizing n with
  | zero => rfl
  | succ k ih =>
    rw [byteSequence, List.length_append, ih]
    rfl

/-- Bytes that differ keep their order whatever follows them. -/
theorem append_lt_append {s t : List UInt8} (hlength : s.length = t.length) (h : s < t)
    (s' t' : List UInt8) : s ++ s' < t ++ t' := by
  induction s generalizing t with
  | nil =>
    obtain rfl := List.length_eq_zero_iff.mp hlength.symm
    exact absurd h (List.not_lt_nil [])
  | cons a s ih =>
    cases t with
    | nil => exact absurd hlength (by simp)
    | cons b t =>
      rcases List.cons_lt_cons_iff.mp h with hfirst | ⟨rfl, hrest⟩
      · exact List.cons_lt_cons_iff.mpr (Or.inl hfirst)
      · exact List.cons_lt_cons_iff.mpr (Or.inr ⟨rfl, ih (Nat.succ.inj hlength) hrest⟩)

theorem singleton_lt_singleton {m n : Nat} (h : m < n) (hbyte : n < 256) :
    [UInt8.ofNat m] < [UInt8.ofNat n] := by
  refine List.cons_lt_cons_iff.mpr (Or.inl ?_)
  rw [UInt8.lt_iff_toNat_lt, UInt8.toNat_ofNat', UInt8.toNat_ofNat']
  omega

/-- Sequences of as many bytes are ordered as their numbers, if the first byte can hold what it
is to. -/
theorem byteSequence_lt (base : Nat) {k m n : Nat} (h : m < n)
    (hfits : n < 64 ^ k * (256 - base)) : byteSequence base k m < byteSequence base k n := by
  induction k generalizing m n with
  | zero => exact singleton_lt_singleton (by omega) (by omega)
  | succ k ih =>
    have hfits' : n / 64 < 64 ^ k * (256 - base) := by
      rw [Nat.pow_succ'] at hfits
      exact Nat.div_lt_of_lt_mul (Nat.mul_assoc .. ▸ hfits)
    rw [byteSequence, byteSequence]
    rcases Nat.lt_or_eq_of_le (Nat.div_le_div_right (c := 64) (Nat.le_of_lt h)) with hlt | heq
    · have hlength : (byteSequence base k (m / 64)).length
          = (byteSequence base k (n / 64)).length := by
        rw [length_byteSequence, length_byteSequence]
      exact append_lt_append hlength (ih hlt hfits') _ _
    · -- only the last byte differs
      rw [heq]
      exact List.append_left_lt (singleton_lt_singleton (by omega) (by omega))

theorem byteSequence_eq_cons (base k n : Nat) :
    ∃ rest, byteSequence base k n = UInt8.ofNat (n / 64 ^ k + base) :: rest := by
  induction k generalizing n with
  | zero =>
    rw [Nat.pow_zero, Nat.div_one]
    exact ⟨[], rfl⟩
  | succ k ih =>
    obtain ⟨rest, hrest⟩ := ih (n / 64)
    rw [byteSequence, hrest, Nat.div_div_eq_div_mul, ← Nat.pow_succ']
    exact ⟨_, rfl⟩

/-- The forms of a character in UTF-8: which number of further bytes and which base of the first one
go with its code point. -/
inductive Utf8Form : (base k n : Nat) → Prop
  | one {n : Nat} : n ≤ 0x7F → Utf8Form 0 0 n
  | two {n : Nat} : 0x7F < n → n ≤ 0x7FF → Utf8Form 0xC0 1 n
  | three {n : Nat} : 0x7FF < n → n ≤ 0xFFFF → Utf8Form 0xE0 2 n
  | four {n : Nat} : 0xFFFF < n → n < 0x110000 → Utf8Form 0xF0 3 n

/-- Every character has a form. -/
theorem exists_utf8Form (c : Char) :
    ∃ base k, Utf8Form base k c.val.toNat ∧
      String.utf8EncodeChar c = byteSequence base k c.val.toNat := by
  have hlast : c.val.toNat < 0x110000 := by
    rcases c.valid with hc | ⟨-, hc⟩
    · omega
    · exact hc
  unfold String.utf8EncodeChar
  dsimp only
  generalize c.val.toNat = n at hlast
  split_ifs with h₁ h₂ h₃
  · exact ⟨0, 0, .one h₁, rfl⟩
  · refine ⟨0xC0, 1, .two (Nat.lt_of_not_le h₁) h₂, ?_⟩
    rw [Nat.mod_eq_of_lt (by omega : n / 64 < 32)]
    rfl
  · refine ⟨0xE0, 2, .three (Nat.lt_of_not_le h₂) h₃, ?_⟩
    rw [Nat.mod_eq_of_lt (by omega : n / 4096 < 16), ← Nat.div_div_eq_div_mul n 64 64]
    rfl
  · refine ⟨0xF0, 3, .four (Nat.lt_of_not_le h₃) hlast, ?_⟩
    rw [Nat.mod_eq_of_lt (by omega : n / 262144 < 8), ← Nat.div_div_eq_div_mul n 4096 64,
      ← Nat.div_div_eq_div_mul n 64 64]
    rfl

/-- Of two code points the greater one has the greater bytes, whatever follows. -/
theorem Utf8Form.byteSequence_lt {base base' k k' m n : Nat} (hm : Utf8Form base k m)
    (hn : Utf8Form base' k' n) (h : m < n) (s t : List UInt8) :
    byteSequence base k m ++ s < byteSequence base' k' n ++ t := by
  by_cases hk : k = k'
  case pos =>
    obtain rfl : base = base' := by cases hm <;> cases hn <;> simp_all
    subst hk
    have hfits : n < 64 ^ k * (256 - base) := by cases hn <;> omega
    have hlength : (byteSequence base k m).length = (byteSequence base k n).length := by
      rw [length_byteSequence, length_byteSequence]
    exact append_lt_append hlength (Text.byteSequence_lt base h hfits) s t
  case neg =>
    -- the greater one has more bytes
    have hfirst : m / 64 ^ k + base < n / 64 ^ k' + base' := by
      cases hm <;> cases hn <;> omega
    have hbyte : n / 64 ^ k' + base' < 256 := by cases hn <;> omega
    obtain ⟨rest, hrest⟩ := byteSequence_eq_cons base k m
    obtain ⟨rest', hrest'⟩ := byteSequence_eq_cons base' k' n
    rw [hrest, hrest']
    have hlead := singleton_lt_singleton hfirst hbyte
    refine append_lt_append ?_ hlead (rest ++ s) (rest' ++ t)
    rfl

/-- **The bytes of a character are less than those of a greater one**, whatever follows. -/
theorem utf8EncodeChar_lt {a b : Char} (h : a < b) (s t : List UInt8) :
    String.utf8EncodeChar a ++ s < String.utf8EncodeChar b ++ t := by
  obtain ⟨base, k, ha, hbytes⟩ := exists_utf8Form a
  obtain ⟨base', k', hb, hbytes'⟩ := exists_utf8Form b
  rw [hbytes, hbytes']
  exact ha.byteSequence_lt hb h s t

/-! ## Texts -/

/-- What begins alike is ordered as what follows. -/
theorem append_le_append_iff (s t u : List UInt8) : s ++ t ≤ s ++ u ↔ t ≤ u := by
  induction s with
  | nil => exact Iff.rfl
  | cons a s ih =>
    rw [List.cons_append, List.cons_append, List.cons_le_cons_iff, ih]
    simp

/-- **The order of texts is that of their bytes.** -/
theorem le_iff_utf8_le (s t : Text) : Text.le s t = true ↔ s.utf8 ≤ t.utf8 := by
  have hcons (a : Char) (s : Text) : utf8 (a :: s) = String.utf8EncodeChar a ++ utf8 s := rfl
  induction s generalizing t with
  | nil => exact iff_of_true rfl (List.nil_le _)
  | cons a s ih =>
    cases t with
    | nil =>
      refine iff_of_false Bool.false_ne_true ?_
      obtain ⟨base, k, -, hbytes⟩ := exists_utf8Form a
      obtain ⟨rest, hrest⟩ := byteSequence_eq_cons base k a.val.toNat
      rw [hcons, hbytes, hrest]
      exact List.not_le.mpr (List.nil_lt_cons _ _)
    | cons b t =>
      rw [hcons, hcons, Text.le, Bool.or_eq_true, decide_eq_true_eq, Bool.and_eq_true, beq_iff_eq]
      rcases Nat.lt_trichotomy a.toNat b.toNat with hab | hab | hab
      · have hab : a < b := hab
        exact iff_of_true (Or.inl hab) (List.le_of_lt (utf8EncodeChar_lt hab _ _))
      · obtain rfl : a = b := Char.toNat_inj.mp hab
        rw [append_le_append_iff]
        constructor
        · rintro (haa | ⟨-, hle⟩)
          · exact absurd haa (Char.lt_irrefl _)
          · exact (ih t).mp hle
        · intro hle
          exact Or.inr ⟨rfl, (ih t).mpr hle⟩
      · have hba : b < a := hab
        refine iff_of_false ?_ (List.not_le.mpr (utf8EncodeChar_lt hba _ _))
        rintro (hab | ⟨rfl, -⟩)
        · exact Char.lt_irrefl _ (Char.lt_trans hab hba)
        · exact Char.lt_irrefl _ hba

end Gherkin.Text
