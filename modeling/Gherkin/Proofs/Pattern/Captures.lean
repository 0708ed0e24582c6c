import Gherkin.Proofs.Pattern.Search
import Mathlib.Data.List.Induction

/-!
# What the groups of a pattern capture

A match tells for each group where it closed last (`captureOf`), and so what it captured: a part of
the text, or nothing if the group took no part in the match. The slots of a search hold the same
places, two for each group.

* `Program.isMatch_ofNode` — the program of a pattern matches a text as the pattern does.
* `Program.exists_of_captures?` — what the program captures are the captures of a match, one for
  each group of the pattern.
-/

namespace Gherkin.Pattern

/-- What a group captured of the text, nothing if it took no part in the match. -/
def captureText (t : Text) (cs : List Capture) (group : Nat) : Text :=
  ((captureOf cs group).map (·.text t)).getD []

/-- What the groups of a node captured, in the order of their numbers. -/
def Node.captureTexts (n : Node) (t : Text) (cs : List Capture) : List Text :=
  (List.range n.groups).map fun k => captureText t cs (k + 1)

theorem Node.length_captureTexts (n : Node) (t : Text) (cs : List Capture) :
    (n.captureTexts t cs).length = n.groups := by
  rw [captureTexts, List.length_map, List.length_range]

/-- A group that took no part in a match captures nothing. -/
theorem captureText_of_no_part {t : Text} {cs : List Capture} {group : Nat}
    (h : ∀ c ∈ cs, c.group ≠ group) : captureText t cs group = [] := by
  have hfilter : cs.filter (·.group = group) = [] :=
    List.filter_eq_nil_iff.mpr fun c hc => by simpa using h c hc
  rw [captureText, captureOf, hfilter]
  rfl

/-- What a group captured is a part of the text. -/
theorem captureText_isInfix (t : Text) (cs : List Capture) (group : Nat) :
    captureText t cs group <:+: t := by
  unfold captureText
  cases captureOf cs group with
  | none => exact List.nil_infix
  | some c => exact (List.take_prefix ..).isInfix.trans (List.drop_suffix ..).isInfix

/-! ## Captures and slots -/

theorem captureOf_concat (cs : List Capture) (c : Capture) (group : Nat) :
    captureOf (cs ++ [c]) group = if c.group = group then some c else captureOf cs group := by
  rw [captureOf_append]
  by_cases h : c.group = group
  · simp [captureOf, h]
  · simp [captureOf, h]

/-- Noting a capture fills the two slots of its group and no others. -/
theorem slots_note {c : Capture} (hpos : 0 < c.group) {k : Nat} {σ : Slots}
    (hk : 2 * k + 1 < σ.length) :
    (c.note σ)[2 * k]? = (if c.group = k + 1 then some (some c.start) else σ[2 * k]?) ∧
    (c.note σ)[2 * k + 1]? = if c.group = k + 1 then some (some c.stop) else σ[2 * k + 1]? := by
  unfold Capture.note
  by_cases h : c.group = k + 1
  · have hstart : 2 * c.group - 2 = 2 * k := by omega
    have hstop : 2 * c.group - 1 = 2 * k + 1 := by omega
    rw [hstart, hstop, if_pos h, if_pos h]
    constructor
    · rw [List.getElem?_set_ne (by omega), List.getElem?_set_self (by omega)]
    · rw [List.getElem?_set_self (by rwa [List.length_set])]
  · rw [if_neg h, if_neg h]
    constructor
    · rw [List.getElem?_set_ne (by omega), List.getElem?_set_ne (by omega)]
    · rw [List.getElem?_set_ne (by omega), List.getElem?_set_ne (by omega)]

/-- The slots of a group hold where it closed last. -/
theorem slots_noted {cs : List Capture} (hpos : ∀ c ∈ cs, 0 < c.group) {k m : Nat}
    (hk : 2 * k + 1 < m) :
    (noted cs (List.replicate m none))[2 * k]? = some ((captureOf cs (k + 1)).map (·.start)) ∧
    (noted cs (List.replicate m none))[2 * k + 1]?
      = some ((captureOf cs (k + 1)).map (·.stop)) := by
  induction cs using List.reverseRecOn with
  | nil =>
    constructor
    · exact (List.getElem?_replicate_of_lt (by omega)).trans rfl
    · exact (List.getElem?_replicate_of_lt hk).trans rfl
  | append_singleton cs c ih =>
    have hc : 0 < c.group := hpos c (List.mem_append_right _ (List.mem_singleton.mpr rfl))
    obtain ⟨hstart, hstop⟩ := ih fun d hd => hpos d (List.mem_append_left _ hd)
    have hlength : 2 * k + 1 < (noted cs (List.replicate m none)).length := by
      rwa [length_noted, List.length_replicate]
    obtain ⟨hnote, hnote'⟩ := slots_note hc hlength
    rw [noted_append, captureOf_concat]
    show (c.note (noted cs _))[2 * k]? = _ ∧ (c.note (noted cs _))[2 * k + 1]? = _
    rw [hnote, hnote', hstart, hstop]
    by_cases h : c.group = k + 1
    · simp only [if_pos h, Option.map_some, and_self]
    · simp only [if_neg h, and_self]

namespace Program

theorem length_captured (t : Text) (σ : Slots) : (captured t σ).length = σ.length / 2 := by
  fun_induction captured t σ with
  | case1 a b rest ih =>
    rw [List.length_cons, ih, List.length_cons, List.length_cons]
    omega
  | case2 σ hshort =>
    match σ, hshort with
    | [], _ => rfl
    | [_], _ => exact (Nat.div_eq_of_lt Nat.one_lt_two).symm
    | a :: b :: rest, h => exact absurd rfl (h a b rest)

theorem getElem?_captured {t : Text} {k : Nat} {σ : Slots} {a b : Option Nat}
    (ha : σ[2 * k]? = some a) (hb : σ[2 * k + 1]? = some b) :
    (captured t σ)[k]? = some (between t a b) := by
  induction k generalizing σ with
  | zero =>
    match σ, ha, hb with
    | x :: y :: rest, ha, hb =>
      obtain rfl : x = a := Option.some.inj ha
      obtain rfl : y = b := Option.some.inj hb
      rfl
  | succ k ih =>
    match σ, ha, hb with
    | x :: y :: rest, ha, hb => exact ih ha hb

/-- The slots of a match hold what the groups captured. -/
theorem captured_noted (t : Text) {cs : List Capture} (hpos : ∀ c ∈ cs, 0 < c.group) (n : Node) :
    captured t (noted cs (List.replicate (2 * n.groups) none)) = n.captureTexts t cs := by
  have hlength :
      (captured t (noted cs (List.replicate (2 * n.groups) none))).length = n.groups := by
    rw [length_captured, length_noted, List.length_replicate]
    omega
  refine List.ext_getElem? fun k => ?_
  by_cases hk : k < n.groups
  · obtain ⟨hstart, hstop⟩ := slots_noted hpos (show 2 * k + 1 < 2 * n.groups by omega)
    rw [getElem?_captured hstart hstop, Node.captureTexts, List.getElem?_map,
      List.getElem?_range hk, Option.map_some, captureText]
    cases captureOf cs (k + 1) with
    | none => rfl
    | some c => rfl
  · rw [List.getElem?_eq_none (by omega),
      List.getElem?_eq_none (by rw [n.length_captureTexts]; omega)]

/-! ## The program of a pattern -/

section OfNode

variable {n : Node} (hnumbered : n.Numbered) (hbounded : n.Bounded) (t : Text)

include hnumbered hbounded

/-- What a search for the pattern finds are the slots of one of its matches. -/
theorem exists_of_search {τ : Slots} (h : (ofNode n).search t = some τ) :
    ∃ i j cs, i ≤ t.length ∧ n.Matches t i j cs ∧
      τ = noted cs (List.replicate (2 * n.groups) none) := by
  have hnone : ∀ th ∈ ([] : List Thread), (ofNode n).Stems t 0 th := fun th hth =>
    absurd hth List.not_mem_nil
  have hnotYet : ∀ σ, (none : Option Slots) = some σ → (ofNode n).Reaches t σ := nofun
  obtain ⟨i, j, k, hi, haccepts⟩ :=
    reaches_of_searchFrom (List.drop_zero ..) (Nat.zero_le _) hnone hnotYet τ h
  obtain ⟨cs, hmatches, hτ⟩ := (accepts_iff t hnumbered hbounded i j _ τ).mp ⟨k, haccepts⟩
  exact ⟨i, j, cs, hi, hmatches, hτ⟩

/-- **The program of a pattern matches a text as the pattern does**: from some position of it. -/
theorem isMatch_ofNode :
    (ofNode n).isMatch t = true ↔ ∃ i j cs, i ≤ t.length ∧ n.Matches t i j cs := by
  constructor
  · intro h
    obtain ⟨τ, hτ⟩ := Option.isSome_iff_exists.mp h
    obtain ⟨i, j, cs, hi, hmatches, -⟩ := exists_of_search hnumbered hbounded t hτ
    exact ⟨i, j, cs, hi, hmatches⟩
  · intro h
    obtain ⟨i, j, cs, hi, hmatches⟩ := h
    obtain ⟨k, haccepts⟩ := (accepts_iff t hnumbered hbounded i j (ofNode n).fresh.slots _).mpr
      ⟨cs, hmatches, rfl⟩
    exact isSome_searchFrom (List.drop_zero ..)
      (Or.inr (Or.inr ⟨i, k, Nat.zero_le _, hi, _, j, _, haccepts⟩))

/-- **What the program of a pattern captures in a text are the captures of one of the matches**, one
for each group of the pattern. -/
theorem exists_of_captures? {texts : List Text} (h : (ofNode n).captures? t = some texts) :
    ∃ i j cs, i ≤ t.length ∧ n.Matches t i j cs ∧ texts = n.captureTexts t cs := by
  obtain ⟨τ, hτ, rfl⟩ := Option.map_eq_some_iff.mp h
  obtain ⟨i, j, cs, hi, hmatches, rfl⟩ := exists_of_search hnumbered hbounded t hτ
  have hpos : ∀ c ∈ cs, 0 < c.group := fun c hc =>
    hnumbered.2 _ ((n.within_matches t hmatches).2.2 c hc).1
  exact ⟨i, j, cs, hi, hmatches, captured_noted t hpos n⟩

/-- Of two groups to choose from, the one that takes no part has its text all the same. -/
example : (ofNode (.alt (.group 1 (.one (.singleton 'a'))) (.group 2 (.one (.singleton 'b'))))
    ).captures? ['c', 'b'] = some [[], ['b']] := by decide

end OfNode

end Program

end Gherkin.Pattern
