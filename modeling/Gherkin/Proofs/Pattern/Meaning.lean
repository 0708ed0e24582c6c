import Gherkin.Pattern.Search

/-!
# What patterns match

`Node.Matches` says without a program what a node of a pattern matches: from which position of a
text to which, and what its groups capture on the way. It follows the tree. A sequence goes on where
its first part has stopped, a choice matches as either part does, and a repetition matches its body
as often in a row as its bounds allow. Captures are listed in the order in which the groups close,
so that what counts of a group is its last one (`captureOf`). Which of several matches is preferred
is not said here.

A meaning is a relation between two positions and the captures between them, and meanings are put
together by `andThen` and `rounds`, which obey the laws of a product and its powers.

* `Node.within_matches` — a match goes forward, stays in the text, and captures within itself for
  groups of the node.
-/

namespace Gherkin.Pattern

/-- The character before a position, absent at the start of the text. -/
def charBefore (t : Text) : (position : Nat) → Option Char
  | 0 => none
  | i + 1 => t[i]?

/-- That a group captured what stands between two positions. -/
structure Capture where
  group : Nat
  start : Nat
  stop : Nat
  deriving DecidableEq, Repr

/-- The text that was captured. -/
def Capture.text (t : Text) (c : Capture) : Text := (t.drop c.start).take (c.stop - c.start)

/-- What a group captured, if it did: what counts is where it closed last. -/
def captureOf (cs : List Capture) (group : Nat) : Option Capture :=
  (cs.filter (·.group = group)).getLast?

theorem captureOf_append (cs ds : List Capture) (group : Nat) :
    captureOf (cs ++ ds) group = (captureOf ds group).or (captureOf cs group) := by
  unfold captureOf
  rw [List.filter_append, List.getLast?_append]

/-! ## Meanings -/

/-- From which position to which something matches, with what captures on the way. -/
abbrev Meaning := Nat → Nat → List Capture → Prop

namespace Meaning

/-- Matches the empty text anywhere. -/
def nothing : Meaning := fun i j cs => j = i ∧ cs = []

/-- Matches as the one does and, where that has stopped, as the other. -/
def andThen (a b : Meaning) : Meaning := fun i k cs =>
  ∃ j ds es, a i j ds ∧ b j k es ∧ cs = ds ++ es

/-- Matches as either does. -/
def orElse (a b : Meaning) : Meaning := fun i j cs => a i j cs ∨ b i j cs

/-- Matches in a row, as many as counted. -/
def rounds (m : Meaning) : (count : Nat) → Meaning
  | 0 => nothing
  | count + 1 => m.andThen (rounds m count)

/-- Matches in a row, of a number that is among the counts. -/
def repeats (m : Meaning) (counts : Nat → Prop) : Meaning := fun i j cs =>
  ∃ count, counts count ∧ m.rounds count i j cs

theorem nothing_andThen (a : Meaning) : nothing.andThen a = a := by
  funext i k cs
  refine propext ⟨?_, fun h => ⟨i, [], cs, ⟨rfl, rfl⟩, h, rfl⟩⟩
  intro h
  obtain ⟨_, _, es, ⟨rfl, rfl⟩, h, rfl⟩ := h
  exact h

theorem andThen_nothing (a : Meaning) : a.andThen nothing = a := by
  funext i k cs
  refine propext ⟨?_, fun h => ⟨k, cs, [], h, ⟨rfl, rfl⟩, (List.append_nil cs).symm⟩⟩
  intro h
  obtain ⟨j, ds, _, h, ⟨rfl, rfl⟩, rfl⟩ := h
  rwa [List.append_nil]

theorem andThen_assoc (a b c : Meaning) : (a.andThen b).andThen c = a.andThen (b.andThen c) := by
  funext i l cs
  refine propext ⟨?_, ?_⟩
  · intro h
    obtain ⟨k, _, fs, ⟨j, ds, es, ha, hb, rfl⟩, hc, rfl⟩ := h
    exact ⟨j, ds, es ++ fs, ha, ⟨k, es, fs, hb, hc, rfl⟩, List.append_assoc ..⟩
  · intro h
    obtain ⟨j, ds, _, ha, ⟨k, es, fs, hb, hc, rfl⟩, rfl⟩ := h
    exact ⟨k, ds ++ es, fs, ⟨j, ds, es, ha, hb, rfl⟩, hc, (List.append_assoc ..).symm⟩

/-- Rounds may be counted in two parts. -/
theorem rounds_add (m : Meaning) (a b : Nat) :
    m.rounds (a + b) = (m.rounds a).andThen (m.rounds b) := by
  induction a with
  | zero => rw [Nat.zero_add, rounds, nothing_andThen]
  | succ a ih => rw [Nat.succ_add, rounds, rounds, ih, andThen_assoc]

theorem rounds_one (m : Meaning) : m.rounds 1 = m := andThen_nothing m

/-- Repetitions of the same counts are the same. -/
theorem repeats_congr (m : Meaning) {counts counts' : Nat → Prop}
    (h : ∀ count, counts count ↔ counts' count) : m.repeats counts = m.repeats counts' := by
  rw [funext fun count => propext (h count)]

/-- Some rounds after a fixed number of them. -/
theorem rounds_andThen_repeats (m : Meaning) (least : Nat) (counts : Nat → Prop) :
    (m.rounds least).andThen (m.repeats counts)
      = m.repeats fun count => ∃ later, counts later ∧ count = least + later := by
  funext i k cs
  refine propext ⟨?_, ?_⟩
  · intro h
    obtain ⟨j, ds, es, hfirst, ⟨later, hlater, hrest⟩, rfl⟩ := h
    refine ⟨least + later, ⟨later, hlater, rfl⟩, ?_⟩
    rw [rounds_add]
    exact ⟨j, ds, es, hfirst, hrest, rfl⟩
  · intro h
    obtain ⟨_, ⟨later, hlater, rfl⟩, h⟩ := h
    rw [rounds_add] at h
    obtain ⟨j, ds, es, hfirst, hrest, rfl⟩ := h
    exact ⟨j, ds, es, hfirst, ⟨later, hlater, hrest⟩, rfl⟩

/-- Any number of rounds after a fixed number of them. -/
theorem rounds_andThen_any (m : Meaning) (least : Nat) :
    (m.rounds least).andThen (m.repeats fun _ => True) = m.repeats fun count => least ≤ count := by
  rw [rounds_andThen_repeats]
  refine m.repeats_congr fun count => ⟨?_, fun h => ⟨count - least, trivial, by omega⟩⟩
  intro h
  obtain ⟨later, -, rfl⟩ := h
  exact Nat.le_add_right ..

/-- A repetition of one count only. -/
theorem repeats_eq_rounds (m : Meaning) (n : Nat) :
    (m.repeats fun count => count = n) = m.rounds n := by
  funext i j cs
  refine propext ⟨?_, fun h => ⟨n, rfl, h⟩⟩
  intro h
  obtain ⟨_, rfl, h⟩ := h
  exact h

/-- No round, or a first one and the others after it. -/
theorem repeats_eq_orElse (m : Meaning) (counts : Nat → Prop) :
    (m.andThen (m.repeats counts)).orElse nothing
      = m.repeats fun count => count = 0 ∨ ∃ later, counts later ∧ count = later + 1 := by
  funext i k cs
  refine propext ⟨?_, ?_⟩
  · intro h
    obtain ⟨j, ds, es, hfirst, ⟨later, hlater, hrest⟩, rfl⟩ | h := h
    · exact ⟨later + 1, Or.inr ⟨later, hlater, rfl⟩, j, ds, es, hfirst, hrest, rfl⟩
    · exact ⟨0, Or.inl rfl, h⟩
  · intro h
    obtain ⟨_, rfl | ⟨later, hlater, rfl⟩, h⟩ := h
    · exact Or.inr h
    · obtain ⟨j, ds, es, hfirst, hrest, rfl⟩ := h
      exact Or.inl ⟨j, ds, es, hfirst, ⟨later, hlater, hrest⟩, rfl⟩

/-- Any number of rounds: a first one and any number after it, or none. -/
theorem any_eq_orElse (m : Meaning) :
    (m.andThen (m.repeats fun _ => True)).orElse nothing = m.repeats fun _ => True := by
  rw [repeats_eq_orElse]
  refine m.repeats_congr fun count => ⟨fun _ => trivial, fun _ => ?_⟩
  cases count with
  | zero => exact Or.inl rfl
  | succ later => exact Or.inr ⟨later, trivial, rfl⟩

/-- At most so many rounds: a first one and one less after it, or none. -/
theorem atMost_succ (m : Meaning) (most : Nat) :
    (m.andThen (m.repeats fun count => count ≤ most)).orElse nothing
      = m.repeats fun count => count ≤ most + 1 := by
  rw [repeats_eq_orElse]
  refine m.repeats_congr fun count => ?_
  cases count with
  | zero => simp
  | succ later => simp

end Meaning

/-! ## The meaning of a node -/

namespace Node

/-- What the node matches in the text. -/
def Matches (t : Text) : Node → Meaning
  | empty => .nothing
  | one set => fun i j cs => (∃ c, t[i]? = some c ∧ set.contains c = true) ∧ j = i + 1 ∧ cs = []
  | assertion a => fun i j cs => a.holds (charBefore t i) t[i]? = true ∧ j = i ∧ cs = []
  | group n body => fun i j cs =>
    ∃ ds, body.Matches t i j ds ∧ cs = ds ++ [{ group := n, start := i, stop := j }]
  | seq a b => (a.Matches t).andThen (b.Matches t)
  | alt a b => (a.Matches t).orElse (b.Matches t)
  | .iterate body least most _ =>
    (body.Matches t).repeats fun count => least ≤ count ∧ ∀ m, most = some m → count ≤ m

/-- The numbers of the groups in the node, in the order in which they open. -/
def numbers : Node → List Nat
  | empty | one _ | assertion _ => []
  | group n body => n :: body.numbers
  | seq a b | alt a b => a.numbers ++ b.numbers
  | .iterate body _ _ _ => body.numbers

/-- No repetition in the node has its bounds the wrong way round. -/
def Bounded : Node → Prop
  | empty | one _ | assertion _ => True
  | group _ body => body.Bounded
  | seq a b | alt a b => a.Bounded ∧ b.Bounded
  | .iterate body least most _ => (∀ m, most = some m → least ≤ m) ∧ body.Bounded

/-- Groups are numbered from 1 in the order in which they open. -/
def Numbered (n : Node) : Prop := n.numbers.Pairwise (· < ·) ∧ ∀ k ∈ n.numbers, 0 < k

/-- A part that has some of the groups is numbered as the whole is. -/
theorem Numbered.mono {n part : Node} (h : n.Numbered) (hsub : part.numbers.Sublist n.numbers) :
    part.Numbered :=
  ⟨h.1.sublist hsub, fun k hk => h.2 k (hsub.subset hk)⟩

/-- No group has a number beyond the last one. -/
theorem le_groups_of_mem_numbers {n : Node} {k : Nat} (h : k ∈ n.numbers) : k ≤ n.groups := by
  induction n with
  | empty | one _ | assertion _ => exact absurd h List.not_mem_nil
  | group n body ih =>
    unfold groups
    rcases List.mem_cons.mp h with rfl | hbody
    · exact Nat.le_max_left ..
    · exact Nat.le_trans (ih hbody) (Nat.le_max_right ..)
  | seq a b iha ihb | alt a b iha ihb =>
    unfold groups
    rcases List.mem_append.mp h with ha | hb
    · exact Nat.le_trans (iha ha) (Nat.le_max_left ..)
    · exact Nat.le_trans (ihb hb) (Nat.le_max_right ..)
  | iterate body _ _ _ ih => exact ih h

/-- The highest number is that of a group, if there is one. -/
theorem groups_mem_numbers (n : Node) (h : 0 < n.groups) : n.groups ∈ n.numbers := by
  induction n with
  | empty | one _ | assertion _ => exact absurd h (Nat.lt_irrefl 0)
  | group n body ih =>
    unfold groups numbers
    by_cases hle : body.groups ≤ n
    · rw [Nat.max_eq_left hle]
      exact List.mem_cons_self ..
    · rw [Nat.max_eq_right (Nat.le_of_not_le hle)]
      exact List.mem_cons_of_mem _ (ih (by omega))
  | seq a b iha ihb | alt a b iha ihb =>
    unfold groups at h ⊢
    unfold numbers
    by_cases hle : b.groups ≤ a.groups
    · rw [Nat.max_eq_left hle] at h ⊢
      exact List.mem_append_left _ (iha h)
    · rw [Nat.max_eq_right (Nat.le_of_not_le hle)] at h ⊢
      exact List.mem_append_right _ (ihb h)
  | iterate body _ _ _ ih => exact ih h

end Node

/-! ## Matches within the text -/

namespace Meaning

variable {a b m : Meaning} {t : Text} {groups groups' : List Nat}

/-- What is meant goes forward, stays in the text, and captures within itself for some groups. -/
def Within (m : Meaning) (t : Text) (groups : List Nat) : Prop :=
  ∀ ⦃i j : Nat⦄ ⦃cs : List Capture⦄, m i j cs →
    i ≤ j ∧ (i ≤ t.length → j ≤ t.length) ∧
    ∀ c ∈ cs, c.group ∈ groups ∧ i ≤ c.start ∧ c.start ≤ c.stop ∧ c.stop ≤ j

theorem Within.mono (h : m.Within t groups) (hsub : groups ⊆ groups') : m.Within t groups' := by
  intro i j cs hm
  obtain ⟨hle, hin, hcs⟩ := h hm
  exact ⟨hle, hin, fun c hc => ⟨hsub (hcs c hc).1, (hcs c hc).2⟩⟩

theorem within_nothing : nothing.Within t groups := by
  intro i _ _ h
  obtain ⟨rfl, rfl⟩ := h
  exact ⟨Nat.le_refl _, fun hi => hi, fun c hc => absurd hc List.not_mem_nil⟩

theorem Within.andThen (ha : a.Within t groups) (hb : b.Within t groups) :
    (a.andThen b).Within t groups := by
  intro i k cs h
  obtain ⟨j, ds, es, hi, hj, rfl⟩ := h
  obtain ⟨hij, hin, hds⟩ := ha hi
  obtain ⟨hjk, hin', hes⟩ := hb hj
  refine ⟨Nat.le_trans hij hjk, fun h => hin' (hin h), ?_⟩
  intro c hc
  rcases List.mem_append.mp hc with hc | hc
  · obtain ⟨hgroup, hstart, hle, hstop⟩ := hds c hc
    exact ⟨hgroup, hstart, hle, Nat.le_trans hstop hjk⟩
  · obtain ⟨hgroup, hstart, hle, hstop⟩ := hes c hc
    exact ⟨hgroup, Nat.le_trans hij hstart, hle, hstop⟩

theorem Within.rounds (h : m.Within t groups) (count : Nat) : (m.rounds count).Within t groups := by
  induction count with
  | zero => exact within_nothing
  | succ count ih => exact h.andThen ih

end Meaning

/-- **A match goes forward, stays in the text, and captures within itself.** -/
theorem Node.within_matches (t : Text) (n : Node) : (n.Matches t).Within t n.numbers := by
  induction n with
  | empty => exact Meaning.within_nothing
  | one set =>
    intro i j cs h
    obtain ⟨⟨c, hc, -⟩, rfl, rfl⟩ := h
    have hi : i < t.length := (List.getElem?_eq_some_iff.mp hc).1
    exact ⟨Nat.le_succ i, fun _ => hi, fun c hc => absurd hc List.not_mem_nil⟩
  | assertion a =>
    intro i j cs h
    obtain ⟨-, hj⟩ := h
    exact Meaning.within_nothing hj
  | group n body ih =>
    intro i j cs h
    obtain ⟨ds, hbody, rfl⟩ := h
    obtain ⟨hle, hin, hds⟩ := ih hbody
    refine ⟨hle, hin, ?_⟩
    intro c hc
    rcases List.mem_append.mp hc with hc | hc
    · exact ⟨List.mem_cons_of_mem _ (hds c hc).1, (hds c hc).2⟩
    · obtain rfl := List.mem_singleton.mp hc
      exact ⟨List.mem_cons_self .., Nat.le_refl i, hle, Nat.le_refl j⟩
  | seq a b iha ihb =>
    exact (iha.mono (List.subset_append_left ..)).andThen (ihb.mono (List.subset_append_right ..))
  | alt a b iha ihb =>
    intro i j cs h
    obtain ha | hb := h
    · exact (iha.mono (List.subset_append_left ..)) ha
    · exact (ihb.mono (List.subset_append_right ..)) hb
  | iterate body least most greedy ih =>
    intro i j cs h
    obtain ⟨count, -, hrounds⟩ := h
    exact ih.rounds count hrounds

end Gherkin.Pattern
