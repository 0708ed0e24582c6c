import Gherkin.Proofs.Pattern.Numbering

/-!
# Simplified patterns match the same

A pattern is searched for in its simplified form. Its repetitions have then changed in two ways: one
of no rounds has become the empty pattern, and one whose body can only match the empty text makes
one round where it made several. Neither changes where the pattern matches. What the groups capture
stays possible too, since a round that takes nothing can be made again and captures the same again.

What does change is which groups are there. Those of a part that is repeated no times are gone, so
the last group that is left (`Node.lastKept`) may not be the last one that is written.

* `Node.matches_of_simplified` — a match of the simplified pattern is one of the pattern as written,
  in which every group captures the same.
* `Node.exists_matches_simplified` — where the pattern as written matches, the simplified one does.
* `Node.groups_simplified` — the simplified pattern has groups up to the last that is kept.
* `Node.numbered_of_read?` — what is searched for has its groups numbered from left to right.
-/

namespace Gherkin.Pattern

/-! ## Meanings that go as far -/

/-- Every group has captured the same, if what counts is where it closed last. -/
def Agree (cs ds : List Capture) : Prop := ∀ group, captureOf cs group = captureOf ds group

/-- That captures may be put one after another on both sides. -/
structure Composes (R : List Capture → List Capture → Prop) : Prop where
  refl : ∀ cs, R cs cs
  append : ∀ {cs ds cs' ds'}, R cs ds → R cs' ds' → R (cs ++ cs') (ds ++ ds')

theorem composes_agree : Composes Agree where
  refl _ _ := rfl
  append h h' group := by rw [captureOf_append, captureOf_append, h group, h' group]

/-- Any captures at all. -/
theorem composes_any : Composes fun _ _ => True where
  refl _ := trivial
  append _ _ := trivial

namespace Meaning

variable {R : List Capture → List Capture → Prop} {a a' b b' m m' : Meaning}
  {counts : Nat → Prop}

/-- Where the one matches the other does, with captures that are related. -/
def Refines (R : List Capture → List Capture → Prop) (a b : Meaning) : Prop :=
  ∀ ⦃i j : Nat⦄ ⦃cs : List Capture⦄, a i j cs → ∃ ds, b i j ds ∧ R cs ds

theorem Refines.refl (hR : Composes R) (m : Meaning) : m.Refines R m :=
  fun _ _ cs h => ⟨cs, h, hR.refl cs⟩

theorem Refines.andThen (hR : Composes R) (ha : a.Refines R a') (hb : b.Refines R b') :
    (a.andThen b).Refines R (a'.andThen b') := by
  intro i k cs h
  obtain ⟨j, ds, es, hfirst, hrest, rfl⟩ := h
  obtain ⟨ds', hfirst', hds⟩ := ha hfirst
  obtain ⟨es', hrest', hes⟩ := hb hrest
  exact ⟨ds' ++ es', ⟨j, ds', es', hfirst', hrest', rfl⟩, hR.append hds hes⟩

theorem Refines.orElse (ha : a.Refines R a') (hb : b.Refines R b') :
    (a.orElse b).Refines R (a'.orElse b') := by
  intro i j cs h
  obtain h | h := h
  · obtain ⟨ds, hds, hcs⟩ := ha h
    exact ⟨ds, Or.inl hds, hcs⟩
  · obtain ⟨ds, hds, hcs⟩ := hb h
    exact ⟨ds, Or.inr hds, hcs⟩

theorem Refines.rounds (hR : Composes R) (h : m.Refines R m') (count : Nat) :
    (m.rounds count).Refines R (m'.rounds count) := by
  induction count with
  | zero => exact .refl hR nothing
  | succ count ih => exact h.andThen hR ih

theorem Refines.repeats (hR : Composes R) (h : m.Refines R m') :
    (m.repeats counts).Refines R (m'.repeats counts) := by
  intro i j cs hm
  obtain ⟨count, hcount, hrounds⟩ := hm
  obtain ⟨ds, hds, hcs⟩ := h.rounds hR count hrounds
  exact ⟨ds, ⟨count, hcount, hds⟩, hcs⟩

/-! ## Rounds that take nothing -/

/-- What is meant takes no character. -/
def Still (m : Meaning) : Prop := ∀ ⦃i j : Nat⦄ ⦃cs : List Capture⦄, m i j cs → j = i

/-- Of rounds that take nothing, the first may stand for all. -/
theorem Still.first (h : m.Still) {count i j : Nat} {cs : List Capture}
    (hrounds : m.rounds (count + 1) i j cs) : j = i ∧ ∃ ds, m i i ds := by
  induction count generalizing i cs with
  | zero =>
    rw [rounds_one] at hrounds
    obtain rfl := h hrounds
    exact ⟨rfl, cs, hrounds⟩
  | succ count ih =>
    obtain ⟨k, ds, es, hfirst, hrest, -⟩ := hrounds
    obtain rfl := h hfirst
    exact ⟨(ih hrest).1, ds, hfirst⟩

/-- A round that takes nothing may be made again, and captures the same again. -/
theorem again {i : Nat} {cs : List Capture} (h : m i i cs) (count : Nat) :
    ∃ ds, m.rounds (count + 1) i i ds ∧ Agree cs ds := by
  induction count with
  | zero => exact ⟨cs, by rwa [rounds_one], fun _ => rfl⟩
  | succ count ih =>
    obtain ⟨ds, hrounds, hcs⟩ := ih
    refine ⟨cs ++ ds, ⟨i, cs, ds, h, hrounds, rfl⟩, ?_⟩
    intro group
    rw [captureOf_append, ← hcs group]
    cases captureOf cs group <;> rfl

end Meaning

/-! ## One repetition -/

namespace Node

variable {t : Text} {body : Node} {least : Nat} {most : Option Nat} {greedy : Bool}

/-- What can only match the empty text takes no character. -/
theorem still_of_zeroWidth {n : Node} (h : n.zeroWidth = true) : (n.Matches t).Still := by
  induction n with
  | empty =>
    intro i j cs hm
    exact hm.1
  | one set => cases h
  | assertion a =>
    intro i j cs hm
    exact hm.2.1
  | group n body ih =>
    intro i j cs hm
    obtain ⟨ds, hbody, -⟩ := hm
    exact ih h hbody
  | seq a b iha ihb =>
    obtain ⟨ha, hb⟩ := Bool.and_eq_true_iff.mp h
    intro i k cs hm
    obtain ⟨j, ds, es, hfirst, hrest, -⟩ := hm
    rw [ihb hb hrest, iha ha hfirst]
  | alt a b iha ihb =>
    obtain ⟨ha, hb⟩ := Bool.and_eq_true_iff.mp h
    intro i j cs hm
    obtain hm | hm := hm
    · exact iha ha hm
    · exact ihb hb hm
  | iterate body least most greedy ih =>
    intro i j cs hm
    obtain ⟨count, -, hrounds⟩ := hm
    cases count with
    | zero => exact hrounds.1
    | succ count => exact ((ih h).first hrounds).1

/-- A repetition with one count makes that many rounds. -/
theorem matches_exactly (body : Node) (count : Nat) (greedy : Bool) :
    (Node.iterate body count (some count) greedy).Matches t = (body.Matches t).rounds count := by
  rw [← Meaning.repeats_eq_rounds]
  refine Meaning.repeats_congr _ fun count' => ⟨fun h => Nat.le_antisymm (h.2 count rfl) h.1, ?_⟩
  intro h
  exact ⟨Nat.le_of_eq h.symm, fun m hm => Option.some.inj hm ▸ Nat.le_of_eq h⟩

theorem matches_rounds (body : Node) (least : Nat) (most : Option Nat) (greedy : Bool) :
    (body.rounds least most greedy).Matches t
      = (Node.iterate body least most greedy).Matches t := by
  unfold rounds
  split
  · exact (matches_exactly body 0 greedy).symm
  · rw [matches_exactly, Meaning.rounds_one]
  · rfl

/-- What a repetition has become matches as the repetition does, or as the one of at most one round
does if the body takes nothing. -/
theorem matches_repeated (body : Node) (least : Nat) (most : Option Nat) (greedy : Bool) :
    (repeated body least most greedy).Matches t
      = if body.zeroWidth then
          (Node.iterate body (min least 1) (some (min (most.getD 1) 1)) greedy).Matches t
        else (Node.iterate body least most greedy).Matches t := by
  unfold repeated
  split
  · exact matches_rounds ..
  · exact matches_rounds ..

/-- What a repetition has become matches where the repetition does, with the same captures. -/
theorem refines_of_repeated (hbounds : ∀ m, most = some m → least ≤ m) :
    ((repeated body least most greedy).Matches t).Refines Agree
      ((Node.iterate body least most greedy).Matches t) := by
  rw [matches_repeated]
  split
  next hzero =>
    intro i j cs hm
    obtain ⟨count, ⟨hleast, hmost⟩, hrounds⟩ := hm
    have hmost := hmost _ rfl
    cases count with
    | zero => exact ⟨cs, ⟨0, ⟨by omega, fun _ _ => Nat.zero_le _⟩, hrounds⟩, fun _ => rfl⟩
    | succ count =>
      obtain rfl : count = 0 := by omega
      rw [Meaning.rounds_one] at hrounds
      obtain rfl := still_of_zeroWidth hzero hrounds
      -- as many rounds as there have to be
      obtain ⟨ds, hagain, hcs⟩ := Meaning.again hrounds (least - 1)
      refine ⟨ds, ⟨least - 1 + 1, ⟨by omega, ?_⟩, hagain⟩, hcs⟩
      intro m hm
      have hle := hbounds m hm
      rw [hm, Option.getD_some] at hmost
      omega
  next => exact .refl composes_agree _

/-- What a repetition has become matches wherever the repetition does. -/
theorem refines_repeated :
    ((Node.iterate body least most greedy).Matches t).Refines (fun _ _ => True)
      ((repeated body least most greedy).Matches t) := by
  rw [matches_repeated]
  split
  next hzero =>
    intro i j cs hm
    obtain ⟨count, ⟨hleast, hmost⟩, hrounds⟩ := hm
    cases count with
    | zero => exact ⟨cs, ⟨0, ⟨by omega, fun _ _ => Nat.zero_le _⟩, hrounds⟩, trivial⟩
    | succ count =>
      obtain ⟨rfl, ds, hfirst⟩ := (still_of_zeroWidth hzero).first hrounds
      refine ⟨ds, ⟨1, ⟨by omega, ?_⟩, by rwa [Meaning.rounds_one]⟩, trivial⟩
      intro m hm
      obtain rfl := Option.some.inj hm
      cases most with
      | none => exact Nat.le_refl 1
      | some most =>
        have hle := hmost most rfl
        show 1 ≤ min most 1
        omega
  next => exact .refl composes_any _

/-! ## The whole pattern -/

/-- A group captures alike around what captures alike. -/
theorem refines_group {R : List Capture → List Capture → Prop} (hR : Composes R) (k : Nat)
    {n n' : Node} (h : (n.Matches t).Refines R (n'.Matches t)) :
    ((Node.group k n).Matches t).Refines R ((Node.group k n').Matches t) := by
  intro i j cs hm
  obtain ⟨ds, hbody, rfl⟩ := hm
  obtain ⟨es, hbody', hds⟩ := h hbody
  exact ⟨es ++ [{ group := k, start := i, stop := j }], ⟨es, hbody', rfl⟩,
    hR.append hds (hR.refl _)⟩

/-- **A match of the simplified pattern is one of the pattern as written**, in which every group
captures the same. -/
theorem matches_of_simplified {n : Node} (h : n.Bounded) :
    (n.simplified.Matches t).Refines Agree (n.Matches t) := by
  induction n with
  | empty | one _ | assertion _ => exact .refl composes_agree _
  | group k body ih => exact refines_group composes_agree k (ih h)
  | seq a b iha ihb => exact (iha h.1).andThen composes_agree (ihb h.2)
  | alt a b iha ihb => exact (iha h.1).orElse (ihb h.2)
  | iterate body least most greedy ih =>
    intro i j cs hm
    obtain ⟨ds, hds, hcs⟩ := refines_of_repeated h.1 hm
    obtain ⟨es, hes, hagree⟩ := (ih h.2).repeats composes_agree hds
    exact ⟨es, hes, fun group => (hcs group).trans (hagree group)⟩

/-- **Where the pattern as written matches, the simplified one does.** -/
theorem exists_matches_simplified (t : Text) (n : Node) :
    (n.Matches t).Refines (fun _ _ => True) (n.simplified.Matches t) := by
  induction n with
  | empty | one _ | assertion _ => exact .refl composes_any _
  | group k body ih => exact refines_group composes_any k ih
  | seq a b iha ihb => exact iha.andThen composes_any ihb
  | alt a b iha ihb => exact iha.orElse ihb
  | iterate body least most greedy ih =>
    intro i j cs hm
    obtain ⟨ds, hds, -⟩ := ih.repeats composes_any hm
    exact refines_repeated hds

/-! ## Groups that are kept -/

theorem numbers_rounds (body : Node) (least : Nat) (most : Option Nat) (greedy : Bool) :
    (body.rounds least most greedy).numbers.Sublist body.numbers := by
  unfold rounds
  split
  · exact List.nil_sublist _
  · exact List.Sublist.refl _
  · exact List.Sublist.refl _

/-- A repetition has the groups of its body, or none. -/
theorem numbers_repeated (body : Node) (least : Nat) (most : Option Nat) (greedy : Bool) :
    (repeated body least most greedy).numbers.Sublist body.numbers := by
  unfold repeated
  split
  · exact numbers_rounds ..
  · exact numbers_rounds ..

/-- With a second round given up, the bounds are still the right way round. -/
theorem bounds_once (hbounds : ∀ m, most = some m → least ≤ m) :
    ∀ m, some (min (most.getD 1) 1) = some m → min least 1 ≤ m := by
  intro m hm
  obtain rfl := Option.some.inj hm
  cases most with
  | none => exact Nat.min_le_right ..
  | some most =>
    have hle : least ≤ most := hbounds most rfl
    show min least 1 ≤ min most 1
    omega

theorem bounded_rounds (greedy : Bool) (hbody : body.Bounded)
    (hbounds : ∀ m, most = some m → least ≤ m) : (body.rounds least most greedy).Bounded := by
  unfold rounds
  split
  · trivial
  · exact hbody
  · exact ⟨hbounds, hbody⟩

theorem bounded_repeated (greedy : Bool) (hbody : body.Bounded)
    (hbounds : ∀ m, most = some m → least ≤ m) : (repeated body least most greedy).Bounded := by
  unfold repeated
  split
  · exact bounded_rounds greedy hbody (bounds_once hbounds)
  · exact bounded_rounds greedy hbody hbounds

/-- The simplified pattern has some of the groups, in their order. -/
theorem numbers_simplified (n : Node) : n.simplified.numbers.Sublist n.numbers := by
  induction n with
  | empty | one _ | assertion _ => exact List.Sublist.refl _
  | group k body ih => exact ih.cons_cons k
  | seq a b iha ihb | alt a b iha ihb => exact iha.append ihb
  | iterate body least most greedy ih => exact (numbers_repeated ..).trans ih

theorem bounded_simplified {n : Node} (h : n.Bounded) : n.simplified.Bounded := by
  induction n with
  | empty | one _ | assertion _ => trivial
  | group k body ih => exact ih h
  | seq a b iha ihb | alt a b iha ihb => exact ⟨iha h.1, ihb h.2⟩
  | iterate body least most greedy ih => exact bounded_repeated greedy (ih h.2) h.1

/-- The number of the last group that is in no part repeated no times, 0 if there is none. -/
def lastKept : Node → Nat
  | empty | one _ | assertion _ => 0
  | group n body => max n body.lastKept
  | seq a b | alt a b => max a.lastKept b.lastKept
  | .iterate body _ most _ => if most = some 0 then 0 else body.lastKept

/-- No part that has groups is repeated no times. -/
def KeepsGroups : Node → Prop
  | empty | one _ | assertion _ => True
  | group _ body => body.KeepsGroups
  | seq a b | alt a b => a.KeepsGroups ∧ b.KeepsGroups
  | .iterate body _ most _ => (most = some 0 → body.numbers = []) ∧ body.KeepsGroups

/-- Where no group is lost, the last one that is kept is the last one that is written. -/
theorem lastKept_eq_groups {n : Node} (h : n.KeepsGroups) : n.lastKept = n.groups := by
  induction n with
  | empty | one _ | assertion _ => rfl
  | group k body ih => rw [lastKept, groups, ih h]
  | seq a b iha ihb | alt a b iha ihb => rw [lastKept, groups, iha h.1, ihb h.2]
  | iterate body least most greedy ih =>
    unfold lastKept groups
    rw [ih h.2]
    split
    next hmost =>
      rcases Nat.eq_zero_or_pos body.groups with hzero | hpos
      · exact hzero.symm
      · have hmem := body.groups_mem_numbers hpos
        rw [h.1 hmost] at hmem
        exact absurd hmem List.not_mem_nil
    next => rfl

theorem groups_rounds (greedy : Bool) (hbounds : ∀ m, most = some m → least ≤ m) :
    (body.rounds least most greedy).groups = if most = some 0 then 0 else body.groups := by
  unfold rounds
  split
  next => rw [if_pos rfl]; rfl
  next => rfl
  next hnone hone =>
    split
    next hmost =>
      subst hmost
      exact absurd (Nat.le_zero.mp (hbounds 0 rfl)) fun hleast => hnone hleast rfl
    next => rfl

/-- What a repetition has become has the groups of its body, unless it makes no rounds. -/
theorem groups_repeated (greedy : Bool) (hbounds : ∀ m, most = some m → least ≤ m) :
    (repeated body least most greedy).groups = if most = some 0 then 0 else body.groups := by
  unfold repeated
  split
  next =>
    -- a body that takes nothing keeps a round if it had one
    rw [groups_rounds greedy (bounds_once hbounds)]
    cases most with
    | none => rfl
    | some most =>
      have hiff : some (min most 1) = some 0 ↔ some most = some 0 := by
        rw [Option.some.injEq, Option.some.injEq]
        omega
      simp only [Option.getD_some, hiff]
  next => exact groups_rounds greedy hbounds

/-- The simplified pattern has groups up to the last that is kept. -/
theorem groups_simplified {n : Node} (h : n.Bounded) : n.simplified.groups = n.lastKept := by
  induction n with
  | empty | one _ | assertion _ => rfl
  | group k body ih => rw [simplified, groups, lastKept, ih h]
  | seq a b iha ihb | alt a b iha ihb => rw [simplified, groups, lastKept, iha h.1, ihb h.2]
  | iterate body least most greedy ih =>
    rw [simplified, groups_repeated greedy h.1, lastKept, ih h.2]

/-! ## The simplified pattern of a text -/

section Read

variable {source : Text} {n : Node}

theorem exists_written_of_read? (h : read? source = some n) :
    ∃ w, written? source = some w ∧ n = w.simplified := by
  obtain ⟨w, hw, hread⟩ := Option.bind_eq_some_iff.mp h
  split at hread
  next => exact ⟨w, hw, (Option.some.inj hread).symm⟩
  next => cases hread

/-- A pattern is read if its text is one and its simplified form is not too large. -/
theorem read?_of_written? (h : written? source = some n)
    (hcost : Reader.fixedCost + n.simplified.cost ≤ Reader.maxCost) :
    read? source = some n.simplified := by
  unfold read?
  rw [h]
  exact if_pos hcost

/-- What is simplified has lost groups at most. -/
theorem numbered_simplified (h : written? source = some n) :
    n.simplified.Numbered ∧ n.simplified.Bounded := by
  obtain ⟨hnumbers, hbounded⟩ := numbered_of_written? h
  have hnumbered : n.Numbered := by
    refine ⟨hnumbers ▸ List.pairwise_lt_range', ?_⟩
    intro k hk
    rw [hnumbers, List.mem_range'_1] at hk
    exact hk.1
  exact ⟨hnumbered.mono n.numbers_simplified, bounded_simplified hbounded⟩

/-- **What is searched for has its groups numbered from left to right**, and no repetition with its
bounds the wrong way round. -/
theorem numbered_of_read? (h : read? source = some n) : n.Numbered ∧ n.Bounded := by
  obtain ⟨w, hw, rfl⟩ := exists_written_of_read? h
  exact numbered_simplified hw

end Read

end Node

end Gherkin.Pattern
