import Gherkin.Pattern.Reader
import Gherkin.Proofs.Pattern.Meaning

/-!
# Groups are numbered as they are read

The reader counts the groups that capture and gives each its number when it opens. What is read so
far has therefore all the numbers up to the count, from left to right, in the finished parts and in
the open levels around them (`Reader.Sound`), and so has the tree of the pattern as it is written.

* `Reader.Sound.step` — reading an item, an operator or a bracket keeps to that.
* `Node.numbered_of_written?` — the groups of a pattern have the numbers from 1 on in the order in
  which they open, and no repetition has its bounds the wrong way round.
-/

namespace Gherkin.Pattern

/-! ## Nodes made of nodes -/

namespace Node

theorem numbers_sequence (ns : List Node) : (sequence ns).numbers = ns.flatMap numbers := by
  fun_induction sequence ns with
  | case1 => rfl
  | case2 n => exact (List.append_nil _).symm
  | case3 n rest _ ih => rw [numbers, ih, List.flatMap_cons]

theorem numbers_choice (ns : List Node) : (choice ns).numbers = ns.flatMap numbers := by
  fun_induction choice ns with
  | case1 => rfl
  | case2 n => exact (List.append_nil _).symm
  | case3 n rest _ ih => rw [numbers, ih, List.flatMap_cons]

theorem bounded_sequence {ns : List Node} (h : ∀ n ∈ ns, n.Bounded) : (sequence ns).Bounded := by
  fun_induction sequence ns with
  | case1 => trivial
  | case2 n => exact h n (List.mem_singleton.mpr rfl)
  | case3 n rest _ ih =>
    obtain ⟨hn, hrest⟩ := List.forall_mem_cons.mp h
    exact ⟨hn, ih hrest⟩

theorem bounded_choice {ns : List Node} (h : ∀ n ∈ ns, n.Bounded) : (choice ns).Bounded := by
  fun_induction choice ns with
  | case1 => trivial
  | case2 n => exact h n (List.mem_singleton.mpr rfl)
  | case3 n rest _ ih =>
    obtain ⟨hn, hrest⟩ := List.forall_mem_cons.mp h
    exact ⟨hn, ih hrest⟩

/-- The node has no groups and no repetitions. -/
def Leaf (n : Node) : Prop := n.numbers = [] ∧ n.Bounded

end Node

/-! ## What is read so far -/

namespace Reader

/-- The numbers of the groups in some items, the latest of which comes first. -/
def numbersOf (items : List Item) : List Nat := items.reverse.flatMap fun item => item.node.numbers

/-- The numbers of the groups in a choice that is still open. -/
def OpenChoice.numbers (level : OpenChoice) : List Nat :=
  numbersOf level.done ++ numbersOf level.items

/-- The numbers of the groups around the innermost level, those that are open included. -/
def numbersAround : List OpenGroup → List Nat
  | [] => []
  | group :: outer => numbersAround outer ++ group.around.numbers ++ group.number.toList

theorem numbersOf_cons (item : Item) (items : List Item) :
    numbersOf (item :: items) = numbersOf items ++ item.node.numbers := by
  unfold numbersOf
  rw [List.reverse_cons, List.flatMap_append, List.flatMap_singleton]

theorem numbers_ofSequence (items : List Item) :
    (Item.ofSequence items).node.numbers = numbersOf items := by
  unfold Item.ofSequence
  split
  · rfl
  · exact (List.append_nil _).symm
  · show (Node.sequence _).numbers = _
    rw [Node.numbers_sequence, List.flatMap_map]
    rfl

theorem numbers_next (level : OpenChoice) : level.next.numbers = level.numbers := by
  unfold OpenChoice.next OpenChoice.numbers
  rw [numbersOf_cons, numbers_ofSequence]
  exact List.append_nil _

theorem numbers_close (level : OpenChoice) : level.close.node.numbers = level.numbers := by
  unfold OpenChoice.close OpenChoice.numbers
  split
  next hdone =>
    rw [hdone, numbers_ofSequence]
    rfl
  next done hdone =>
    show (Node.choice _).numbers = _
    rw [Node.numbers_choice, List.flatMap_map]
    show numbersOf (Item.ofSequence level.items :: level.done) = _
    rw [numbersOf_cons, numbers_ofSequence]

/-- No item of the level has a repetition with its bounds the wrong way round. -/
def OpenChoice.Bounded (level : OpenChoice) : Prop :=
  (∀ item ∈ level.items, item.node.Bounded) ∧ ∀ item ∈ level.done, item.node.Bounded

theorem bounded_nil : (OpenChoice.mk [] []).Bounded :=
  ⟨fun _ hitem => absurd hitem List.not_mem_nil, fun _ hitem => absurd hitem List.not_mem_nil⟩

theorem bounded_ofSequence {items : List Item} (h : ∀ item ∈ items, item.node.Bounded) :
    (Item.ofSequence items).node.Bounded := by
  unfold Item.ofSequence
  split
  · trivial
  next item => exact h item (List.mem_singleton.mpr rfl)
  · refine Node.bounded_sequence fun n hn => ?_
    obtain ⟨item, hitem, rfl⟩ := List.mem_map.mp hn
    exact h item (List.mem_reverse.mp hitem)

theorem OpenChoice.Bounded.next {level : OpenChoice} (h : level.Bounded) : level.next.Bounded :=
  ⟨fun _ hitem => absurd hitem List.not_mem_nil,
    List.forall_mem_cons.mpr ⟨bounded_ofSequence h.1, h.2⟩⟩

theorem OpenChoice.Bounded.close {level : OpenChoice} (h : level.Bounded) :
    level.close.node.Bounded := by
  unfold OpenChoice.close
  split
  · exact bounded_ofSequence h.1
  next hdone =>
    refine Node.bounded_choice fun n hn => ?_
    obtain ⟨item, hitem, rfl⟩ := List.mem_map.mp hn
    rcases List.mem_cons.mp (List.mem_reverse.mp hitem) with rfl | hitem
    · exact bounded_ofSequence h.1
    · exact h.2 item hitem

theorem leaf_of_escaped {flags : Flags} {e : Escaped} {n : Node} (h : e.node? flags = some n) :
    n.Leaf := by
  cases e with
  | char c =>
    obtain rfl := Option.some.inj h
    exact ⟨rfl, trivial⟩
  | set s =>
    unfold Escaped.node? at h
    dsimp only at h
    split at h
    · obtain rfl := Option.some.inj h
      exact ⟨rfl, trivial⟩
    · cases h
  | assertion a =>
    obtain rfl := Option.some.inj h
    exact ⟨rfl, trivial⟩

theorem leaf_of_dot {flags : Flags} {n : Node} (h : dot? flags = some n) : n.Leaf := by
  unfold dot? at h
  split at h
  · cases h
  · split at h
    · obtain rfl := Option.some.inj h
      exact ⟨rfl, trivial⟩
    · split at h
      · obtain rfl := Option.some.inj h
        exact ⟨rfl, trivial⟩
      · obtain rfl := Option.some.inj h
        exact ⟨rfl, trivial⟩

/-- The bounds of a repetition are the right way round. -/
theorem le_of_bounds? {flags : Flags} {s rest : Text} {least : Nat} {most : Option Nat}
    (h : bounds? flags s = some (least, most, rest)) : ∀ m, most = some m → least ≤ m := by
  unfold bounds? at h
  obtain ⟨⟨least', after⟩, -, hread⟩ := Option.bind_eq_some_iff.mp h
  dsimp only at hread
  split at hread
  next =>
    cases hread
    intro m hm
    exact Nat.le_of_eq (Option.some.inj hm)
  next =>
    split at hread
    next =>
      cases hread
      exact nofun
    next =>
      obtain ⟨⟨most', last⟩, -, hclosed⟩ := Option.bind_eq_some_iff.mp hread
      dsimp only at hclosed
      split at hclosed
      next =>
        split at hclosed
        next hle =>
          cases hclosed
          intro m hm
          exact Option.some.inj hm ▸ hle
        next => cases hclosed
      next => cases hclosed
  next => cases hread

/-- The numbers of the groups read so far. -/
def State.numbers (st : State) : List Nat := numbersAround st.outer ++ st.level.numbers

theorem numbers_push (st : State) (item : Item) :
    (st.push item).numbers = st.numbers ++ item.node.numbers := by
  show numbersAround st.outer ++ (numbersOf st.level.done ++ numbersOf (item :: st.level.items)) = _
  rw [numbersOf_cons, ← List.append_assoc, ← List.append_assoc]
  show _ = numbersAround st.outer ++ (numbersOf st.level.done ++ numbersOf st.level.items) ++ _
  rw [← List.append_assoc]

/-- The groups so far have all the numbers up to their count, from left to right, and no repetition
has its bounds the wrong way round. -/
structure Sound (st : State) : Prop where
  numbers_eq : st.numbers = List.range' 1 st.groups
  level : st.level.Bounded
  outer : ∀ group ∈ st.outer, group.around.Bounded

namespace Sound

variable {st st' : State}

/-- At first there are no groups. -/
theorem init : Sound {} where
  numbers_eq := rfl
  level := bounded_nil
  outer _ hgroup := absurd hgroup List.not_mem_nil

/-- A state with the same groups. -/
theorem same (h : Sound st) (hnumbers : st'.numbers = st.numbers) (hgroups : st'.groups = st.groups)
    (hlevel : st'.level.Bounded) (houter : ∀ group ∈ st'.outer, group.around.Bounded) :
    Sound st' where
  numbers_eq := by rw [hnumbers, hgroups, h.numbers_eq]
  level := hlevel
  outer := houter

theorem push_leaf (h : Sound st) {item : Item} (hleaf : item.node.Leaf) :
    Sound (st.push item) := by
  have hnumbers : (st.push item).numbers = st.numbers := by
    rw [numbers_push, hleaf.1, List.append_nil]
  exact h.same hnumbers rfl ⟨List.forall_mem_cons.mpr ⟨hleaf.2, h.level.1⟩, h.level.2⟩ h.outer

theorem with_flags (h : Sound st) (flags : Flags) : Sound { st with flags } :=
  h.same rfl rfl h.level h.outer

theorem next (h : Sound st) : Sound { st with level := st.level.next } := by
  have hnumbers : State.numbers { st with level := st.level.next } = st.numbers := by
    show numbersAround st.outer ++ st.level.next.numbers = _
    rw [numbers_next]
    rfl
  exact h.same hnumbers rfl h.level.next h.outer

/-- A group opens that captures as the next one, or does not capture. -/
theorem opened (h : Sound st) (flags : Flags) {number : Option Nat}
    (hnumber : ∀ n, number = some n → n = st.groups + 1) :
    Sound (st.open number flags) := by
  have hnumbers : (st.open number flags).numbers = st.numbers ++ number.toList :=
    List.append_nil _
  have hlevel : (st.open number flags).level.Bounded := bounded_nil
  have houter : ∀ group ∈ (st.open number flags).outer, group.around.Bounded :=
    List.forall_mem_cons.mpr ⟨h.level, h.outer⟩
  cases number with
  | none => exact h.same (hnumbers.trans (List.append_nil _)) rfl hlevel houter
  | some n =>
    obtain rfl := hnumber n rfl
    have hgroups : (st.open (some (st.groups + 1)) flags).groups = st.groups + 1 := rfl
    refine ⟨?_, hlevel, houter⟩
    rw [hnumbers, hgroups, h.numbers_eq, List.range'_concat, Nat.one_mul, Nat.add_comm 1]
    rfl

theorem close (h : Sound st) (hclose : st.close = some st') : Sound st' := by
  unfold State.close at hclose
  split at hclose
  next => cases hclose
  next group outer houter =>
    obtain rfl := Option.some.inj hclose
    have haround := houter ▸ h.outer
    obtain ⟨hgroup, hrest⟩ := List.forall_mem_cons.mp haround
    refine h.same ?_ rfl ⟨List.forall_mem_cons.mpr ⟨?_, hgroup.1⟩, hgroup.2⟩ hrest
    · have hbefore : st.numbers = numbersAround outer ++ group.around.numbers
          ++ (group.number.toList ++ st.level.close.node.numbers) := by
        rw [State.numbers, houter, numbersAround, numbers_close,
          List.append_assoc _ _ st.level.numbers]
      rw [numbers_push, hbefore]
      cases group.number with
      | none => rfl
      | some n => rfl
    · cases group.number with
      | none => exact h.level.close
      | some n => exact h.level.close

theorem repetition (h : Sound st) {least : Nat} {most : Option Nat}
    (hbounds : ∀ m, most = some m → least ≤ m) {s rest : Text}
    (hread : st.repetition least most s = some (st', rest)) : Sound st' := by
  unfold State.repetition at hread
  split at hread
  next => cases hread
  next item items hitems =>
    split at hread
    next => cases hread
    next =>
      split at hread
      next lazy rest' _ =>
        obtain ⟨rfl, rfl⟩ := Prod.mk.inj (Option.some.inj hread)
        obtain ⟨hitem, hbefore⟩ := List.forall_mem_cons.mp (hitems ▸ h.level.1)
        refine h.same ?_ rfl
          ⟨List.forall_mem_cons.mpr ⟨⟨hbounds, hitem⟩, hbefore⟩, h.level.2⟩ h.outer
        -- the repetition has the groups of its body, which it takes the place of
        rw [numbers_push]
        show numbersAround st.outer ++ (numbersOf st.level.done ++ numbersOf items)
          ++ item.node.numbers
            = numbersAround st.outer ++ (numbersOf st.level.done ++ numbersOf st.level.items)
        rw [hitems, numbersOf_cons, List.append_assoc, List.append_assoc]

/-- A group with a name opens. -/
theorem named (h : Sound st) {s rest : Text}
    (hread : (do
      let (name, rest) ← groupName? s
      if name ∈ st.names then none
      else some ({ st with names := name :: st.names }.open (some (st.groups + 1)) st.flags, rest))
        = some (st', rest)) : Sound st' := by
  obtain ⟨⟨name, after⟩, -, hread⟩ := Option.bind_eq_some_iff.mp hread
  dsimp only at hread
  split at hread
  next => cases hread
  next =>
    obtain ⟨rfl, rfl⟩ := Prod.mk.inj (Option.some.inj hread)
    have hnames : Sound { st with names := name :: st.names } :=
      h.same rfl rfl h.level h.outer
    exact hnames.opened _ fun n hn => (Option.some.inj hn).symm

theorem parenthesis (h : Sound st) {s rest : Text}
    (hread : st.parenthesis s = some (st', rest)) : Sound st' := by
  unfold State.parenthesis at hread
  dsimp only at hread
  split at hread
  next rest' _ => exact h.named hread
  next => cases hread
  next => cases hread
  next rest' _ => exact h.named hread
  next rest' _ _ _ _ _ =>
    obtain ⟨⟨flags, letters, after⟩, -, hread⟩ := Option.bind_eq_some_iff.mp hread
    dsimp only at hread
    split at hread
    next =>
      obtain ⟨rfl, rfl⟩ := Prod.mk.inj (Option.some.inj hread)
      exact h.opened flags nofun
    next =>
      split at hread
      next => cases hread
      next =>
        obtain ⟨rfl, rfl⟩ := Prod.mk.inj (Option.some.inj hread)
        exact (h.with_flags flags).push_leaf ⟨rfl, trivial⟩
    next => cases hread
  next =>
    obtain ⟨rfl, rfl⟩ := Prod.mk.inj (Option.some.inj hread)
    exact h.opened _ fun n hn => (Option.some.inj hn).symm

theorem step (h : Sound st) {c : Char} {s rest : Text}
    (hread : st.step c s = some (st', rest)) : Sound st' := by
  unfold State.step at hread
  dsimp only at hread
  split at hread
  · exact h.parenthesis hread
  · obtain ⟨st₁, hclose, hpair⟩ := Option.map_eq_some_iff.mp hread
    obtain ⟨rfl, rfl⟩ := Prod.mk.inj hpair
    exact h.close hclose
  · obtain ⟨rfl, rfl⟩ := Prod.mk.inj (Option.some.inj hread)
    exact h.next
  · obtain ⟨⟨closed, after⟩, -, hread⟩ := Option.bind_eq_some_iff.mp hread
    obtain ⟨rfl, rfl⟩ := Prod.mk.inj (Option.some.inj hread)
    exact h.push_leaf ⟨rfl, trivial⟩
  · exact h.repetition (fun m hm => Nat.zero_le m) hread
  · exact h.repetition (by nofun) hread
  · exact h.repetition (by nofun) hread
  · obtain ⟨⟨least, most, after⟩, hbounds, hread⟩ := Option.bind_eq_some_iff.mp hread
    exact h.repetition (le_of_bounds? hbounds) hread
  · obtain ⟨⟨escaped, after⟩, -, hread⟩ := Option.bind_eq_some_iff.mp hread
    obtain ⟨node, hnode, hread⟩ := Option.bind_eq_some_iff.mp hread
    obtain ⟨rfl, rfl⟩ := Prod.mk.inj (Option.some.inj hread)
    exact h.push_leaf (leaf_of_escaped hnode)
  · obtain ⟨node, hnode, hread⟩ := Option.bind_eq_some_iff.mp hread
    obtain ⟨rfl, rfl⟩ := Prod.mk.inj (Option.some.inj hread)
    exact h.push_leaf (leaf_of_dot hnode)
  all_goals
    obtain ⟨rfl, rfl⟩ := Prod.mk.inj (Option.some.inj hread)
    exact h.push_leaf ⟨rfl, trivial⟩

theorem run (h : Sound st) {fuel : Nat} {s : Text} (hread : st.run fuel s = some st') :
    Sound st' := by
  fun_induction State.run fuel st s with
  | case1 => cases hread
  | case2 fuel st s hend =>
    obtain rfl := Option.some.inj hread
    exact h
  | case3 => cases hread
  | case4 fuel st s c rest hskip st₁ rest₁ hstep ih => exact ih (h.step hstep) hread

end Sound

end Reader

namespace Node

variable {source : Text} {n : Node}

/-- The last of the numbers from 1 on is how many there are. -/
theorem groups_of_numbers_eq {count : Nat} (h : n.numbers = List.range' 1 count) :
    n.groups = count := by
  have hle : n.groups ≤ count := by
    by_cases hpos : 0 < n.groups
    · have hmem := n.groups_mem_numbers hpos
      rw [h, List.mem_range'_1] at hmem
      omega
    · omega
  have hge : count ≤ n.groups := by
    by_cases hpos : 0 < count
    · have hmem : count ∈ n.numbers := by
        rw [h, List.mem_range'_1]
        omega
      exact le_groups_of_mem_numbers hmem
    · omega
  exact Nat.le_antisymm hle hge

/-- **The groups of a pattern are numbered as they open**, from 1 on and without a gap, and no
repetition has its bounds the wrong way round. -/
theorem numbered_of_written? (h : written? source = some n) :
    n.numbers = List.range' 1 n.groups ∧ n.Bounded := by
  obtain ⟨st, hrun, h⟩ := Option.bind_eq_some_iff.mp h
  dsimp only at h
  split at h
  next => cases h
  next hclosed =>
    split at h
    next =>
      obtain rfl := Option.some.inj h
      have hsound : Reader.Sound st := Reader.Sound.run .init hrun
      have houter : st.outer = [] := by simpa using hclosed
      have hnumbers : st.level.close.node.numbers = List.range' 1 st.groups := by
        rw [← hsound.numbers_eq, Reader.numbers_close, Reader.State.numbers, houter]
        rfl
      refine ⟨?_, hsound.level.close⟩
      rw [groups_of_numbers_eq hnumbers, hnumbers]
    next => cases h

end Node

end Gherkin.Pattern
