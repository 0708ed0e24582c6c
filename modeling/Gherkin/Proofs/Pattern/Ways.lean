import Gherkin.Proofs.Pattern.Captures
import Gherkin.Proofs.Pattern.Preference

/-!
# What a pattern captures by preference

The matches of a pattern from a position are tried in an order, which `Node.ways` lists: a choice
tries its first part before its second, a greedy repetition tries more rounds before fewer, and a
sequence tries all ways of its second part before the next way of its first. That is how a search
would go back and try again, and the search for a program, which never goes back, finds the same.

The order is said for patterns that are steady: what they repeat without a bound takes a character
in each round. So no more rounds are tried than the text is long.

* `Program.captures?_ofNode` — what the program of a pattern captures is what the first way captures
  from the first position that has one.
-/

namespace Gherkin.Pattern

/-- Where the matches from a position stop and what they capture, the preferred one first. -/
abbrev Ways := Nat → List (Nat × List Capture)

namespace Ways

/-- Stops where it begins. -/
def nothing : Ways := fun i => [(i, [])]

/-- Goes on in all ways of the second before the next way of the first is tried. -/
def andThen (a b : Ways) : Ways := fun i =>
  (a i).flatMap fun first => (b first.1).map fun second => (second.1, first.2 ++ second.2)

/-- In a row, as many as counted. -/
def rounds (w : Ways) : (count : Nat) → Ways
  | 0 => nothing
  | count + 1 => (rounds w count).andThen w

/-- In a row, at most as many as counted. More are tried before fewer if the repetition is greedy,
and fewer before more otherwise. -/
def atMost (w : Ways) (greedy : Bool) : (count : Nat) → Ways
  | 0 => nothing
  | count + 1 => fun i =>
    if greedy then w.andThen (atMost w greedy count) i ++ nothing i
    else nothing i ++ w.andThen (atMost w greedy count) i

theorem nothing_andThen (a : Ways) : nothing.andThen a = a := by
  funext i
  simp [nothing, andThen]

theorem andThen_assoc (a b c : Ways) : (a.andThen b).andThen c = a.andThen (b.andThen c) := by
  funext i
  simp [andThen, List.flatMap_assoc, List.flatMap_map, List.map_flatMap, Function.comp_def]

end Ways

namespace Node

/-- Whether what is repeated without a bound takes a character in each round. -/
def steady : Node → Bool
  | empty | one _ | assertion _ => true
  | group _ body => body.steady
  | seq a b | alt a b => a.steady && b.steady
  | .iterate body _ most _ => (most.isSome || !body.nullable) && body.steady

/-- The ways in which the node matches in the text, the preferred one first. -/
def ways (t : Text) : Node → Ways
  | empty => .nothing
  | one set => fun i => if t[i]?.any set.contains then [(i + 1, [])] else []
  | assertion a => fun i => if a.holds (charBefore t i) t[i]? then [(i, [])] else []
  | group n body => fun i =>
    (body.ways t i).map fun way => (way.1, way.2 ++ [{ group := n, start := i, stop := way.1 }])
  | seq a b => (a.ways t).andThen (b.ways t)
  | alt a b => fun i => a.ways t i ++ b.ways t i
  | .iterate body least most greedy =>
    ((body.ways t).rounds least).andThen
      ((body.ways t).atMost greedy ((most.map (· - least)).getD t.length))

end Node

/-! ## Ways are matches -/

/-- Each of the ways is meant. -/
def Ways.Among (w : Ways) (m : Meaning) : Prop := ∀ ⦃i j cs⦄, (j, cs) ∈ w i → m i j cs

namespace Ways.Among

variable {v w : Ways} {a m : Meaning}

theorem nothing : Ways.nothing.Among .nothing := by
  intro i j cs h
  obtain ⟨rfl, rfl⟩ := Prod.mk.inj (List.mem_singleton.mp h)
  exact ⟨rfl, rfl⟩

theorem andThen (hv : v.Among a) (hw : w.Among m) : (v.andThen w).Among (a.andThen m) := by
  intro i k cs h
  obtain ⟨⟨j, ds⟩, hfirst, h⟩ := List.mem_flatMap.mp h
  obtain ⟨⟨k, es⟩, hsecond, heq⟩ := List.mem_map.mp h
  obtain ⟨rfl, rfl⟩ := Prod.mk.inj heq
  exact ⟨j, ds, es, hv hfirst, hw hsecond, rfl⟩

theorem rounds (h : w.Among m) (count : Nat) : (w.rounds count).Among (m.rounds count) := by
  induction count with
  | zero => exact nothing
  | succ count ih =>
    rw [Meaning.rounds_add, Meaning.rounds_one]
    exact ih.andThen h

theorem atMost (h : w.Among m) (greedy : Bool) (count : Nat) :
    (w.atMost greedy count).Among (m.repeats fun k => k ≤ count) := by
  induction count with
  | zero =>
    intro i j cs hway
    exact ⟨0, Nat.le_refl 0, nothing hway⟩
  | succ count ih =>
    rw [← m.atMost_succ]
    intro i j cs hway
    have hround := h.andThen ih
    unfold Ways.atMost at hway
    split at hway
    · exact (List.mem_append.mp hway).imp (fun h => hround h) fun h => nothing h
    · exact (List.mem_append.mp hway).symm.imp (fun h => hround h) fun h => nothing h

end Ways.Among

/-- **The ways of a node are among its matches.** -/
theorem Node.ways_among (t : Text) {n : Node} (hbounded : n.Bounded) :
    (n.ways t).Among (n.Matches t) := by
  induction n with
  | empty => exact .nothing
  | one set =>
    intro i j cs h
    unfold ways at h
    split at h
    next hin =>
      obtain ⟨rfl, rfl⟩ := Prod.mk.inj (List.mem_singleton.mp h)
      obtain ⟨c, hc, hset⟩ := (Option.any_eq_true ..).mp hin
      exact ⟨⟨c, hc, hset⟩, rfl, rfl⟩
    next => exact absurd h List.not_mem_nil
  | assertion a =>
    intro i j cs h
    unfold ways at h
    split at h
    next hholds => exact ⟨hholds, Ways.Among.nothing h⟩
    next => exact absurd h List.not_mem_nil
  | group n body ih =>
    intro i j cs h
    obtain ⟨⟨j, ds⟩, hbody, heq⟩ := List.mem_map.mp h
    obtain ⟨rfl, rfl⟩ := Prod.mk.inj heq
    exact ⟨ds, ih hbounded hbody, rfl⟩
  | seq a b iha ihb => exact (iha hbounded.1).andThen (ihb hbounded.2)
  | alt a b iha ihb =>
    intro i j cs h
    exact (List.mem_append.mp h).imp (fun h => iha hbounded.1 h) fun h => ihb hbounded.2 h
  | iterate body least most greedy ih =>
    have hbody := ih hbounded.2
    have hways := (hbody.rounds least).andThen
      (hbody.atMost greedy ((most.map (· - least)).getD t.length))
    rw [Meaning.rounds_andThen_repeats] at hways
    intro i j cs h
    obtain ⟨count, ⟨later, hlater, rfl⟩, hrounds⟩ := hways h
    refine ⟨least + later, ⟨Nat.le_add_right .., ?_⟩, hrounds⟩
    rintro m rfl
    have hle := hbounded.1 m rfl
    rw [Option.map_some, Option.getD_some] at hlater
    omega

/-- **What always takes a character goes on beyond where it begins**, and not beyond the text. -/
theorem Node.forward_of_not_nullable {t : Text} {n : Node} (hn : n.nullable = false) {i j : Nat}
    {cs : List Capture} (h : n.Matches t i j cs) : i < j ∧ j ≤ t.length := by
  induction n generalizing i j cs with
  | empty | assertion _ => exact absurd hn (by simp [nullable])
  | one set =>
    obtain ⟨⟨c, hc, -⟩, rfl, -⟩ := h
    exact ⟨Nat.lt_succ_self i, (List.getElem?_eq_some_iff.mp hc).1⟩
  | group n body ih =>
    obtain ⟨ds, hbody, -⟩ := h
    exact ih hn hbody
  | seq a b iha ihb =>
    obtain ⟨k, ds, es, ha, hb, -⟩ := h
    obtain ⟨hik, hk, -⟩ := a.within_matches t ha
    obtain ⟨hkj, hj, -⟩ := b.within_matches t hb
    rcases Bool.and_eq_false_iff.mp hn with hna | hnb
    · obtain ⟨hlt, hle⟩ := iha hna ha
      exact ⟨Nat.lt_of_lt_of_le hlt hkj, hj hle⟩
    · obtain ⟨hlt, hle⟩ := ihb hnb hb
      exact ⟨Nat.lt_of_le_of_lt hik hlt, hle⟩
  | alt a b iha ihb =>
    obtain ⟨hna, hnb⟩ := Bool.or_eq_false_iff.mp hn
    exact h.elim (iha hna) (ihb hnb)
  | iterate body least most greedy ih =>
    obtain ⟨count, ⟨hleast, -⟩, hrounds⟩ := h
    obtain ⟨hzero, hbody⟩ := Bool.or_eq_false_iff.mp hn
    have hpos : 0 < least := Nat.pos_of_ne_zero (by simpa using hzero)
    cases count with
    | zero => omega
    | succ count =>
      obtain ⟨k, ds, es, hfirst, hrest, -⟩ := hrounds
      obtain ⟨hlt, hle⟩ := ih hbody hfirst
      obtain ⟨hkj, hj, -⟩ := (body.within_matches t).rounds count hrest
      exact ⟨Nat.lt_of_lt_of_le hlt hkj, hj hle⟩

/-! ## From one place to another -/

/-- Of the ways to `next`, the first from which some way accepts goes on there as is preferred, and
with these slots in the end. -/
inductive Code.Chooses (code : Code) (t : Text) (next : Nat) (σ : Slots) :
    List (Nat × List Capture) → (final : Slots) → Prop where
  | here {way : Nat × List Capture} {rest : List (Nat × List Capture)} {n : Nat} {τ : Slots}
    (prefers : code.Prefers t n next way.1 (noted way.2 σ) τ) :
    Chooses code t next σ (way :: rest) τ
  | later {way : Nat × List Capture} {rest : List (Nat × List Capture)} {τ : Slots}
    (dead : ¬ code.Alive t next way.1) (chooses : Chooses code t next σ rest τ) :
    Chooses code t next σ (way :: rest) τ

/-- From `entry` and the position the ways to `next` are tried one after another. -/
structure Code.Tries (code : Code) (t : Text) (entry next position : Nat)
    (ways : List (Nat × List Capture)) : Prop where
  alive : code.Alive t entry position → ∃ way ∈ ways, code.Alive t next way.1
  prefers : ∀ ⦃σ τ⦄, code.Chooses t next σ ways τ → ∃ n, code.Prefers t n entry position σ τ

namespace Code

variable {code : Code} {t : Text} {p q r i : Nat} {σ τ : Slots} {xs ys : List (Nat × List Capture)}

/-- What is chosen from two lists is chosen from the first, or nothing of the first goes on. -/
theorem Chooses.of_append (h : code.Chooses t q σ (xs ++ ys) τ) :
    code.Chooses t q σ xs τ ∨
      ((∀ way ∈ xs, ¬ code.Alive t q way.1) ∧ code.Chooses t q σ ys τ) := by
  induction xs with
  | nil => exact Or.inr ⟨fun _ hway => absurd hway List.not_mem_nil, h⟩
  | cons way xs ih =>
    cases h with
    | here hprefers => exact Or.inl (.here hprefers)
    | later hdead hrest =>
      rcases ih hrest with hxs | ⟨hxs, hys⟩
      · exact Or.inl (.later hdead hxs)
      · exact Or.inr ⟨List.forall_mem_cons.mpr ⟨hdead, hxs⟩, hys⟩

/-- Captures that all ways begin with can be noted before. -/
theorem Chooses.of_map {ds : List Capture}
    (h : code.Chooses t q σ (xs.map fun way => (way.1, ds ++ way.2)) τ) :
    code.Chooses t q (noted ds σ) xs τ := by
  induction xs with
  | nil => cases h
  | cons way xs ih =>
    cases h with
    | here hprefers =>
      rw [noted_append] at hprefers
      exact .here hprefers
    | later hdead hrest => exact .later hdead (ih hrest)

namespace Tries

theorem refl (code : Code) (t : Text) (p i : Nat) : code.Tries t p p i [(i, [])] where
  alive h := ⟨(i, []), List.mem_singleton_self _, h⟩
  prefers := by
    intro σ τ h
    cases h with
    | here hprefers => exact ⟨_, hprefers⟩
    | later _ hrest => cases hrest

/-- All ways of the second part are tried before the next way of the first. -/
theorem trans {z : Nat → List (Nat × List Capture)} (h : code.Tries t p q i xs)
    (h' : ∀ way ∈ xs, code.Tries t q r way.1 (z way.1)) :
    code.Tries t p r i
      (xs.flatMap fun first => (z first.1).map fun second =>
        (second.1, first.2 ++ second.2)) where
  alive halive := by
    obtain ⟨first, hfirst, hmid⟩ := h.alive halive
    obtain ⟨second, hsecond, hend⟩ := (h' first hfirst).alive hmid
    exact ⟨_, List.mem_flatMap.mpr ⟨first, hfirst, List.mem_map_of_mem hsecond⟩, hend⟩
  prefers := by
    intro σ τ hchooses
    refine h.prefers ?_
    clear h
    induction xs with
    | nil => cases hchooses
    | cons first xs ih =>
      obtain ⟨hfirst, hrest⟩ := List.forall_mem_cons.mp h'
      rw [List.flatMap_cons] at hchooses
      rcases hchooses.of_append with hhere | ⟨hdead, hlater⟩
      · obtain ⟨n, hprefers⟩ := hfirst.prefers hhere.of_map
        exact .here hprefers
      · refine .later (fun halive => ?_) (ih hrest hlater)
        obtain ⟨second, hsecond, hend⟩ := hfirst.alive halive
        exact hdead _ (List.mem_map_of_mem hsecond) hend

theorem choice {greedy : Bool} {x y : Nat} (here : code[p]? = some (Layout.prefer greedy x y))
    (hx : code.Tries t x q i xs) (hy : code.Tries t y q i ys) :
    code.Tries t p q i (if greedy then xs ++ ys else ys ++ xs) := by
  have hsplit {x y : Nat} {xs ys : List (Nat × List Capture)}
      (here : code[p]? = some (.split x y)) (hx : code.Tries t x q i xs)
      (hy : code.Tries t y q i ys) : code.Tries t p q i (xs ++ ys) := by
    refine ⟨fun halive => ?_, fun σ τ hchooses => ?_⟩
    · rcases (alive_iff_of_split here).mp halive with halive | halive
      · obtain ⟨way, hway, hend⟩ := hx.alive halive
        exact ⟨way, List.mem_append_left _ hway, hend⟩
      · obtain ⟨way, hway, hend⟩ := hy.alive halive
        exact ⟨way, List.mem_append_right _ hway, hend⟩
    · rcases hchooses.of_append with hfirst | ⟨hdead, hsecond⟩
      · obtain ⟨n, hprefers⟩ := hx.prefers hfirst
        exact ⟨n + 1, .first here hprefers⟩
      · obtain ⟨n, hprefers⟩ := hy.prefers hsecond
        refine ⟨n + 1, .second here (fun halive => ?_) hprefers⟩
        obtain ⟨way, hway, hend⟩ := hx.alive halive
        exact hdead way hway hend
  cases greedy with
  | true => exact hsplit here hx hy
  | false => exact hsplit here hy hx

theorem take {set : CharSet} (here : code[p]? = some (.take set q)) :
    code.Tries t p q i ((Node.one set).ways t i) where
  alive halive := by
    obtain ⟨c, hc, hin, hend⟩ := (alive_iff_of_take here).mp halive
    have hany : t[i]?.any set.contains = true := by rw [hc]; exact hin
    have hways : (Node.one set).ways t i = [(i + 1, [])] := if_pos hany
    rw [hways]
    exact ⟨(i + 1, []), List.mem_singleton_self _, hend⟩
  prefers := by
    intro σ τ h
    unfold Node.ways at h
    split at h
    next hin =>
      obtain ⟨c, hc, hin⟩ := (Option.any_eq_true ..).mp hin
      cases h with
      | here hprefers => exact ⟨_, .take here hc hin hprefers⟩
      | later _ hrest => cases hrest
    next => cases h

theorem check {a : Assertion} (here : code[p]? = some (.check a q)) :
    code.Tries t p q i ((Node.assertion a).ways t i) where
  alive halive := by
    obtain ⟨hholds, hend⟩ := (alive_iff_of_check here).mp halive
    have hways : (Node.assertion a).ways t i = [(i, [])] := if_pos hholds
    rw [hways]
    exact ⟨(i, []), List.mem_singleton_self _, hend⟩
  prefers := by
    intro σ τ h
    unfold Node.ways at h
    split at h
    next hholds =>
      cases h with
      | here hprefers => exact ⟨_, .check here hholds hprefers⟩
      | later _ hrest => cases hrest
    next => cases h

/-- A decision that leads back to itself tries more and more rounds, up to as many as there are
characters left. -/
theorem loop {greedy : Bool} {entry : Nat} {w : Ways}
    (here : code[p]? = some (Layout.prefer greedy entry q))
    (h : ∀ i, code.Tries t entry p i (w i))
    (hforward : ∀ i, ∀ way ∈ w i, i < way.1 ∧ way.1 ≤ t.length) (count : Nat) :
    ∀ i, t.length ≤ i + count → code.Tries t p q i (w.atMost greedy count i) := by
  induction count with
  | zero =>
    intro i hi
    have hnone : w i = [] := by
      refine List.eq_nil_iff_forall_not_mem.mpr fun way hway => ?_
      obtain ⟨hlt, hle⟩ := hforward i way hway
      omega
    have hentry : code.Tries t entry q i [] := by
      have hround := h i
      rw [hnone] at hround
      exact hround.trans (z := fun _ => []) (by simp)
    have hchoice := choice here hentry (refl code t q i)
    cases greedy <;> exact hchoice
  | succ count ih =>
    intro i hi
    have hround : code.Tries t entry q i (w.andThen (w.atMost greedy count) i) :=
      (h i).trans fun way hway => ih way.1 (by have := hforward i way hway; omega)
    exact choice here hround (refl code t q i)

/-- A group whose body captures other groups only. -/
theorem group {body : Node} {n entry stop : Nat}
    (here : code[p]? = some (.save (2 * n - 2) entry))
    (hbody : code.Tries t entry stop i (body.ways t i))
    (there : code[stop]? = some (.save (2 * n - 1) q)) (hn : 0 < n)
    (hnumbers : ∀ way ∈ body.ways t i, ∀ c ∈ way.2, c.group ≠ n ∧ 0 < c.group) :
    code.Tries t p q i ((Node.group n body).ways t i) where
  alive halive := by
    obtain ⟨way, hway, hstop⟩ := hbody.alive ((alive_iff_of_save here).mp halive)
    exact ⟨_, List.mem_map_of_mem hway, (alive_iff_of_save there).mp hstop⟩
  prefers := by
    intro σ τ hchooses
    have hopened : code.Chooses t stop (σ.set (2 * n - 2) (some i)) (body.ways t i) τ := by
      have hways : (Node.group n body).ways t i = (body.ways t i).map fun way =>
          (way.1, way.2 ++ [{ group := n, start := i, stop := way.1 }]) := rfl
      rw [hways] at hchooses
      generalize body.ways t i = xs at hchooses hnumbers
      induction xs with
      | nil => cases hchooses
      | cons way xs ih =>
        obtain ⟨hway, hrest⟩ := List.forall_mem_cons.mp hnumbers
        cases hchooses with
        | @here _ _ k _ hprefers =>
          refine .here (n := k + 1) (.save there ?_)
          rw [noted_set_start hn hway]
          rw [noted_append] at hprefers
          exact hprefers
        | later hdead hlater =>
          exact .later ((alive_iff_of_save there).not.mpr hdead) (ih hlater hrest)
    obtain ⟨m, hprefers⟩ := hbody.prefers hopened
    exact ⟨m + 1, .save here hprefers⟩

end Tries

end Code

/-! ## Layouts -/

/-- The layout means what is meant, and wherever the code with it ends up, the ways are tried there
one after another. -/
structure Layout.Orders (L : Layout) (t : Text) (m : Meaning) (w : Ways) : Prop
    extends Layout.Means L t m where
  tries : ∀ ⦃next : Nat⦄ ⦃code C : Code⦄, C.Holds code (L next code).2 →
    ∀ i, C.Tries t (L next code).1 next i (w i)

namespace Layout.Orders

variable {t : Text} {a b m : Meaning} {v w : Ways} {A B part : Layout}

theorem nothing : Orders (fun next code => (next, code)) t .nothing .nothing where
  toMeans := .nothing
  tries next _ C _ := .refl C t next

theorem emit (x : Nat → Instruction)
    (hx : ∀ {C : Code} {place next}, C[place]? = some (x next) → C.Leads t place next m)
    (hx' : ∀ {C : Code} {place next}, C[place]? = some (x next) →
      ∀ i, C.Tries t place next i (w i)) :
    Orders (fun next code => code.emit (x next)) t m w where
  toMeans := .emit x hx
  tries _ _ _ h := hx' h.pushed

theorem andThen (ha : A.Orders t a v) (hb : B.Orders t b w) :
    Orders (fun next code => A (B next code).1 (B next code).2) t (a.andThen b)
      (v.andThen w) where
  toMeans := ha.toMeans.andThen hb.toMeans
  tries next code _ h i :=
    (ha.tries (h.after (hb.grows next code)) i).trans fun way _ =>
      hb.tries (h.before (ha.grows _ _)) way.1

theorem orElse (ha : A.Orders t a v) (hb : B.Orders t b w) (greedy : Bool) :
    Orders (fun next code =>
      Code.emit (B next (A next code).2).2
        (prefer greedy (A next code).1 (B next (A next code).2).1)) t (a.orElse b)
      (fun i => if greedy then v i ++ w i else w i ++ v i) where
  toMeans := ha.toMeans.orElse hb.toMeans greedy
  tries next code C h i := by
    have hparts := h.before (Code.extends_push _ _)
    have hchoice := (h.after ((ha.grows next code).trans (hb.grows _ _))).pushed
    exact .choice hchoice (ha.tries (hparts.before (hb.grows _ _)) i)
      (hb.tries (hparts.after (ha.grows next code)) i)

theorem group {n : Nat} {body : Node} (hbody : Orders body.layout t (body.Matches t) (body.ways t))
    (hn : 0 < n) (hnumbers : ∀ k ∈ body.numbers, k ≠ n ∧ 0 < k) (hbounded : body.Bounded) :
    Orders (Node.group n body).layout t ((Node.group n body).Matches t)
      ((Node.group n body).ways t) where
  toMeans := hbody.toMeans.group hn hnumbers
  tries next code C h i := by
    have hstop := Code.extends_push code (.save (2 * n - 1) next)
    have hinner := h.before (Code.extends_push _ _)
    refine .group (h.after (hstop.trans (hbody.grows _ _))).pushed
      (hbody.tries (hinner.after hstop) i) (hinner.before (hbody.grows _ _)).pushed hn ?_
    intro way hway c hc
    exact hnumbers _ ((body.within_matches t (body.ways_among t hbounded hway)).2.2 c hc).1

/-! ### Repetition -/

theorem times (h : part.Orders t m w) (count : Nat) :
    Orders (part.times count) t (m.rounds count) (w.rounds count) := by
  induction count with
  | zero => exact nothing
  | succ count ih =>
    rw [Meaning.rounds_add, Meaning.rounds_one]
    exact ih.andThen h

theorem upTo (h : part.Orders t m w) (greedy : Bool) (count : Nat) :
    Orders (part.upTo greedy count) t (m.repeats fun k => k ≤ count) (w.atMost greedy count) := by
  induction count with
  | zero => exact ⟨h.toMeans.upTo greedy 0, nothing.tries⟩
  | succ count ih =>
    exact ⟨h.toMeans.upTo greedy (count + 1), ((h.andThen ih).orElse nothing greedy).tries⟩

/-- What takes a character in each round is tried more and more often, or less and less. -/
theorem onceOrMore (h : part.Orders t m w)
    (hforward : ∀ i, ∀ way ∈ w i, i < way.1 ∧ way.1 ≤ t.length) (greedy : Bool) (next : Nat)
    (code : Code) :
    ∀ C : Code, C.Holds code (part.onceOrMore greedy next code).2.2 → ∀ i,
      C.Tries t (part.onceOrMore greedy next code).2.1 next i (w.atMost greedy t.length i) ∧
      C.Tries t (part.onceOrMore greedy next code).1 next i
        (w.andThen (w.atMost greedy t.length) i) := by
  intro C hC i
  have hpart := h.grows code.size (code.push (.split next next))
  obtain ⟨hhere, hrest⟩ := Code.Holds.patched hpart hC
  have hround := h.tries hrest
  have hloop : ∀ i, C.Tries t (part.onceOrMore greedy next code).2.1 next i
      (w.atMost greedy t.length i) :=
    fun i => .loop hhere hround hforward t.length i (Nat.le_add_left ..)
  exact ⟨hloop i, (hround i).trans fun way _ => hloop way.1⟩

theorem once (h : part.Orders t m w) (hforward : ∀ i, ∀ way ∈ w i, i < way.1 ∧ way.1 ≤ t.length)
    (greedy : Bool) :
    Orders (fun next code =>
      ((part.onceOrMore greedy next code).1, (part.onceOrMore greedy next code).2.2)) t
      (m.andThen (m.repeats fun _ => True)) (w.andThen (w.atMost greedy t.length)) where
  toMeans := h.toMeans.once greedy
  tries next code C hC i := (h.onceOrMore hforward greedy next code C hC i).2

theorem anyTimes (h : part.Orders t m w) (hforward : ∀ i, ∀ way ∈ w i, i < way.1 ∧ way.1 ≤ t.length)
    (greedy : Bool) :
    Orders (part.anyTimes false greedy) t (m.repeats fun _ => True) (w.atMost greedy t.length) where
  toMeans := h.toMeans.anyTimes false greedy
  tries next code C hC i := (h.onceOrMore hforward greedy next code C hC i).1

/-- A repetition: what is needed at least, and then the rounds that may be left out. -/
theorem iterate {body : Node} (h : Orders body.layout t (body.Matches t) (body.ways t))
    (hbody : body.Bounded) (least : Nat) (most : Option Nat) (greedy : Bool)
    (hbounds : ∀ m, most = some m → least ≤ m) (hsteady : most = none → body.nullable = false) :
    Orders (Node.iterate body least most greedy).layout t
      ((Node.iterate body least most greedy).Matches t)
      ((Node.iterate body least most greedy).ways t) where
  toMeans := h.toMeans.iterate least most greedy hbounds
  tries := by
    cases most with
    | some most => exact ((h.times least).andThen (h.upTo greedy (most - least))).tries
    | none =>
      have hnullable := hsteady rfl
      have hforward : ∀ i, ∀ way ∈ body.ways t i, i < way.1 ∧ way.1 ≤ t.length := fun i way hway =>
        Node.forward_of_not_nullable hnullable (body.ways_among t hbody hway)
      unfold Node.layout Node.ways
      cases least with
      | zero =>
        rw [Ways.rounds, Ways.nothing_andThen, hnullable]
        exact (h.anyTimes hforward greedy).tries
      | succ least =>
        rw [Ways.rounds, Ways.andThen_assoc]
        exact ((h.times least).andThen (h.once hforward greedy)).tries

end Layout.Orders

/-- **A node is laid down so that its ways are tried one after another.** -/
theorem Node.layout_orders (t : Text) (n : Node) (hnumbered : n.Numbered) (hbounded : n.Bounded)
    (hsteady : n.steady = true) : Layout.Orders n.layout t (n.Matches t) (n.ways t) := by
  induction n with
  | empty => exact .nothing
  | one set => exact .emit (.take set) .take fun here i => .take here
  | assertion a => exact .emit (.check a) .check fun here i => .check here
  | group n body ih =>
    obtain ⟨⟨hlt, -⟩, hpos⟩ := And.imp_left List.pairwise_cons.mp hnumbered
    refine (ih (hnumbered.mono (List.sublist_cons_self ..)) hbounded hsteady).group
      (hpos n (List.mem_cons_self ..)) ?_ hbounded
    intro k hk
    exact ⟨Nat.ne_of_gt (hlt k hk), hpos k (List.mem_cons_of_mem _ hk)⟩
  | seq a b iha ihb =>
    obtain ⟨ha, hb⟩ := Bool.and_eq_true_iff.mp hsteady
    exact (iha (hnumbered.mono (List.sublist_append_left ..)) hbounded.1 ha).andThen
      (ihb (hnumbered.mono (List.sublist_append_right ..)) hbounded.2 hb)
  | alt a b iha ihb =>
    obtain ⟨ha, hb⟩ := Bool.and_eq_true_iff.mp hsteady
    exact (iha (hnumbered.mono (List.sublist_append_left ..)) hbounded.1 ha).orElse
      (ihb (hnumbered.mono (List.sublist_append_right ..)) hbounded.2 hb) true
  | iterate body least most greedy ih =>
    obtain ⟨hmost, hbody⟩ := Bool.and_eq_true_iff.mp hsteady
    refine (ih hnumbered hbounded.2 hbody).iterate hbounded.2 least most greedy hbounded.1 ?_
    rintro rfl
    simpa using hmost

/-! ## The program of a pattern -/

/-- What is found along a range is found at its first number that has something. -/
theorem exists_of_findSome?_range {β : Type} {f : Nat → Option β} {b : β} {m : Nat}
    (h : (List.range m).findSome? f = some b) : ∃ i < m, f i = some b ∧ ∀ k < i, f k = none := by
  induction m with
  | zero => cases h
  | succ m ih =>
    rw [List.range_succ, List.findSome?_append, Option.or_eq_some_iff] at h
    rcases h with hbefore | ⟨hbefore, hlast⟩
    · obtain ⟨i, hi, hfirst⟩ := ih hbefore
      exact ⟨i, Nat.lt_succ_of_lt hi, hfirst⟩
    · refine ⟨m, Nat.lt_succ_self m, by simpa using hlast, fun k hk => ?_⟩
      exact List.findSome?_eq_none_iff.mp hbefore k (List.mem_range.mpr hk)

namespace Program

variable {n : Node} (hnumbered : n.Numbered) (hbounded : n.Bounded) (hsteady : n.steady = true)
  (t : Text)

include hnumbered hbounded hsteady

/-- From a position the ways of the pattern are tried to where the program accepts. -/
theorem tries_ofNode (i : Nat) :
    (ofNode n).code.Tries t (ofNode n).start 0 i (n.ways t i) ∧
      (ofNode n).code[0]? = some .accept := by
  have horders := n.layout_orders t hnumbered hbounded hsteady
  exact ⟨horders.tries (fun _ _ _ => rfl) i, (horders.grows 0 #[.accept]).2 0 Nat.zero_lt_one⟩

/-- **What the program of a pattern captures is what the first way captures**, from the first
position that has a way. -/
theorem captures?_ofNode :
    (ofNode n).captures? t
      = ((List.range (t.length + 1)).findSome? fun i => (n.ways t i).head?).map
          fun way => n.captureTexts t way.2 := by
  have hdead {i : Nat} (hnone : (n.ways t i).head? = none) :
      ¬ (ofNode n).code.Alive t (ofNode n).start i := by
    intro halive
    obtain ⟨way, hway, -⟩ := (tries_ofNode hnumbered hbounded hsteady t i).1.alive halive
    rw [List.head?_eq_none_iff.mp hnone] at hway
    exact List.not_mem_nil hway
  cases hfind : (List.range (t.length + 1)).findSome? fun i => (n.ways t i).head? with
  | none =>
    have hnone : (ofNode n).search t = none := by
      refine search_eq_none fun i hi => hdead ?_
      exact List.findSome?_eq_none_iff.mp hfind i (List.mem_range.mpr (Nat.lt_succ_of_le hi))
    rw [captures?, hnone]
    rfl
  | some way =>
    obtain ⟨i, hi, hway, hbefore⟩ := exists_of_findSome?_range hfind
    obtain ⟨htries, haccept⟩ := tries_ofNode hnumbered hbounded hsteady t i
    obtain ⟨rest, hways⟩ := List.head?_eq_some_iff.mp hway
    have hchooses : (ofNode n).code.Chooses t 0 (ofNode n).fresh.slots (n.ways t i)
        (noted way.2 (ofNode n).fresh.slots) := by
      rw [hways]
      exact .here (.accept haccept)
    obtain ⟨k, hprefers⟩ := htries.prefers hchooses
    have hsearch := search_of_prefers (Nat.le_of_lt_succ hi) (fun k hk => hdead (hbefore k hk))
      hprefers
    have hmatches : n.Matches t i way.1 way.2 :=
      n.ways_among t hbounded (hways ▸ List.mem_cons_self ..)
    have hpos : ∀ c ∈ way.2, 0 < c.group := fun c hc =>
      hnumbered.2 _ ((n.within_matches t hmatches).2.2 c hc).1
    rw [captures?, hsearch]
    exact congrArg some (captured_noted t hpos n)

end Program

end Gherkin.Pattern
