import Gherkin.Proofs.Pattern.Paths

/-!
# The code of a pattern does what the pattern means

A layout adds instructions to the code before it, and once added they stay: `Code.Extends` and
`Code.Holds` say so, the latter for whatever code they end up in. `Layout.Means` is then what is
claimed of a layout, for every place to go on and every code before it. There is one lemma for each
way of laying down parts, and the layout of a node follows the node.

* `Node.layout_means` — a node is laid down as what it means.
* `Program.accepts_iff` — the ways through the program of a pattern are its matches.
-/

namespace Gherkin.Pattern

/-! ## Code that grows -/

/-- The longer code begins with the shorter one. -/
def Code.Extends (code longer : Code) : Prop :=
  code.size ≤ longer.size ∧ ∀ k < code.size, longer[k]? = code[k]?

/-- The code holds, at their places, the instructions by which `longer` goes beyond `code`. -/
def Code.Holds (C code longer : Code) : Prop :=
  ∀ k, code.size ≤ k → k < longer.size → C[k]? = longer[k]?

namespace Code

variable {C code mid longer : Code}

theorem Extends.refl (code : Code) : code.Extends code := ⟨Nat.le_refl _, fun _ _ => rfl⟩

theorem Extends.trans (h : code.Extends mid) (h' : mid.Extends longer) : code.Extends longer := by
  refine ⟨Nat.le_trans h.1 h'.1, ?_⟩
  intro k hk
  rw [h'.2 k (Nat.lt_of_lt_of_le hk h.1), h.2 k hk]

theorem extends_push (code : Code) (x : Instruction) : code.Extends (code.push x) := by
  refine ⟨by simp, ?_⟩
  intro k hk
  rw [Array.getElem?_push_lt hk, Array.getElem?_eq_getElem hk]

/-- Code that holds both of two additions holds the first of them. -/
theorem Holds.before (h : C.Holds code longer) (hmid : mid.Extends longer) : C.Holds code mid := by
  intro k hk hlt
  rw [h k hk (Nat.lt_of_lt_of_le hlt hmid.1), hmid.2 k hlt]

/-- Code that holds both of two additions holds the second of them. -/
theorem Holds.after (h : C.Holds code longer) (hmid : code.Extends mid) : C.Holds mid longer :=
  fun k hk hlt => h k (Nat.le_trans hmid.1 hk) hlt

theorem Holds.pushed {x : Instruction} (h : C.Holds code (code.push x)) :
    C[code.size]? = some x := by
  rw [h code.size (Nat.le_refl _) (by simp), Array.getElem?_push_size]

/-- Filling in an instruction behind the code leaves the code as it is. -/
theorem Extends.patch (h : code.Extends longer) (x : Instruction) :
    code.Extends (longer.setIfInBounds code.size x) := by
  refine ⟨by rw [Array.size_setIfInBounds]; exact h.1, ?_⟩
  intro k hk
  rw [Array.getElem?_setIfInBounds_ne (Nat.ne_of_gt hk)]
  exact h.2 k hk

/-- Code that holds an addition whose first instruction was filled in afterwards holds what was
filled in, and the rest of the addition. -/
theorem Holds.patched {x y : Instruction} (hmid : Extends (code.push y) longer)
    (h : C.Holds code (longer.setIfInBounds code.size x)) :
    C[code.size]? = some x ∧ C.Holds (code.push y) longer := by
  have hsize : code.size + 1 ≤ longer.size := by simpa using hmid.1
  constructor
  · rw [h code.size (Nat.le_refl _) (by simpa using Nat.lt_of_succ_le hsize)]
    exact Array.getElem?_setIfInBounds_self_of_lt (Nat.lt_of_succ_le hsize)
  · intro k hk hlt
    have hk' : code.size + 1 ≤ k := by simpa using hk
    rw [h k (by omega) (by simpa using hlt), Array.getElem?_setIfInBounds_ne (by omega)]

end Code

/-! ## Layouts -/

/-- The layout only adds to the code, and wherever the code with it ends up, it leads from where the
part begins to where it goes on, after what is meant. -/
structure Layout.Means (L : Layout) (t : Text) (m : Meaning) : Prop where
  grows : ∀ next code, Code.Extends code (L next code).2
  leads : ∀ ⦃next : Nat⦄ ⦃code C : Code⦄, C.Holds code (L next code).2 →
    C.Leads t (L next code).1 next m

namespace Layout.Means

variable {t : Text} {a b m : Meaning} {A B part : Layout}

theorem nothing : Means (fun next code => (next, code)) t .nothing where
  grows _ code := .refl code
  leads next _ C _ := .refl C t next

/-- One instruction, of which it is known where it leads. -/
theorem emit (x : Nat → Instruction)
    (hx : ∀ {C : Code} {place next}, C[place]? = some (x next) → C.Leads t place next m) :
    Means (fun next code => code.emit (x next)) t m where
  grows next code := Code.extends_push code (x next)
  leads _ _ _ h := hx h.pushed

/-- Two parts, the second laid down before the first. -/
theorem andThen (ha : A.Means t a) (hb : B.Means t b) :
    Means (fun next code => A (B next code).1 (B next code).2) t (a.andThen b) where
  grows next code := (hb.grows next code).trans (ha.grows _ _)
  leads next code _ h :=
    (ha.leads (h.after (hb.grows next code))).trans (hb.leads (h.before (ha.grows _ _)))

/-- A decision between two parts that go on at the same place. -/
theorem orElse (ha : A.Means t a) (hb : B.Means t b) (greedy : Bool) :
    Means (fun next code =>
      Code.emit (B next (A next code).2).2
        (prefer greedy (A next code).1 (B next (A next code).2).1)) t (a.orElse b) where
  grows next code :=
    ((ha.grows next code).trans (hb.grows _ _)).trans (Code.extends_push _ _)
  leads next code C h := by
    have hparts := h.before (Code.extends_push _ _)
    have hchoice := (h.after ((ha.grows next code).trans (hb.grows _ _))).pushed
    exact .choice hchoice (ha.leads (hparts.before (hb.grows _ _)))
      (hb.leads (hparts.after (ha.grows next code)))

theorem group {n : Nat} {body : Node} (hbody : Means body.layout t (body.Matches t)) (hn : 0 < n)
    (hnumbers : ∀ k ∈ body.numbers, k ≠ n ∧ 0 < k) :
    Means (Node.group n body).layout t ((Node.group n body).Matches t) where
  grows next code :=
    ((Code.extends_push code _).trans (hbody.grows _ _)).trans (Code.extends_push _ _)
  leads next code C h := by
    have hstop := Code.extends_push code (.save (2 * n - 1) next)
    have hinner := h.before (Code.extends_push _ _)
    exact .group (h.after (hstop.trans (hbody.grows _ _))).pushed (hbody.leads (hinner.after hstop))
      (hinner.before (hbody.grows _ _)).pushed hn hnumbers

/-! ### Repetition -/

theorem times (h : part.Means t m) (count : Nat) : Means (part.times count) t (m.rounds count) := by
  induction count with
  | zero => exact nothing
  | succ count ih =>
    rw [Meaning.rounds_add, Meaning.rounds_one]
    exact ih.andThen h

theorem upTo (h : part.Means t m) (greedy : Bool) (count : Nat) :
    Means (part.upTo greedy count) t (m.repeats fun k => k ≤ count) := by
  induction count with
  | zero =>
    have hnone : (m.repeats fun k => k ≤ 0) = .nothing := by
      rw [m.repeats_congr fun _ => Nat.le_zero, m.repeats_eq_rounds]
      rfl
    rw [hnone]
    exact nothing
  | succ count ih =>
    rw [← m.atMost_succ]
    exact (h.andThen ih).orElse nothing greedy

/-- Once or more. From the decision after a round it leads on after any number of rounds, and from
where the part begins after one more. -/
theorem onceOrMore (h : part.Means t m) (greedy : Bool) (next : Nat) (code : Code) :
    code.Extends (part.onceOrMore greedy next code).2.2 ∧
    ∀ C : Code, C.Holds code (part.onceOrMore greedy next code).2.2 →
      C.Leads t (part.onceOrMore greedy next code).2.1 next (m.repeats fun _ => True) ∧
      C.Leads t (part.onceOrMore greedy next code).1 next
        (m.andThen (m.repeats fun _ => True)) := by
  have hdecision := Code.extends_push code (.split next next)
  have hpart := h.grows code.size (code.push (.split next next))
  refine ⟨(hdecision.trans hpart).patch _, ?_⟩
  intro C hC
  obtain ⟨hhere, hrest⟩ := Code.Holds.patched hpart hC
  have hround := h.leads hrest
  have hloop := Code.Leads.loop hhere hround
  exact ⟨hloop, hround.trans hloop⟩

theorem once (h : part.Means t m) (greedy : Bool) :
    Means (fun next code =>
      ((part.onceOrMore greedy next code).1, (part.onceOrMore greedy next code).2.2)) t
      (m.andThen (m.repeats fun _ => True)) where
  grows next code := (h.onceOrMore greedy next code).1
  leads next code C hC := ((h.onceOrMore greedy next code).2 C hC).2

theorem anyTimes (h : part.Means t m) (nullable greedy : Bool) :
    Means (part.anyTimes nullable greedy) t (m.repeats fun _ => True) where
  grows next code := by
    have hgrows := (h.onceOrMore greedy next code).1
    unfold Layout.anyTimes
    cases nullable with
    | true => exact hgrows.trans (Code.extends_push _ _)
    | false => exact hgrows
  leads next code C hC := by
    obtain ⟨hgrows, hleads⟩ := h.onceOrMore greedy next code
    unfold Layout.anyTimes at hC ⊢
    cases nullable with
    | true =>
      have hfirst := (hleads C (hC.before (Code.extends_push _ _))).2
      have hchoice := Code.Leads.choice (hC.after hgrows).pushed hfirst (.refl C t next)
      rw [m.any_eq_orElse] at hchoice
      exact hchoice
    | false => exact (hleads C hC).1

/-- A repetition: what is needed at least, and then the rounds that may be left out. -/
theorem iterate {body : Node} (h : Means body.layout t (body.Matches t)) (least : Nat)
    (most : Option Nat) (greedy : Bool) (hbounds : ∀ m, most = some m → least ≤ m) :
    Means (Node.iterate body least most greedy).layout t
      ((Node.iterate body least most greedy).Matches t) := by
  cases most with
  | some most =>
    have hcounts : ∀ count, (∃ later, later ≤ most - least ∧ count = least + later) ↔
        least ≤ count ∧ ∀ m, some most = some m → count ≤ m := by
      have hle : least ≤ most := hbounds most rfl
      intro count
      constructor
      · intro h
        obtain ⟨later, hlater, rfl⟩ := h
        refine ⟨Nat.le_add_right .., ?_⟩
        rintro m ⟨⟩
        omega
      · intro h
        obtain ⟨hleast, hmost⟩ := h
        have hcount := hmost most rfl
        exact ⟨count - least, by omega, by omega⟩
    unfold Node.Matches
    rw [← Meaning.repeats_congr _ hcounts, ← Meaning.rounds_andThen_repeats]
    exact (h.times least).andThen (h.upTo greedy (most - least))
  | none =>
    have hcounts : ∀ count, least ≤ count ↔
        least ≤ count ∧ ∀ m, (none : Option Nat) = some m → count ≤ m :=
      fun count => ⟨fun h => ⟨h, nofun⟩, fun h => h.1⟩
    unfold Node.Matches
    rw [← Meaning.repeats_congr _ hcounts, ← Meaning.rounds_andThen_any]
    cases least with
    | zero =>
      rw [Meaning.rounds, Meaning.nothing_andThen]
      exact h.anyTimes body.nullable greedy
    | succ least =>
      rw [Meaning.rounds_add, Meaning.rounds_one, Meaning.andThen_assoc]
      exact (h.times least).andThen (h.once greedy)

end Layout.Means

/-- **A node is laid down as what it means.** -/
theorem Node.layout_means (t : Text) (n : Node) (hnumbered : n.Numbered) (hbounded : n.Bounded) :
    Layout.Means n.layout t (n.Matches t) := by
  induction n with
  | empty => exact .nothing
  | one set => exact .emit (.take set) .take
  | assertion a => exact .emit (.check a) .check
  | group n body ih =>
    obtain ⟨⟨hlt, -⟩, hpos⟩ := And.imp_left List.pairwise_cons.mp hnumbered
    refine (ih (hnumbered.mono (List.sublist_cons_self ..)) hbounded).group
      (hpos n (List.mem_cons_self ..)) ?_
    intro k hk
    exact ⟨Nat.ne_of_gt (hlt k hk), hpos k (List.mem_cons_of_mem _ hk)⟩
  | seq a b iha ihb =>
    exact (iha (hnumbered.mono (List.sublist_append_left ..)) hbounded.1).andThen
      (ihb (hnumbered.mono (List.sublist_append_right ..)) hbounded.2)
  | alt a b iha ihb =>
    exact (iha (hnumbered.mono (List.sublist_append_left ..)) hbounded.1).orElse
      (ihb (hnumbered.mono (List.sublist_append_right ..)) hbounded.2) true
  | iterate body least most greedy ih =>
    exact (ih hnumbered hbounded.2).iterate least most greedy hbounded.1

/-- **The ways through the program of a pattern are the matches of the pattern**, with their
captures in the slots. -/
theorem Program.accepts_iff (t : Text) {n : Node} (hnumbered : n.Numbered) (hbounded : n.Bounded)
    (i j : Nat) (σ τ : Slots) :
    (∃ k, (Program.ofNode n).code.Accepts t k (Program.ofNode n).start i σ j τ) ↔
      ∃ cs, n.Matches t i j cs ∧ τ = noted cs σ := by
  have hmeans := Node.layout_means t n hnumbered hbounded
  have hleads : (Program.ofNode n).code.Leads t (Program.ofNode n).start 0 (n.Matches t) :=
    hmeans.leads fun _ _ _ => rfl
  have haccept : (Program.ofNode n).code[0]? = some .accept :=
    (hmeans.grows 0 #[.accept]).2 0 Nat.zero_lt_one
  constructor
  · intro h
    obtain ⟨k, h⟩ := h
    obtain ⟨k', l, cs, -, hm, hend⟩ := hleads.passes h
    obtain ⟨-, rfl, rfl⟩ := (Code.accepts_iff_of_accept haccept).mp hend
    exact ⟨cs, hm, rfl⟩
  · intro h
    obtain ⟨cs, hm, rfl⟩ := h
    exact hleads.reaches hm (.accept haccept)

end Gherkin.Pattern
