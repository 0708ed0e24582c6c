import Gherkin.Proofs.Pattern.Meaning

/-!
# Ways through the code of a pattern

`Code.Accepts` says which ways through a code end in acceptance, without the order in which a search
tries them and without the places it has been to before. A way counts its instructions, and it is on
this count that a way round a loop is taken apart.

`Code.Leads` joins code and meaning: every way from the one place passes the other, after something
that is meant, and what is meant leads there from every position and with any slots. It composes as
meanings do (`Leads.trans`, `Leads.choice`), and a decision that leads back to itself leads on after
any number of rounds (`Leads.loop`).
-/

namespace Gherkin.Pattern

/-- A way through the code from a place, a position of the text and some slots: after how many
instructions it accepts, where, and with which slots. -/
inductive Code.Accepts (code : Code) (t : Text) :
    (length place position : Nat) → Slots → (stop : Nat) → (final : Slots) → Prop where
  | accept {place i : Nat} {σ : Slots} (here : code[place]? = some .accept) :
    Accepts code t 0 place i σ i σ
  | take {n place next i j : Nat} {σ τ : Slots} {set : CharSet} {c : Char}
    (here : code[place]? = some (.take set next)) (after : t[i]? = some c)
    (contains : set.contains c = true) (rest : Accepts code t n next (i + 1) σ j τ) :
    Accepts code t (n + 1) place i σ j τ
  | first {n place a b i j : Nat} {σ τ : Slots} (here : code[place]? = some (.split a b))
    (rest : Accepts code t n a i σ j τ) : Accepts code t (n + 1) place i σ j τ
  | second {n place a b i j : Nat} {σ τ : Slots} (here : code[place]? = some (.split a b))
    (rest : Accepts code t n b i σ j τ) : Accepts code t (n + 1) place i σ j τ
  | save {n place slot next i j : Nat} {σ τ : Slots} (here : code[place]? = some (.save slot next))
    (rest : Accepts code t n next i (σ.set slot (some i)) j τ) :
    Accepts code t (n + 1) place i σ j τ
  | check {n place next i j : Nat} {σ τ : Slots} {a : Assertion}
    (here : code[place]? = some (.check a next))
    (holds : a.holds (charBefore t i) t[i]? = true) (rest : Accepts code t n next i σ j τ) :
    Accepts code t (n + 1) place i σ j τ

/-! ## One instruction -/

section Instruction

variable {code : Code} {t : Text} {n place next i j : Nat} {σ τ : Slots}

theorem Code.accepts_iff_of_accept (here : code[place]? = some .accept) :
    code.Accepts t n place i σ j τ ↔ n = 0 ∧ j = i ∧ τ = σ := by
  constructor
  · intro h
    cases h <;> simp_all
  · intro h
    obtain ⟨rfl, rfl, rfl⟩ := h
    exact .accept here

theorem Code.accepts_iff_of_take {set : CharSet} (here : code[place]? = some (.take set next)) :
    code.Accepts t n place i σ j τ ↔
      ∃ k c, n = k + 1 ∧ t[i]? = some c ∧ set.contains c = true ∧
        code.Accepts t k next (i + 1) σ j τ := by
  constructor
  · intro h
    cases h <;> simp_all
  · intro h
    obtain ⟨k, c, rfl, hafter, hin, rest⟩ := h
    exact .take here hafter hin rest

theorem Code.accepts_iff_of_split {a b : Nat} (here : code[place]? = some (.split a b)) :
    code.Accepts t n place i σ j τ ↔
      ∃ k, n = k + 1 ∧ (code.Accepts t k a i σ j τ ∨ code.Accepts t k b i σ j τ) := by
  constructor
  · intro h
    cases h <;> simp_all
  · intro h
    obtain ⟨k, rfl, rest | rest⟩ := h
    · exact .first here rest
    · exact .second here rest

/-- Which of the two is preferred does not matter to where one may go on. -/
theorem Code.accepts_iff_of_prefer {greedy : Bool} {a b : Nat}
    (here : code[place]? = some (Layout.prefer greedy a b)) :
    code.Accepts t n place i σ j τ ↔
      ∃ k, n = k + 1 ∧ (code.Accepts t k a i σ j τ ∨ code.Accepts t k b i σ j τ) := by
  cases greedy with
  | true => exact accepts_iff_of_split here
  | false => rw [accepts_iff_of_split here]; simp only [Or.comm]

theorem Code.accepts_iff_of_save {slot : Nat} (here : code[place]? = some (.save slot next)) :
    code.Accepts t n place i σ j τ ↔
      ∃ k, n = k + 1 ∧ code.Accepts t k next i (σ.set slot (some i)) j τ := by
  constructor
  · intro h
    cases h <;> simp_all
  · intro h
    obtain ⟨k, rfl, rest⟩ := h
    exact .save here rest

theorem Code.accepts_iff_of_check {a : Assertion} (here : code[place]? = some (.check a next)) :
    code.Accepts t n place i σ j τ ↔
      ∃ k, n = k + 1 ∧ a.holds (charBefore t i) t[i]? = true ∧ code.Accepts t k next i σ j τ := by
  constructor
  · intro h
    cases h <;> simp_all
  · intro h
    obtain ⟨k, rfl, hholds, rest⟩ := h
    exact .check here hholds rest

/-- No way begins outside the code. -/
theorem Code.not_accepts_of_none (here : code[place]? = none) :
    ¬ code.Accepts t n place i σ j τ := by
  intro h
  cases h <;> simp_all

end Instruction

/-! ## Captures in the slots -/

/-- The slots after a capture has been noted in those of its group. -/
def Capture.note (σ : Slots) (c : Capture) : Slots :=
  (σ.set (2 * c.group - 2) (some c.start)).set (2 * c.group - 1) (some c.stop)

/-- The slots after the captures have been noted in them one after another. -/
def noted (cs : List Capture) (σ : Slots) : Slots := cs.foldl Capture.note σ

theorem noted_append (ds es : List Capture) (σ : Slots) :
    noted (ds ++ es) σ = noted es (noted ds σ) := List.foldl_append ..

theorem length_noted (cs : List Capture) (σ : Slots) : (noted cs σ).length = σ.length := by
  induction cs generalizing σ with
  | nil => rfl
  | cons c cs ih =>
    show (noted cs (c.note σ)).length = σ.length
    rw [ih, Capture.note, List.length_set, List.length_set]

/-- Captures of other groups leave a group's opening slot as it is. -/
theorem noted_set_start {cs : List Capture} {n : Nat} (hn : 0 < n)
    (hcs : ∀ c ∈ cs, c.group ≠ n ∧ 0 < c.group) (v : Option Nat) (σ : Slots) :
    noted cs (σ.set (2 * n - 2) v) = (noted cs σ).set (2 * n - 2) v := by
  induction cs generalizing σ with
  | nil => rfl
  | cons c cs ih =>
    obtain ⟨hne, hpos⟩ := hcs c (List.mem_cons_self ..)
    have hstart : 2 * n - 2 ≠ 2 * c.group - 2 := by omega
    have hstop : 2 * n - 2 ≠ 2 * c.group - 1 := by omega
    have hnote : c.note (σ.set (2 * n - 2) v) = (c.note σ).set (2 * n - 2) v := by
      rw [Capture.note, Capture.note, List.set_comm _ _ hstart, List.set_comm _ _ hstop]
    show noted cs (c.note (σ.set (2 * n - 2) v)) = (noted cs (c.note σ)).set (2 * n - 2) v
    rw [hnote]
    exact ih (fun d hd => hcs d (List.mem_cons_of_mem _ hd)) _

/-! ## From one place to another -/

/-- Every way from `entry` passes `next`, after something that is meant, and whatever is meant leads
from `entry` to `next`. -/
structure Code.Leads (code : Code) (t : Text) (entry next : Nat) (m : Meaning) : Prop where
  passes : ∀ ⦃n i : Nat⦄ ⦃σ : Slots⦄ ⦃j : Nat⦄ ⦃τ : Slots⦄, code.Accepts t n entry i σ j τ →
    ∃ k l cs, k ≤ n ∧ m i l cs ∧ code.Accepts t k next l (noted cs σ) j τ
  reaches : ∀ ⦃k i l : Nat⦄ ⦃cs : List Capture⦄ ⦃σ : Slots⦄ ⦃j : Nat⦄ ⦃τ : Slots⦄, m i l cs →
    code.Accepts t k next l (noted cs σ) j τ → ∃ n, code.Accepts t n entry i σ j τ

namespace Code.Leads

variable {code : Code} {t : Text} {p q r n : Nat} {a b m : Meaning}

theorem refl (code : Code) (t : Text) (p : Nat) : code.Leads t p p .nothing where
  passes := by
    intro n i σ j τ h
    exact ⟨n, i, [], Nat.le_refl n, ⟨rfl, rfl⟩, h⟩
  reaches := by
    intro k i _ _ σ j τ hm h
    obtain ⟨rfl, rfl⟩ := hm
    exact ⟨k, h⟩

theorem trans (ha : code.Leads t p q a) (hb : code.Leads t q r b) :
    code.Leads t p r (a.andThen b) where
  passes := by
    intro n i σ j τ h
    obtain ⟨k, l, ds, hk, hm, hrest⟩ := ha.passes h
    obtain ⟨k', l', es, hk', hm', hrest'⟩ := hb.passes hrest
    refine ⟨k', l', ds ++ es, Nat.le_trans hk' hk, ⟨l, ds, es, hm, hm', rfl⟩, ?_⟩
    rwa [noted_append]
  reaches := by
    intro k i l' _ σ j τ hm h
    obtain ⟨l, ds, es, hm, hm', rfl⟩ := hm
    rw [noted_append] at h
    obtain ⟨n, hmid⟩ := hb.reaches hm' h
    exact ha.reaches hm hmid

theorem take {set : CharSet} (here : code[p]? = some (.take set q)) :
    code.Leads t p q ((Node.one set).Matches t) where
  passes := by
    intro n i σ j τ h
    obtain ⟨k, c, rfl, hafter, hin, hrest⟩ := (accepts_iff_of_take here).mp h
    exact ⟨k, i + 1, [], Nat.le_succ k, ⟨⟨c, hafter, hin⟩, rfl, rfl⟩, hrest⟩
  reaches := by
    intro k i _ _ σ j τ hm h
    obtain ⟨⟨c, hafter, hin⟩, rfl, rfl⟩ := hm
    exact ⟨k + 1, .take here hafter hin h⟩

theorem check {x : Assertion} (here : code[p]? = some (.check x q)) :
    code.Leads t p q ((Node.assertion x).Matches t) where
  passes := by
    intro n i σ j τ h
    obtain ⟨k, rfl, hholds, hrest⟩ := (accepts_iff_of_check here).mp h
    exact ⟨k, i, [], Nat.le_succ k, ⟨hholds, rfl, rfl⟩, hrest⟩
  reaches := by
    intro k i _ _ σ j τ hm h
    obtain ⟨hholds, rfl, rfl⟩ := hm
    exact ⟨k + 1, .check here hholds h⟩

theorem choice {greedy : Bool} {x y : Nat} (here : code[p]? = some (Layout.prefer greedy x y))
    (ha : code.Leads t x q a) (hb : code.Leads t y q b) : code.Leads t p q (a.orElse b) where
  passes := by
    intro n i σ j τ h
    obtain ⟨k, rfl, hx | hy⟩ := (accepts_iff_of_prefer here).mp h
    · obtain ⟨k', l, cs, hk', hm, hrest⟩ := ha.passes hx
      exact ⟨k', l, cs, Nat.le_succ_of_le hk', Or.inl hm, hrest⟩
    · obtain ⟨k', l, cs, hk', hm, hrest⟩ := hb.passes hy
      exact ⟨k', l, cs, Nat.le_succ_of_le hk', Or.inr hm, hrest⟩
  reaches := by
    intro k i l cs σ j τ hm h
    obtain hm | hm := hm
    · obtain ⟨n, hx⟩ := ha.reaches hm h
      exact ⟨n + 1, (accepts_iff_of_prefer here).mpr ⟨n, rfl, Or.inl hx⟩⟩
    · obtain ⟨n, hy⟩ := hb.reaches hm h
      exact ⟨n + 1, (accepts_iff_of_prefer here).mpr ⟨n, rfl, Or.inr hy⟩⟩

/-- A group whose body captures other groups only: its opening slot, noted before the body, still
stands when the closing one is noted after it. -/
theorem group {body : Node} {entry stop : Nat}
    (here : code[p]? = some (.save (2 * n - 2) entry))
    (hbody : code.Leads t entry stop (body.Matches t))
    (there : code[stop]? = some (.save (2 * n - 1) q)) (hn : 0 < n)
    (hnumbers : ∀ k ∈ body.numbers, k ≠ n ∧ 0 < k) :
    code.Leads t p q ((Node.group n body).Matches t) where
  passes := by
    intro m i σ j τ h
    obtain ⟨k, rfl, hopen⟩ := (accepts_iff_of_save here).mp h
    obtain ⟨k', l, ds, hk', hm, hclose⟩ := hbody.passes hopen
    obtain ⟨k'', rfl, hrest⟩ := (accepts_iff_of_save there).mp hclose
    have hds : ∀ c ∈ ds, c.group ≠ n ∧ 0 < c.group := fun c hc =>
      hnumbers _ ((body.within_matches t hm).2.2 c hc).1
    refine ⟨k'', l, ds ++ [⟨n, i, l⟩], by omega, ⟨ds, hm, rfl⟩, ?_⟩
    rw [noted_set_start hn hds] at hrest
    rw [noted_append]
    exact hrest
  reaches := by
    intro k i l _ σ j τ hm h
    obtain ⟨ds, hm, rfl⟩ := hm
    have hds : ∀ c ∈ ds, c.group ≠ n ∧ 0 < c.group := fun c hc =>
      hnumbers _ ((body.within_matches t hm).2.2 c hc).1
    have hclose : code.Accepts t (k + 1) stop l (noted ds (σ.set (2 * n - 2) (some i))) j τ := by
      refine .save there ?_
      rw [noted_set_start hn hds]
      rw [noted_append] at h
      exact h
    obtain ⟨m', hopen⟩ := hbody.reaches hm hclose
    exact ⟨m' + 1, .save here hopen⟩

/-- A decision that leads back to itself leads on after any number of rounds. -/
theorem loop {greedy : Bool} {entry : Nat} (here : code[p]? = some (Layout.prefer greedy entry q))
    (h : code.Leads t entry p m) : code.Leads t p q (m.repeats fun _ => True) where
  passes := by
    intro n
    -- a round takes an instruction at least, the decision itself
    induction n using Nat.strongRecOn with
    | _ n ih =>
      intro i σ j τ hp
      obtain ⟨k, rfl, hentry | hq⟩ := (accepts_iff_of_prefer here).mp hp
      · obtain ⟨k', l, ds, hk', hround, hagain⟩ := h.passes hentry
        obtain ⟨k'', l', es, hk'', ⟨count, -, hrounds⟩, hrest⟩ := ih k' (by omega) hagain
        refine ⟨k'', l', ds ++ es, by omega,
          ⟨count + 1, trivial, l, ds, es, hround, hrounds, rfl⟩, ?_⟩
        rwa [noted_append]
      · exact ⟨k, i, [], Nat.le_succ k, ⟨0, trivial, rfl, rfl⟩, hq⟩
  reaches := by
    intro k i l cs σ j τ hm hq
    obtain ⟨count, -, hrounds⟩ := hm
    induction count generalizing i cs σ with
    | zero =>
      obtain ⟨rfl, rfl⟩ := hrounds
      exact ⟨k + 1, (accepts_iff_of_prefer here).mpr ⟨k, rfl, Or.inr hq⟩⟩
    | succ count ih =>
      obtain ⟨l', ds, es, hround, hrounds, rfl⟩ := hrounds
      rw [noted_append] at hq
      obtain ⟨n, hagain⟩ := ih hq hrounds
      obtain ⟨n', hentry⟩ := h.reaches hround hagain
      exact ⟨n' + 1, (accepts_iff_of_prefer here).mpr ⟨n', rfl, Or.inl hentry⟩⟩

end Code.Leads

end Gherkin.Pattern
