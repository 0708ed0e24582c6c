import Gherkin.Proofs.Pattern.Search

/-!
# The search finds what is preferred

Where an instruction has two successors the first is preferred: from there a way goes on unless no
way accepts. `Code.Prefers` is the way that comes of this. It has one length whatever the slots are,
and this is why nothing is lost when a thread is dropped at a place that was entered before: as long
as no thread is ready from which a way accepts, the first one waiting from which a way accepts
prefers a shorter way than all places that were entered (`Program.Ahead`).

* `Program.search_of_prefers` — a search finds the preferred way from the first position from which
  a way accepts.
-/

namespace Gherkin.Pattern

/-- From the place and the position some way accepts. -/
def Code.Alive (code : Code) (t : Text) (place position : Nat) : Prop :=
  ∃ n, code.Live t n place position

/-- The preferred way from a place, a position of the text and some slots: after how many
instructions it accepts, and with which slots. -/
inductive Code.Prefers (code : Code) (t : Text) :
    (length place position : Nat) → Slots → (final : Slots) → Prop where
  | accept {place i : Nat} {σ : Slots} (here : code[place]? = some .accept) :
    Prefers code t 0 place i σ σ
  | take {n place next i : Nat} {σ τ : Slots} {set : CharSet} {c : Char}
    (here : code[place]? = some (.take set next)) (after : t[i]? = some c)
    (contains : set.contains c = true) (rest : Prefers code t n next (i + 1) σ τ) :
    Prefers code t (n + 1) place i σ τ
  | first {n place a b i : Nat} {σ τ : Slots} (here : code[place]? = some (.split a b))
    (rest : Prefers code t n a i σ τ) : Prefers code t (n + 1) place i σ τ
  | second {n place a b i : Nat} {σ τ : Slots} (here : code[place]? = some (.split a b))
    (dead : ¬ code.Alive t a i) (rest : Prefers code t n b i σ τ) :
    Prefers code t (n + 1) place i σ τ
  | save {n place slot next i : Nat} {σ τ : Slots} (here : code[place]? = some (.save slot next))
    (rest : Prefers code t n next i (σ.set slot (some i)) τ) : Prefers code t (n + 1) place i σ τ
  | check {n place next i : Nat} {σ τ : Slots} {a : Assertion}
    (here : code[place]? = some (.check a next))
    (holds : a.holds (charBefore t i) t[i]? = true) (rest : Prefers code t n next i σ τ) :
    Prefers code t (n + 1) place i σ τ

namespace Code

variable {code : Code} {t : Text} {n m place next i : Nat} {σ σ' τ τ' : Slots}

/-! ## From which places a way accepts -/

/-- Ways are the same with any slots. -/
theorem Accepts.exists_with {j : Nat} (h : code.Accepts t n place i σ j τ) (σ' : Slots) :
    ∃ τ', code.Accepts t n place i σ' j τ' := by
  induction h generalizing σ' with
  | accept here => exact ⟨σ', .accept here⟩
  | take here hc hin _ ih =>
    obtain ⟨τ', h⟩ := ih σ'
    exact ⟨τ', .take here hc hin h⟩
  | first here _ ih =>
    obtain ⟨τ', h⟩ := ih σ'
    exact ⟨τ', .first here h⟩
  | second here _ ih =>
    obtain ⟨τ', h⟩ := ih σ'
    exact ⟨τ', .second here h⟩
  | save here _ ih =>
    obtain ⟨τ', h⟩ := ih _
    exact ⟨τ', .save here h⟩
  | check here hholds _ ih =>
    obtain ⟨τ', h⟩ := ih σ'
    exact ⟨τ', .check here hholds h⟩

theorem alive_of_accept (here : code[place]? = some .accept) : code.Alive t place i :=
  ⟨0, [], i, [], .accept here⟩

theorem alive_iff_of_take {set : CharSet} (here : code[place]? = some (.take set next)) :
    code.Alive t place i ↔
      ∃ c, t[i]? = some c ∧ set.contains c = true ∧ code.Alive t next (i + 1) := by
  constructor
  · intro h
    obtain ⟨n, σ, j, τ, h⟩ := h
    obtain ⟨k, c, -, hc, hin, hrest⟩ := (accepts_iff_of_take here).mp h
    exact ⟨c, hc, hin, k, σ, j, τ, hrest⟩
  · intro h
    obtain ⟨c, hc, hin, k, σ, j, τ, hrest⟩ := h
    exact ⟨k + 1, σ, j, τ, .take here hc hin hrest⟩

theorem alive_iff_of_split {a b : Nat} (here : code[place]? = some (.split a b)) :
    code.Alive t place i ↔ code.Alive t a i ∨ code.Alive t b i := by
  constructor
  · intro h
    obtain ⟨n, σ, j, τ, h⟩ := h
    obtain ⟨k, -, ha | hb⟩ := (accepts_iff_of_split here).mp h
    · exact Or.inl ⟨k, σ, j, τ, ha⟩
    · exact Or.inr ⟨k, σ, j, τ, hb⟩
  · intro h
    obtain ⟨k, σ, j, τ, ha⟩ | ⟨k, σ, j, τ, hb⟩ := h
    · exact ⟨k + 1, σ, j, τ, .first here ha⟩
    · exact ⟨k + 1, σ, j, τ, .second here hb⟩

theorem alive_iff_of_save {slot : Nat} (here : code[place]? = some (.save slot next)) :
    code.Alive t place i ↔ code.Alive t next i := by
  constructor
  · intro h
    obtain ⟨n, σ, j, τ, h⟩ := h
    obtain ⟨k, -, hrest⟩ := (accepts_iff_of_save here).mp h
    exact ⟨k, _, j, τ, hrest⟩
  · intro h
    obtain ⟨k, σ, j, τ, hrest⟩ := h
    obtain ⟨τ', hrest⟩ := hrest.exists_with (σ.set slot (some i))
    exact ⟨k + 1, σ, j, τ', .save here hrest⟩

theorem alive_iff_of_check {a : Assertion} (here : code[place]? = some (.check a next)) :
    code.Alive t place i ↔ a.holds (charBefore t i) t[i]? = true ∧ code.Alive t next i := by
  constructor
  · intro h
    obtain ⟨n, σ, j, τ, h⟩ := h
    obtain ⟨k, -, hholds, hrest⟩ := (accepts_iff_of_check here).mp h
    exact ⟨hholds, k, σ, j, τ, hrest⟩
  · intro h
    obtain ⟨hholds, k, σ, j, τ, hrest⟩ := h
    exact ⟨k + 1, σ, j, τ, .check here hholds hrest⟩

theorem not_alive_of_none (here : code[place]? = none) : ¬ code.Alive t place i := by
  intro h
  obtain ⟨n, σ, j, τ, h⟩ := h
  exact not_accepts_of_none here h

/-! ## The preferred way -/

/-- What is preferred is one of the ways. -/
theorem Prefers.alive (h : code.Prefers t n place i σ τ) : code.Alive t place i := by
  induction h with
  | accept here => exact alive_of_accept here
  | take here hc hin _ ih => exact (alive_iff_of_take here).mpr ⟨_, hc, hin, ih⟩
  | first here _ ih => exact (alive_iff_of_split here).mpr (Or.inl ih)
  | second here _ _ ih => exact (alive_iff_of_split here).mpr (Or.inr ih)
  | save here _ ih => exact (alive_iff_of_save here).mpr ih
  | check here hholds _ ih => exact (alive_iff_of_check here).mpr ⟨hholds, ih⟩

theorem prefers_iff_of_accept (here : code[place]? = some .accept) :
    code.Prefers t n place i σ τ ↔ n = 0 ∧ τ = σ := by
  constructor
  · intro h
    cases h <;> simp_all
  · intro h
    obtain ⟨rfl, rfl⟩ := h
    exact .accept here

theorem prefers_iff_of_take {set : CharSet} (here : code[place]? = some (.take set next)) :
    code.Prefers t n place i σ τ ↔
      ∃ k c, n = k + 1 ∧ t[i]? = some c ∧ set.contains c = true ∧
        code.Prefers t k next (i + 1) σ τ := by
  constructor
  · intro h
    cases h <;> simp_all
  · intro h
    obtain ⟨k, c, rfl, hafter, hin, rest⟩ := h
    exact .take here hafter hin rest

theorem prefers_iff_of_split {a b : Nat} (here : code[place]? = some (.split a b)) :
    code.Prefers t n place i σ τ ↔
      ∃ k, n = k + 1 ∧
        (code.Prefers t k a i σ τ ∨ ¬ code.Alive t a i ∧ code.Prefers t k b i σ τ) := by
  constructor
  · intro h
    cases h <;> simp_all
  · intro h
    obtain ⟨k, rfl, rest | ⟨dead, rest⟩⟩ := h
    · exact .first here rest
    · exact .second here dead rest

theorem prefers_iff_of_save {slot : Nat} (here : code[place]? = some (.save slot next)) :
    code.Prefers t n place i σ τ ↔
      ∃ k, n = k + 1 ∧ code.Prefers t k next i (σ.set slot (some i)) τ := by
  constructor
  · intro h
    cases h <;> simp_all
  · intro h
    obtain ⟨k, rfl, rest⟩ := h
    exact .save here rest

theorem prefers_iff_of_check {a : Assertion} (here : code[place]? = some (.check a next)) :
    code.Prefers t n place i σ τ ↔
      ∃ k, n = k + 1 ∧ a.holds (charBefore t i) t[i]? = true ∧ code.Prefers t k next i σ τ := by
  constructor
  · intro h
    cases h <;> simp_all
  · intro h
    obtain ⟨k, rfl, hholds, rest⟩ := h
    exact .check here hholds rest

/-- **The preferred way has one length**, whatever the slots are. -/
theorem Prefers.length_unique (h : code.Prefers t n place i σ τ)
    (h' : code.Prefers t m place i σ' τ') : n = m := by
  induction h generalizing m σ' τ' with
  | accept here => exact ((prefers_iff_of_accept here).mp h').1.symm
  | take here _ _ _ ih =>
    obtain ⟨k, _, rfl, -, -, hrest⟩ := (prefers_iff_of_take here).mp h'
    rw [ih hrest]
  | first here hfirst ih =>
    obtain ⟨k, rfl, hrest | ⟨hdead, -⟩⟩ := (prefers_iff_of_split here).mp h'
    · rw [ih hrest]
    · exact absurd hfirst.alive hdead
  | second here hdead _ ih =>
    obtain ⟨k, rfl, hfirst | ⟨-, hrest⟩⟩ := (prefers_iff_of_split here).mp h'
    · exact absurd hfirst.alive hdead
    · rw [ih hrest]
  | save here _ ih =>
    obtain ⟨k, rfl, hrest⟩ := (prefers_iff_of_save here).mp h'
    rw [ih hrest]
  | check here _ _ ih =>
    obtain ⟨k, rfl, -, hrest⟩ := (prefers_iff_of_check here).mp h'
    rw [ih hrest]

end Code

namespace Program

variable {p : Program} {t : Text} {position n m : Nat} {τ : Slots} {th : Thread}
  {threads rest ready : List Thread} {seen : Array Bool}

/-! ## The first of several threads -/

/-- The first of the threads from which a way accepts prefers a way of so many instructions, with
these slots. -/
inductive Foremost (p : Program) (t : Text) (position : Nat) :
    List Thread → (length : Nat) → (final : Slots) → Prop where
  | here {th : Thread} {rest : List Thread} {n : Nat} {τ : Slots}
    (prefers : p.code.Prefers t n th.place position th.slots τ) :
    Foremost p t position (th :: rest) n τ
  | later {th : Thread} {rest : List Thread} {n : Nat} {τ : Slots}
    (dead : ¬ p.code.Alive t th.place position) (foremost : Foremost p t position rest n τ) :
    Foremost p t position (th :: rest) n τ

/-- From no thread a way accepts. -/
def Dead (p : Program) (t : Text) (position : Nat) (threads : List Thread) : Prop :=
  ∀ th ∈ threads, ¬ p.code.Alive t th.place position

theorem Foremost.append (h : p.Foremost t position threads n τ) (more : List Thread) :
    p.Foremost t position (threads ++ more) n τ := by
  induction h with
  | here hprefers => exact .here hprefers
  | later hdead _ ih => exact .later hdead ih

theorem Foremost.after (h : p.Foremost t position threads n τ) {before : List Thread}
    (hbefore : p.Dead t position before) : p.Foremost t position (before ++ threads) n τ := by
  induction before with
  | nil => exact h
  | cons th before ih =>
    obtain ⟨hth, hbefore⟩ := List.forall_mem_cons.mp hbefore
    exact .later hth (ih hbefore)

/-! ## Following threads at one position -/

/-- Either a way accepts from one of the threads that are ready, and the first of these prefers the
way to the slots; or that is the first one waiting, and its way is shorter than what the places
prefer that were entered. -/
def Ahead (p : Program) (t : Text) (position : Nat) (seen : Array Bool)
    (threads ready : List Thread) (τ : Slots) : Prop :=
  (∃ n, p.Foremost t position ready.reverse n τ) ∨
  (p.Dead t position ready ∧ ∃ n, p.Foremost t position threads n τ ∧
    ∀ place, seen.getD place true = true →
      ∀ m σ σ', p.code.Prefers t m place position σ σ' → n < m)

/-- A thread at a place that was entered is not the first from which a way accepts. -/
theorem Ahead.skip (h : p.Ahead t position seen (th :: rest) ready τ)
    (hseen : seen.getD th.place true = true) : p.Ahead t position seen rest ready τ := by
  refine h.imp_right ?_
  intro h
  obtain ⟨hready, n, hforemost, hshorter⟩ := h
  cases hforemost with
  | here hprefers => exact absurd (hshorter _ hseen _ _ _ hprefers) (Nat.lt_irrefl n)
  | later _ hforemost => exact ⟨hready, n, hforemost, hshorter⟩

/-- A thread enters its place. It is enough to look at the threads that come of it. -/
theorem Ahead.enter (h : p.Ahead t position seen (th :: rest) ready τ)
    (hnew : ∀ n, p.Foremost t position (th :: rest) n τ →
      ∃ m, p.Foremost t position threads m τ ∧
        (m < n ∨ m = n ∧ ¬ p.code.Alive t th.place position)) :
    p.Ahead t position (seen.setIfInBounds th.place true) threads ready τ := by
  refine h.imp_right ?_
  intro h
  obtain ⟨hready, n, hforemost, hshorter⟩ := h
  obtain ⟨m, hnext, hlength⟩ := hnew n hforemost
  refine ⟨hready, m, hnext, ?_⟩
  intro place hplace k σ σ' hprefers
  rcases seen_enter.mp hplace with rfl | hseen
  · -- the place that is entered
    rcases hlength with hlt | ⟨-, hdead⟩
    · cases hforemost with
      | here hfirst => rwa [hfirst.length_unique hprefers] at hlt
      | later hdead _ => exact absurd hprefers.alive hdead
    · exact absurd hprefers.alive hdead
  · have hn := hshorter place hseen k σ σ' hprefers
    omega

/-- A thread that takes a character is kept. -/
theorem Ahead.keep (h : p.Ahead t position seen (th :: rest) ready τ) :
    p.Ahead t position (seen.setIfInBounds th.place true) rest (th :: ready) τ := by
  unfold Ahead
  rw [List.reverse_cons]
  obtain ⟨n, hready⟩ | ⟨hready, n, hforemost, hshorter⟩ := h
  · exact Or.inl ⟨n, hready.append [th]⟩
  · have hreverse : p.Dead t position ready.reverse := fun w hw => hready w (List.mem_reverse.mp hw)
    cases hforemost with
    | here hprefers => exact Or.inl ⟨n, Foremost.after (.here hprefers) hreverse⟩
    | later hdead hforemost =>
      refine Or.inr ⟨List.forall_mem_cons.mpr ⟨hdead, hready⟩, n, hforemost, ?_⟩
      intro place hplace k σ σ' hprefers
      rcases seen_enter.mp hplace with rfl | hseen
      · exact absurd hprefers.alive hdead
      · exact hshorter place hseen k σ σ' hprefers

/-- What following threads comes to: of the threads that are ready the first from which a way
accepts prefers the way to the slots; or these are accepted, and from none that is ready a way
accepts. -/
def Leaves (p : Program) (t : Text) (position : Nat) (out : List Thread × Option Slots)
    (τ : Slots) : Prop :=
  (∃ n, p.Foremost t position out.1 n τ) ∨ (p.Dead t position out.1 ∧ out.2 = some τ)

/-- **Following threads keeps to what is preferred.** -/
theorem leaves_follow {fuel : Nat} (hfuel : threads.length + 2 * seen.count false < fuel)
    (hahead : p.Ahead t position seen threads ready τ) :
    p.Leaves t position
      (p.follow (charBefore t position) t[position]? position fuel seen threads ready) τ := by
  fun_induction p.follow (charBefore t position) t[position]? position fuel seen threads ready with
  | case1 => omega
  | case2 seen fuel ready =>
    rcases hahead with hready | ⟨-, n, hforemost, -⟩
    · exact Or.inl hready
    · cases hforemost
  | case3 fuel seen th rest ready hseen ih =>
    rw [List.length_cons] at hfuel
    exact ih (by omega) (hahead.skip hseen)
  | case4 fuel seen th rest ready hseen _ hnowhere ih =>
    refine ih (fuel_enter hfuel hseen (Nat.le_add_right ..)) (hahead.enter ?_)
    intro n hforemost
    have hdead : ¬ p.code.Alive t th.place position := Code.not_alive_of_none hnowhere
    cases hforemost with
    | here hprefers => exact absurd hprefers.alive hdead
    | later _ hforemost => exact ⟨n, hforemost, Or.inr ⟨rfl, hdead⟩⟩
  | case5 fuel seen th rest ready hseen haccept =>
    rcases hahead with hready | ⟨hready, n, hforemost, -⟩
    · exact Or.inl hready
    · refine Or.inr ⟨fun w hw => hready w (List.mem_reverse.mp hw), ?_⟩
      cases hforemost with
      | here hprefers => rw [((Code.prefers_iff_of_accept haccept).mp hprefers).2]
      | later hdead _ => exact absurd (Code.alive_of_accept haccept) hdead
  | case6 fuel seen th rest ready hseen _ set next htake ih =>
    exact ih (fuel_enter hfuel hseen (Nat.le_add_right ..)) hahead.keep
  | case7 fuel seen th rest ready hseen _ a b hsplit ih =>
    refine ih (fuel_enter hfuel hseen (Nat.le_refl _)) (hahead.enter ?_)
    intro n hforemost
    cases hforemost with
    | here hprefers =>
      obtain ⟨k, rfl, hrest | ⟨hdead, hrest⟩⟩ := (Code.prefers_iff_of_split hsplit).mp hprefers
      · exact ⟨k, .here hrest, Or.inl (Nat.lt_succ_self k)⟩
      · exact ⟨k, .later hdead (.here hrest), Or.inl (Nat.lt_succ_self k)⟩
    | later hdead hforemost =>
      have hsides := hdead
      rw [Code.alive_iff_of_split hsplit, not_or] at hsides
      exact ⟨n, .later hsides.1 (.later hsides.2 hforemost), Or.inr ⟨rfl, hdead⟩⟩
  | case8 fuel seen th rest ready hseen _ slot next hsave ih =>
    refine ih (fuel_enter hfuel hseen (Nat.le_succ _)) (hahead.enter ?_)
    intro n hforemost
    cases hforemost with
    | here hprefers =>
      obtain ⟨k, rfl, hrest⟩ := (Code.prefers_iff_of_save hsave).mp hprefers
      exact ⟨k, .here hrest, Or.inl (Nat.lt_succ_self k)⟩
    | later hdead hforemost =>
      have hnext := hdead
      rw [Code.alive_iff_of_save hsave] at hnext
      exact ⟨n, .later hnext hforemost, Or.inr ⟨rfl, hdead⟩⟩
  | case9 fuel seen th rest ready hseen _ a next hcheck hholds ih =>
    refine ih (fuel_enter hfuel hseen (Nat.le_succ _)) (hahead.enter ?_)
    intro n hforemost
    cases hforemost with
    | here hprefers =>
      obtain ⟨k, rfl, -, hrest⟩ := (Code.prefers_iff_of_check hcheck).mp hprefers
      exact ⟨k, .here hrest, Or.inl (Nat.lt_succ_self k)⟩
    | later hdead hforemost =>
      have hnext : ¬ p.code.Alive t next position := fun halive =>
        hdead ((Code.alive_iff_of_check hcheck).mpr ⟨hholds, halive⟩)
      exact ⟨n, .later hnext hforemost, Or.inr ⟨rfl, hdead⟩⟩
  | case10 fuel seen th rest ready hseen _ a next hcheck hfails ih =>
    refine ih (fuel_enter hfuel hseen (Nat.le_add_right ..)) (hahead.enter ?_)
    intro n hforemost
    have hdead : ¬ p.code.Alive t th.place position := fun halive =>
      hfails ((Code.alive_iff_of_check hcheck).mp halive).1
    cases hforemost with
    | here hprefers => exact absurd hprefers.alive hdead
    | later _ hforemost => exact ⟨n, hforemost, Or.inr ⟨rfl, hdead⟩⟩

/-- Threads from which no way accepts come to nothing. -/
theorem dead_follow {fuel : Nat} (hthreads : p.Dead t position threads)
    (hready : p.Dead t position ready) :
    p.Dead t position
        (p.follow (charBefore t position) t[position]? position fuel seen threads ready).1 ∧
      (p.follow (charBefore t position) t[position]? position fuel seen threads ready).2
        = none := by
  fun_induction p.follow (charBefore t position) t[position]? position fuel seen threads ready with
  | case1 | case2 => exact ⟨fun w hw => hready w (List.mem_reverse.mp hw), rfl⟩
  | case3 fuel seen th rest ready hseen ih => exact ih (List.forall_mem_cons.mp hthreads).2 hready
  | case4 fuel seen th rest ready hseen _ hnowhere ih =>
    exact ih (List.forall_mem_cons.mp hthreads).2 hready
  | case5 fuel seen th rest ready hseen haccept =>
    exact absurd (Code.alive_of_accept haccept) (hthreads th (List.mem_cons_self ..))
  | case6 fuel seen th rest ready hseen _ set next htake ih =>
    obtain ⟨hth, hrest⟩ := List.forall_mem_cons.mp hthreads
    exact ih hrest (List.forall_mem_cons.mpr ⟨hth, hready⟩)
  | case7 fuel seen th rest ready hseen _ a b hsplit ih =>
    obtain ⟨hth, hrest⟩ := List.forall_mem_cons.mp hthreads
    rw [Code.alive_iff_of_split hsplit, not_or] at hth
    exact ih (List.forall_mem_cons.mpr ⟨hth.1, List.forall_mem_cons.mpr ⟨hth.2, hrest⟩⟩) hready
  | case8 fuel seen th rest ready hseen _ slot next hsave ih =>
    obtain ⟨hth, hrest⟩ := List.forall_mem_cons.mp hthreads
    rw [Code.alive_iff_of_save hsave] at hth
    exact ih (List.forall_mem_cons.mpr ⟨hth, hrest⟩) hready
  | case9 fuel seen th rest ready hseen _ a next hcheck hholds ih =>
    obtain ⟨hth, hrest⟩ := List.forall_mem_cons.mp hthreads
    have hnext : ¬ p.code.Alive t next position := fun halive =>
      hth ((Code.alive_iff_of_check hcheck).mpr ⟨hholds, halive⟩)
    exact ih (List.forall_mem_cons.mpr ⟨hnext, hrest⟩) hready
  | case10 fuel seen th rest ready hseen _ a next hcheck hfails ih =>
    exact ih (List.forall_mem_cons.mp hthreads).2 hready

/-- The thread is about to take a character. -/
def Takes (p : Program) (th : Thread) : Prop :=
  ∃ set next, p.code[th.place]? = some (.take set next)

/-- Threads are followed until they take a character. -/
theorem takes_follow {fuel : Nat} {before after : Option Char}
    (hready : ∀ th ∈ ready, p.Takes th) :
    ∀ th ∈ (p.follow before after position fuel seen threads ready).1, p.Takes th := by
  fun_induction p.follow before after position fuel seen threads ready with
  | case1 | case2 | case5 => exact fun w hw => hready w (List.mem_reverse.mp hw)
  | case6 fuel seen th rest ready hseen _ set next htake ih =>
    exact ih (List.forall_mem_cons.mpr ⟨⟨set, next, htake⟩, hready⟩)
  | case3 | case4 | case7 | case8 | case9 | case10 => rename_i ih; exact ih hready

/-! ## One position after another -/

/-- **A round keeps to what is preferred.** -/
theorem leaves_round (h : p.Foremost t position threads n τ) :
    p.Leaves t position (p.round t position threads) τ := by
  refine leaves_follow ?_ (Or.inr ⟨fun _ hth => absurd hth List.not_mem_nil, n, h, ?_⟩)
  · rw [Array.count_replicate_self]
    exact Nat.lt_succ_self _
  · -- at first no place of the code was entered
    intro place hplace m σ σ' hprefers
    rw [Array.getD_eq_getD_getElem?, Array.getElem?_replicate] at hplace
    split at hplace
    · cases hplace
    next hout =>
      exact absurd hprefers.alive
        (Code.not_alive_of_none (Array.getElem?_eq_none (Nat.le_of_not_lt hout)))

theorem dead_round (h : p.Dead t position threads) :
    p.Dead t position (p.round t position threads).1 ∧ (p.round t position threads).2 = none :=
  dead_follow h fun _ hth => absurd hth List.not_mem_nil

theorem takes_round : ∀ th ∈ (p.round t position threads).1, p.Takes th :=
  takes_follow fun _ hth => absurd hth List.not_mem_nil

theorem dead_advance {c : Char} (hc : t[position]? = some c) (h : p.Dead t position ready) :
    p.Dead t (position + 1) (p.advance c ready) := by
  intro th hth
  obtain ⟨w, hw, hmoved⟩ := List.mem_filterMap.mp hth
  split at hmoved
  next set next htake =>
    split at hmoved
    next hin =>
      obtain rfl := Option.some.inj hmoved
      exact fun halive => h w hw ((Code.alive_iff_of_take htake).mpr ⟨c, hc, hin, halive⟩)
    next => cases hmoved
  next => cases hmoved

theorem advance_cons {c : Char} {set : CharSet} {next : Nat}
    (htake : p.code[th.place]? = some (.take set next)) (ready : List Thread) :
    p.advance c (th :: ready)
      = if set.contains c then { th with place := next } :: p.advance c ready
        else p.advance c ready := by
  unfold advance
  rw [List.filterMap_cons, htake]
  dsimp only
  split <;> simp_all

/-- The first thread from which a way accepts is still the first after the character. -/
theorem Foremost.advance {c : Char} (hc : t[position]? = some c) (htakes : ∀ th ∈ ready, p.Takes th)
    (h : p.Foremost t position ready n τ) :
    ∃ m, p.Foremost t (position + 1) (p.advance c ready) m τ := by
  induction h with
  | here hprefers =>
    obtain ⟨set, next, htake⟩ := htakes _ (List.mem_cons_self ..)
    obtain ⟨k, d, -, hd, hin, hrest⟩ := (Code.prefers_iff_of_take htake).mp hprefers
    obtain rfl : d = c := Option.some.inj (hd.symm.trans hc)
    rw [advance_cons htake, if_pos hin]
    exact ⟨k, .here hrest⟩
  | later hdead _ ih =>
    obtain ⟨⟨set, next, htake⟩, htakes⟩ := List.forall_mem_cons.mp htakes
    obtain ⟨m, hforemost⟩ := ih htakes
    rw [advance_cons htake]
    split
    next hin =>
      have hnext : ¬ p.code.Alive t next (position + 1) := fun halive =>
        hdead ((Code.alive_iff_of_take htake).mpr ⟨c, hc, hin, halive⟩)
      exact ⟨m, .later hnext hforemost⟩
    next => exact ⟨m, hforemost⟩

/-- At the end of the text no thread takes a character. -/
theorem dead_of_takes (hend : t[position]? = none) (htakes : ∀ th ∈ ready, p.Takes th) :
    p.Dead t position ready := by
  intro th hth halive
  obtain ⟨set, next, htake⟩ := htakes th hth
  obtain ⟨c, hc, -, -⟩ := (Code.alive_iff_of_take htake).mp halive
  cases hend.symm.trans hc

theorem Foremost.not_dead (h : p.Foremost t position threads n τ) :
    ¬ p.Dead t position threads := by
  induction h with
  | here hprefers => exact fun hdead => hdead _ (List.mem_cons_self ..) hprefers.alive
  | later _ _ ih => exact fun hdead => ih fun w hw => hdead w (List.mem_cons_of_mem _ hw)

/-! ## The whole search -/

/-- A thread that begins is less preferred than those under way. -/
theorem Foremost.waiting (h : p.Foremost t position threads n τ) (found : Option Slots) :
    p.Foremost t position (p.waiting threads found) n τ := by
  unfold Program.waiting
  split
  next => exact h.append [p.fresh]
  next => exact h

/-- What was found stays if no thread goes on to accept. -/
theorem searchFrom_of_dead {text : Text} (htext : t.drop position = text)
    (h : p.Dead t position threads) :
    p.searchFrom position (charBefore t position) threads (some τ) text = some τ := by
  induction text generalizing position threads with
  | nil =>
    have hend : t[position]? = none := List.getElem?_eq_none (List.drop_eq_nil_iff.mp htext)
    have hout : (p.round t position (p.waiting threads (some τ))).2 = none := (dead_round h).2
    rw [searchFrom_nil hend, hout]
    rfl
  | cons c text ih =>
    obtain ⟨hc, htext⟩ := drop_eq_cons htext
    obtain ⟨hready, hout⟩ : p.Dead t position (p.round t position (p.waiting threads (some τ))).1 ∧
        (p.round t position (p.waiting threads (some τ))).2 = none := dead_round h
    rw [searchFrom_cons hc]
    dsimp only
    rw [hout]
    split
    next => rfl
    next => exact ih htext (dead_advance hc hready)

/-- **A search finds what is preferred by the first thread from which a way accepts.** -/
theorem searchFrom_of_foremost {text : Text} (htext : t.drop position = text)
    {found : Option Slots} (h : p.Foremost t position (p.waiting threads found) n τ) :
    p.searchFrom position (charBefore t position) threads found text = some τ := by
  induction text generalizing position threads found n with
  | nil =>
    have hend : t[position]? = none := List.getElem?_eq_none (List.drop_eq_nil_iff.mp htext)
    rw [searchFrom_nil hend]
    rcases leaves_round h with ⟨m, hready⟩ | ⟨-, hout⟩
    · exact absurd (dead_of_takes hend takes_round) hready.not_dead
    · rw [hout]
      rfl
  | cons c text ih =>
    obtain ⟨hc, htext⟩ := drop_eq_cons htext
    rw [searchFrom_cons hc]
    dsimp only
    rcases leaves_round h with ⟨m, hready⟩ | ⟨hready, hout⟩
    · obtain ⟨k, hnext⟩ := hready.advance hc takes_round
      -- a thread goes on, so the search does
      have hgoes : p.advance c (p.round t position (p.waiting threads found)).1 ≠ [] := by
        intro hnil
        rw [hnil] at hnext
        cases hnext
      rw [if_neg (by simp [hgoes])]
      exact ih htext (hnext.waiting _)
    · rw [hout]
      split
      next => rfl
      next => exact searchFrom_of_dead htext (dead_advance hc hready)

/-- A search goes on to the first position from which a way accepts. -/
theorem searchFrom_of_prefers {text : Text} (htext : t.drop position = text)
    (h : p.Dead t position threads) {i : Nat} (hi : position ≤ i) (hin : i ≤ t.length)
    (hbefore : ∀ k, position ≤ k → k < i → ¬ p.code.Alive t p.start k)
    (hprefers : p.code.Prefers t n p.start i p.fresh.slots τ) :
    p.searchFrom position (charBefore t position) threads none text = some τ := by
  induction text generalizing position threads with
  | nil =>
    have hlen : t.length ≤ position := List.drop_eq_nil_iff.mp htext
    obtain rfl : position = i := by omega
    exact searchFrom_of_foremost htext (Foremost.after (.here hprefers) h)
  | cons c text ih =>
    rcases Nat.eq_or_lt_of_le hi with rfl | hlt
    · exact searchFrom_of_foremost htext (Foremost.after (.here hprefers) h)
    · obtain ⟨hc, htext⟩ := drop_eq_cons htext
      have hwaiting : p.Dead t position (p.waiting threads none) := by
        intro th hth
        rcases List.mem_append.mp hth with hth | hth
        · exact h th hth
        · rw [List.mem_singleton.mp hth]
          exact hbefore position (Nat.le_refl _) hlt
      obtain ⟨hready, hout⟩ := dead_round hwaiting
      rw [searchFrom_cons hc]
      dsimp only
      rw [hout, if_neg (by simp)]
      exact ih htext (dead_advance hc hready) hlt fun k hk => hbefore k (by omega)

/-- **A search finds the preferred way from the first position from which a way accepts.** -/
theorem search_of_prefers {i : Nat} (hin : i ≤ t.length)
    (hbefore : ∀ k < i, ¬ p.code.Alive t p.start k)
    (hprefers : p.code.Prefers t n p.start i p.fresh.slots τ) : p.search t = some τ :=
  searchFrom_of_prefers (List.drop_zero ..) (fun _ hth => absurd hth List.not_mem_nil)
    (Nat.zero_le i) hin (fun k _ hk => hbefore k hk) hprefers

/-- A search finds nothing if no way accepts. -/
theorem search_eq_none (h : ∀ i ≤ t.length, ¬ p.code.Alive t p.start i) : p.search t = none := by
  rw [Option.eq_none_iff_forall_ne_some]
  intro τ hτ
  have hnone : ∀ th ∈ ([] : List Thread), p.Stems t 0 th := fun th hth =>
    absurd hth List.not_mem_nil
  have hnotYet : ∀ σ, (none : Option Slots) = some σ → p.Reaches t σ := nofun
  obtain ⟨i, j, k, hi, haccepts⟩ :=
    reaches_of_searchFrom (List.drop_zero ..) (Nat.zero_le _) hnone hnotYet τ hτ
  exact h i hi ⟨k, _, j, τ, haccepts⟩

end Program

end Gherkin.Pattern
