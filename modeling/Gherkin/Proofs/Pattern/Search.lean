import Gherkin.Proofs.Pattern.Layout

/-!
# The search finds a match exactly when there is one

A search is right if every thread stems from the start (`Program.Stems`): what it goes on to accept
is then accepted on a way through the whole program. It misses nothing because of what it has seen
(`Program.Explored`): from a place that was entered, a way that accepts either takes a character, in
a thread that is kept, or has a shorter rest from a place that was entered or is waiting.

* `Program.reaches_of_searchFrom` — what a search finds, some way through the program accepts.
* `Program.isSome_searchFrom` — a search finds something if some way through the program accepts.
-/

namespace Gherkin.Pattern

/-- From the place and the position, some way of so many instructions accepts. -/
def Code.Live (code : Code) (t : Text) (n place position : Nat) : Prop :=
  ∃ σ j τ, code.Accepts t n place position σ j τ

namespace Program

variable {p : Program} {t : Text} {position : Nat}

/-- Some way through the program accepts with these slots. -/
def Reaches (p : Program) (t : Text) (τ : Slots) : Prop :=
  ∃ i j n, i ≤ t.length ∧ p.code.Accepts t n p.start i p.fresh.slots j τ

/-- However the thread goes on to accept, the program does so from its start. -/
def Stems (p : Program) (t : Text) (position : Nat) (th : Thread) : Prop :=
  ∀ ⦃n j τ⦄, p.code.Accepts t n th.place position th.slots j τ → p.Reaches t τ

/-- The thread can take the next character, and some way accepts from there. -/
def GoesOn (p : Program) (t : Text) (position : Nat) (th : Thread) : Prop :=
  ∃ set next c n, p.code[th.place]? = some (.take set next) ∧ t[position]? = some c ∧
    set.contains c = true ∧ p.code.Live t n next (position + 1)

/-! ## Following threads at one position -/

/-- The place was entered, or a thread waits there. -/
def Visited (seen : Array Bool) (threads : List Thread) (place : Nat) : Prop :=
  seen.getD place true = true ∨ ∃ th ∈ threads, th.place = place

/-- A way that accepts from a place that was entered takes a character in a thread that is ready, or
has a shorter rest from a place that was visited. -/
def Explored (p : Program) (t : Text) (position : Nat) (seen : Array Bool)
    (threads ready : List Thread) : Prop :=
  ∀ ⦃place⦄, seen.getD place true = true → ∀ ⦃n⦄, p.code.Live t n place position →
    (∃ th ∈ ready, p.GoesOn t position th) ∨
    ∃ m q, m < n ∧ Visited seen threads q ∧ p.code.Live t m q position

/-- Entering a place makes it one that was entered. -/
theorem seen_enter {seen : Array Bool} {u q : Nat} :
    (seen.setIfInBounds u true).getD q true = true ↔ q = u ∨ seen.getD q true = true := by
  simp only [Array.getD_eq_getD_getElem?, Array.getElem?_setIfInBounds]
  by_cases h : u = q
  · subst h
    simp only [if_true, true_or, iff_true]
    split <;> rfl
  · rw [if_neg h]
    simp only [Ne.symm h, false_or]

/-- Entering a place leaves one less that was not entered. -/
theorem count_enter {seen : Array Bool} {u : Nat} (h : ¬ seen.getD u true = true) :
    (seen.setIfInBounds u true).count false + 1 = seen.count false := by
  rw [Array.getD_eq_getD_getElem?] at h
  by_cases hu : u < seen.size
  · rw [Array.getElem?_eq_getElem hu, Option.getD_some, Bool.not_eq_true] at h
    have hpos : 0 < seen.count false :=
      Array.count_pos_iff.mpr (h ▸ Array.getElem_mem hu)
    rw [Array.setIfInBounds, dif_pos hu, Array.count_set hu, h]
    simp only [beq_self_eq_true, if_true, Bool.true_beq, Bool.false_eq_true, if_false]
    omega
  · rw [Array.getElem?_eq_none (Nat.le_of_not_lt hu)] at h
    exact absurd rfl h

/-- Entering a place pays for the two threads that it may add. -/
theorem fuel_enter {seen : Array Bool} {th : Thread} {threads rest : List Thread} {fuel : Nat}
    (hfuel : (th :: rest).length + 2 * seen.count false < fuel + 1)
    (hseen : ¬ seen.getD th.place true = true) (hadded : threads.length ≤ rest.length + 2) :
    threads.length + 2 * (seen.setIfInBounds th.place true).count false < fuel := by
  have hcount := count_enter hseen
  rw [List.length_cons] at hfuel
  omega

theorem Visited.enter {seen : Array Bool} {threads rest : List Thread} {th : Thread} {q : Nat}
    (h : Visited seen (th :: rest) q) (hsub : rest ⊆ threads) :
    Visited (seen.setIfInBounds th.place true) threads q := by
  rcases h with h | ⟨w, hw, rfl⟩
  · exact Or.inl (seen_enter.mpr (Or.inr h))
  · rcases List.mem_cons.mp hw with rfl | hrest
    · exact Or.inl (seen_enter.mpr (Or.inl rfl))
    · exact Or.inr ⟨w, hsub hrest, rfl⟩

/-- A thread at a place that was entered is dropped. -/
theorem Visited.skip {seen : Array Bool} {rest : List Thread} {th : Thread} {q : Nat}
    (h : Visited seen (th :: rest) q) (hseen : seen.getD th.place true = true) :
    Visited seen rest q := by
  rcases h with h | ⟨w, hw, rfl⟩
  · exact Or.inl h
  · rcases List.mem_cons.mp hw with rfl | hrest
    · exact Or.inl hseen
    · exact Or.inr ⟨w, hrest, rfl⟩

theorem Explored.skip {seen : Array Bool} {rest ready : List Thread} {th : Thread}
    (h : p.Explored t position seen (th :: rest) ready)
    (hseen : seen.getD th.place true = true) : p.Explored t position seen rest ready := by
  intro place hplace n hlive
  refine (h hplace hlive).imp_right ?_
  intro h
  obtain ⟨m, q, hm, hq, hrest⟩ := h
  exact ⟨m, q, hm, hq.skip hseen, hrest⟩

/-- A thread enters its place. It is enough to look at the ways from there. -/
theorem Explored.enter {seen : Array Bool} {threads rest ready ready' : List Thread} {th : Thread}
    (h : p.Explored t position seen (th :: rest) ready) (hthreads : rest ⊆ threads)
    (hready : ready ⊆ ready')
    (hnew : ∀ n, p.code.Live t n th.place position → (∃ r ∈ ready', p.GoesOn t position r) ∨
      ∃ m, m < n ∧ ∃ r ∈ threads, p.code.Live t m r.place position) :
    p.Explored t position (seen.setIfInBounds th.place true) threads ready' := by
  intro place hplace n hlive
  rcases seen_enter.mp hplace with rfl | hseen
  · rcases hnew n hlive with hgo | ⟨m, hm, r, hr, hrest⟩
    · exact Or.inl hgo
    · exact Or.inr ⟨m, r.place, hm, Or.inr ⟨r, hr, rfl⟩, hrest⟩
  · rcases h hseen hlive with ⟨r, hr, hgo⟩ | ⟨m, q, hm, hq, hrest⟩
    · exact Or.inl ⟨r, hready hr, hgo⟩
    · exact Or.inr ⟨m, q, hm, hq.enter hthreads, hrest⟩

/-- When no thread is left, all that was entered has been looked at to the end. -/
theorem Explored.exists_goesOn {seen : Array Bool} {ready : List Thread}
    (h : p.Explored t position seen [] ready) {n q : Nat} (hq : seen.getD q true = true)
    (hlive : p.code.Live t n q position) : ∃ th ∈ ready, p.GoesOn t position th := by
  induction n using Nat.strongRecOn generalizing q with
  | _ n ih =>
    rcases h hq hlive with hgo | ⟨m, q', hm, hq' | ⟨_, hnil, _⟩, hrest⟩
    · exact hgo
    · exact ih m hm hq' hrest
    · exact absurd hnil List.not_mem_nil

/-- **Following threads misses no way to accept.** -/
theorem exists_goesOn_of_follow {fuel : Nat} {seen : Array Bool} {threads ready : List Thread}
    (hfuel : threads.length + 2 * seen.count false < fuel)
    (hexplored : p.Explored t position seen threads ready) {n q : Nat}
    (hq : Visited seen threads q) (hlive : p.code.Live t n q position)
    (hnone : (p.follow (charBefore t position) t[position]? position fuel seen threads ready).2
      = none) :
    ∃ th ∈ (p.follow (charBefore t position) t[position]? position fuel seen threads ready).1,
      p.GoesOn t position th := by
  fun_induction p.follow (charBefore t position) t[position]? position fuel seen threads ready with
  | case1 => omega
  | case2 seen fuel ready =>
    rcases hq with hq | ⟨_, hnil, _⟩
    · obtain ⟨th, hth, hgo⟩ := hexplored.exists_goesOn hq hlive
      exact ⟨th, List.mem_reverse.mpr hth, hgo⟩
    · exact absurd hnil List.not_mem_nil
  | case3 fuel seen th rest ready hseen ih =>
    rw [List.length_cons] at hfuel
    exact ih (by omega) (hexplored.skip hseen) (hq.skip hseen) hnone
  | case4 fuel seen th rest ready hseen _ hnowhere ih =>
    refine ih (fuel_enter hfuel hseen (Nat.le_add_right ..))
      (hexplored.enter (List.Subset.refl _) (List.Subset.refl _) ?_)
      (hq.enter (List.Subset.refl _)) hnone
    intro n h
    obtain ⟨σ, j, τ, h⟩ := h
    exact absurd h (Code.not_accepts_of_none hnowhere)
  | case5 fuel seen th rest ready hseen haccept => exact absurd hnone (Option.some_ne_none _)
  | case6 fuel seen th rest ready hseen _ set next htake ih =>
    refine ih (fuel_enter hfuel hseen (Nat.le_add_right ..))
      (hexplored.enter (List.Subset.refl _) (List.subset_cons_self ..) ?_)
      (hq.enter (List.Subset.refl _)) hnone
    intro n h
    obtain ⟨σ, j, τ, h⟩ := h
    obtain ⟨k, c, rfl, hc, hin, hrest⟩ := (Code.accepts_iff_of_take htake).mp h
    exact Or.inl ⟨th, List.mem_cons_self .., set, next, c, k, htake, hc, hin, σ, j, τ, hrest⟩
  | case7 fuel seen th rest ready hseen _ a b hsplit ih =>
    have hsub : rest ⊆ { th with place := a } :: { th with place := b } :: rest := fun w hw =>
      List.mem_cons_of_mem _ (List.mem_cons_of_mem _ hw)
    refine ih (fuel_enter hfuel hseen (Nat.le_refl _))
      (hexplored.enter hsub (List.Subset.refl _) ?_) (hq.enter hsub) hnone
    intro n h
    obtain ⟨σ, j, τ, h⟩ := h
    obtain ⟨k, rfl, ha | hb⟩ := (Code.accepts_iff_of_split hsplit).mp h
    · exact Or.inr ⟨k, Nat.lt_succ_self k, _, List.mem_cons_self .., σ, j, τ, ha⟩
    · exact Or.inr ⟨k, Nat.lt_succ_self k, { th with place := b },
        List.mem_cons_of_mem _ (List.mem_cons_self ..), σ, j, τ, hb⟩
  | case8 fuel seen th rest ready hseen _ slot next hsave ih =>
    refine ih (fuel_enter hfuel hseen (Nat.le_succ _))
      (hexplored.enter (List.subset_cons_self ..) (List.Subset.refl _) ?_)
      (hq.enter (List.subset_cons_self ..)) hnone
    intro n h
    obtain ⟨σ, j, τ, h⟩ := h
    obtain ⟨k, rfl, hrest⟩ := (Code.accepts_iff_of_save hsave).mp h
    exact Or.inr ⟨k, Nat.lt_succ_self k, _, List.mem_cons_self .., _, j, τ, hrest⟩
  | case9 fuel seen th rest ready hseen _ a next hcheck hholds ih =>
    refine ih (fuel_enter hfuel hseen (Nat.le_succ _))
      (hexplored.enter (List.subset_cons_self ..) (List.Subset.refl _) ?_)
      (hq.enter (List.subset_cons_self ..)) hnone
    intro n h
    obtain ⟨σ, j, τ, h⟩ := h
    obtain ⟨k, rfl, -, hrest⟩ := (Code.accepts_iff_of_check hcheck).mp h
    exact Or.inr ⟨k, Nat.lt_succ_self k, _, List.mem_cons_self .., σ, j, τ, hrest⟩
  | case10 fuel seen th rest ready hseen _ a next hcheck hfails ih =>
    refine ih (fuel_enter hfuel hseen (Nat.le_add_right ..))
      (hexplored.enter (List.Subset.refl _) (List.Subset.refl _) ?_)
      (hq.enter (List.Subset.refl _)) hnone
    intro n h
    obtain ⟨σ, j, τ, h⟩ := h
    obtain ⟨k, rfl, hholds, -⟩ := (Code.accepts_iff_of_check hcheck).mp h
    exact absurd hholds hfails

/-- **Following threads finds nothing that does not stem from the start.** -/
theorem stems_follow {fuel : Nat} {seen : Array Bool} {threads ready : List Thread}
    (hthreads : ∀ th ∈ threads, p.Stems t position th)
    (hready : ∀ th ∈ ready, p.Stems t position th) :
    (∀ th ∈ (p.follow (charBefore t position) t[position]? position fuel seen threads ready).1,
      p.Stems t position th) ∧
    ∀ τ, (p.follow (charBefore t position) t[position]? position fuel seen threads ready).2
      = some τ → p.Reaches t τ := by
  fun_induction p.follow (charBefore t position) t[position]? position fuel seen threads ready with
  | case1 | case2 => exact ⟨fun th hth => hready th (List.mem_reverse.mp hth), nofun⟩
  | case3 fuel seen th rest ready hseen ih =>
    exact ih (fun w hw => hthreads w (List.mem_cons_of_mem _ hw)) hready
  | case4 fuel seen th rest ready hseen _ hnowhere ih =>
    exact ih (fun w hw => hthreads w (List.mem_cons_of_mem _ hw)) hready
  | case5 fuel seen th rest ready hseen haccept =>
    refine ⟨fun w hw => hready w (List.mem_reverse.mp hw), ?_⟩
    rintro _ ⟨⟩
    exact hthreads th (List.mem_cons_self ..) (.accept haccept)
  | case6 fuel seen th rest ready hseen _ set next htake ih =>
    obtain ⟨hth, hrest⟩ := List.forall_mem_cons.mp hthreads
    exact ih hrest (List.forall_mem_cons.mpr ⟨hth, hready⟩)
  | case7 fuel seen th rest ready hseen _ a b hsplit ih =>
    obtain ⟨hth, hrest⟩ := List.forall_mem_cons.mp hthreads
    refine ih (List.forall_mem_cons.mpr ⟨?_, List.forall_mem_cons.mpr ⟨?_, hrest⟩⟩) hready
    · intro n j τ h
      exact hth (.first hsplit h)
    · intro n j τ h
      exact hth (.second hsplit h)
  | case8 fuel seen th rest ready hseen _ slot next hsave ih =>
    obtain ⟨hth, hrest⟩ := List.forall_mem_cons.mp hthreads
    refine ih (List.forall_mem_cons.mpr ⟨?_, hrest⟩) hready
    intro n j τ h
    exact hth (.save hsave h)
  | case9 fuel seen th rest ready hseen _ a next hcheck hholds ih =>
    obtain ⟨hth, hrest⟩ := List.forall_mem_cons.mp hthreads
    refine ih (List.forall_mem_cons.mpr ⟨?_, hrest⟩) hready
    intro n j τ h
    exact hth (.check hcheck hholds h)
  | case10 fuel seen th rest ready hseen _ a next hcheck hfails ih =>
    exact ih (fun w hw => hthreads w (List.mem_cons_of_mem _ hw)) hready

/-! ## One position after another -/

theorem stems_advance {c : Char} {threads : List Thread} (hc : t[position]? = some c)
    (hthreads : ∀ th ∈ threads, p.Stems t position th) :
    ∀ th ∈ p.advance c threads, p.Stems t (position + 1) th := by
  intro th hth
  obtain ⟨w, hw, hmoved⟩ := List.mem_filterMap.mp hth
  split at hmoved
  next set next htake =>
    split at hmoved
    next hin =>
      obtain rfl := Option.some.inj hmoved
      intro n j τ h
      exact hthreads w hw (.take htake hc hin h)
    next => cases hmoved
  next => cases hmoved

theorem live_advance {c : Char} {threads : List Thread} (hc : t[position]? = some c)
    (hgo : ∃ th ∈ threads, p.GoesOn t position th) :
    ∃ th ∈ p.advance c threads, ∃ n, p.code.Live t n th.place (position + 1) := by
  obtain ⟨th, hth, set, next, d, n, htake, hd, hin, hlive⟩ := hgo
  obtain rfl : d = c := Option.some.inj (hd.symm.trans hc)
  refine ⟨{ th with place := next }, List.mem_filterMap.mpr ⟨th, hth, ?_⟩, n, hlive⟩
  simp only [htake, hin, if_true]

/-- The threads under way at a position, with a new one as long as nothing has been found. -/
def waiting (p : Program) (threads : List Thread) (found : Option Slots) : List Thread :=
  if found.isNone then threads ++ [p.fresh] else threads

/-- What following the threads at one position comes to. -/
def round (p : Program) (t : Text) (position : Nat) (threads : List Thread) :
    List Thread × Option Slots :=
  p.follow (charBefore t position) t[position]? position (threads.length + 2 * p.code.size + 1)
    (Array.replicate p.code.size false) threads []

theorem stems_fresh (hpos : position ≤ t.length) : p.Stems t position p.fresh :=
  fun n j _ h => ⟨position, j, n, hpos, h⟩

theorem stems_waiting {threads : List Thread} (hpos : position ≤ t.length)
    (hthreads : ∀ th ∈ threads, p.Stems t position th) (found : Option Slots) :
    ∀ th ∈ p.waiting threads found, p.Stems t position th := by
  intro th hth
  unfold waiting at hth
  split at hth
  · rcases List.mem_append.mp hth with hth | hth
    · exact hthreads th hth
    · rw [List.mem_singleton.mp hth]
      exact stems_fresh hpos
  · exact hthreads th hth

/-- Where some way accepts from one of the threads, the round finds it or a thread goes on. -/
theorem exists_goesOn_of_round {threads : List Thread} {th : Thread} {n : Nat} (hth : th ∈ threads)
    (hlive : p.code.Live t n th.place position) (hnone : (p.round t position threads).2 = none) :
    ∃ th ∈ (p.round t position threads).1, p.GoesOn t position th := by
  refine exists_goesOn_of_follow ?_ ?_ (Or.inr ⟨th, hth, rfl⟩) hlive hnone
  · rw [Array.count_replicate_self]
    exact Nat.lt_succ_self _
  · -- at first no place of the code was entered
    intro place hplace n hlive
    obtain ⟨σ, j, τ, h⟩ := hlive
    rw [Array.getD_eq_getD_getElem?, Array.getElem?_replicate] at hplace
    split at hplace
    · cases hplace
    next hout =>
      exact absurd h (Code.not_accepts_of_none (Array.getElem?_eq_none (Nat.le_of_not_lt hout)))

/-- A round keeps to what stems from the start. -/
theorem stems_round (hpos : position ≤ t.length) {threads : List Thread} {found : Option Slots}
    (hthreads : ∀ th ∈ threads, p.Stems t position th)
    (hfound : ∀ τ, found = some τ → p.Reaches t τ) :
    (∀ th ∈ (p.round t position (p.waiting threads found)).1, p.Stems t position th) ∧
    ∀ τ, ((p.round t position (p.waiting threads found)).2 <|> found) = some τ →
      p.Reaches t τ := by
  have hnone : ∀ th ∈ ([] : List Thread), p.Stems t position th := fun th hth =>
    absurd hth List.not_mem_nil
  obtain ⟨hready, haccepted⟩ := stems_follow (stems_waiting hpos hthreads found) hnone
  refine ⟨hready, ?_⟩
  intro τ hτ
  cases hout : (p.round t position (p.waiting threads found)).2 with
  | some σ =>
    rw [hout] at hτ
    exact haccepted τ (hout.trans hτ)
  | none =>
    rw [hout] at hτ
    exact hfound τ hτ

/-- A round loses no way to accept, also none from the start. -/
theorem isSome_or_exists_goesOn {threads : List Thread} {found : Option Slots}
    (h : found.isSome = true ∨
      ∃ th ∈ threads ++ [p.fresh], ∃ n, p.code.Live t n th.place position) :
    ((p.round t position (p.waiting threads found)).2 <|> found).isSome = true ∨
      ∃ th ∈ (p.round t position (p.waiting threads found)).1, p.GoesOn t position th := by
  cases hout : (p.round t position (p.waiting threads found)).2 with
  | some τ => exact Or.inl rfl
  | none =>
    cases found with
    | some τ => exact Or.inl rfl
    | none =>
      obtain ⟨th, hth, n, hlive⟩ := h.resolve_left Bool.false_ne_true
      exact Or.inr (exists_goesOn_of_round hth hlive hout)

theorem searchFrom_nil (hend : t[position]? = none) (threads : List Thread)
    (found : Option Slots) :
    p.searchFrom position (charBefore t position) threads found []
      = ((p.round t position (p.waiting threads found)).2 <|> found) := by
  rw [searchFrom, round, hend]
  rfl

theorem searchFrom_cons {c : Char} (hc : t[position]? = some c) (threads : List Thread)
    (found : Option Slots) (rest : Text) :
    p.searchFrom position (charBefore t position) threads found (c :: rest)
      = let out := p.round t position (p.waiting threads found)
        let found' := out.2 <|> found
        let threads' := p.advance c out.1
        if found'.isSome && threads'.isEmpty then found'
        else p.searchFrom (position + 1) (charBefore t (position + 1)) threads' found' rest := by
  rw [searchFrom, round, charBefore, hc]
  rfl

/-- The rest of a text from a position, and what it tells about the position. -/
theorem drop_eq_cons {c : Char} {rest : Text} (h : t.drop position = c :: rest) :
    t[position]? = some c ∧ t.drop (position + 1) = rest := by
  constructor
  · have hhead := congrArg (·[0]?) h
    simpa using hhead
  · rw [← List.tail_drop, h, List.tail_cons]

/-- **What a search finds, some way through the program accepts.** -/
theorem reaches_of_searchFrom {rest : Text} (hrest : t.drop position = rest)
    (hpos : position ≤ t.length) {threads : List Thread} {found : Option Slots}
    (hthreads : ∀ th ∈ threads, p.Stems t position th)
    (hfound : ∀ τ, found = some τ → p.Reaches t τ) :
    ∀ τ, p.searchFrom position (charBefore t position) threads found rest = some τ →
      p.Reaches t τ := by
  induction rest generalizing position threads found with
  | nil =>
    have hend : t[position]? = none :=
      List.getElem?_eq_none (List.drop_eq_nil_iff.mp hrest)
    rw [searchFrom_nil hend]
    exact (stems_round hpos hthreads hfound).2
  | cons c rest ih =>
    obtain ⟨hc, hrest⟩ := drop_eq_cons hrest
    have hlt : position < t.length := (List.getElem?_eq_some_iff.mp hc).1
    obtain ⟨hready, hfound'⟩ := stems_round hpos hthreads hfound
    rw [searchFrom_cons hc]
    dsimp only
    split
    · exact hfound'
    · exact ih hrest hlt (stems_advance hc hready) hfound'

/-- What is still to be found is found in the round at the position, or else begins later. -/
theorem now_or_later {threads : List Thread} {found : Option Slots}
    (h : found.isSome = true ∨ (∃ th ∈ threads, ∃ n, p.code.Live t n th.place position) ∨
      ∃ i n, position ≤ i ∧ i ≤ t.length ∧ p.code.Live t n p.start i) :
    (((p.round t position (p.waiting threads found)).2 <|> found).isSome = true ∨
      ∃ th ∈ (p.round t position (p.waiting threads found)).1, p.GoesOn t position th) ∨
    ∃ i n, position + 1 ≤ i ∧ i ≤ t.length ∧ p.code.Live t n p.start i := by
  rcases h with hfound | ⟨th, hth, hlive⟩ | ⟨i, n, hi, hle, hlive⟩
  · exact Or.inl (isSome_or_exists_goesOn (Or.inl hfound))
  · exact Or.inl (isSome_or_exists_goesOn (Or.inr ⟨th, List.mem_append_left _ hth, hlive⟩))
  · rcases Nat.eq_or_lt_of_le hi with rfl | hlt
    · have hfresh : p.fresh ∈ threads ++ [p.fresh] :=
        List.mem_append_right _ (List.mem_singleton.mpr rfl)
      exact Or.inl (isSome_or_exists_goesOn (Or.inr ⟨p.fresh, hfresh, n, hlive⟩))
    · exact Or.inr ⟨i, n, hlt, hle, hlive⟩

/-- **A search finds something if some way through the program accepts**: one of a thread under way,
or one that is yet to begin. -/
theorem isSome_searchFrom {rest : Text} (hrest : t.drop position = rest) {threads : List Thread}
    {found : Option Slots}
    (h : found.isSome = true ∨ (∃ th ∈ threads, ∃ n, p.code.Live t n th.place position) ∨
      ∃ i n, position ≤ i ∧ i ≤ t.length ∧ p.code.Live t n p.start i) :
    (p.searchFrom position (charBefore t position) threads found rest).isSome = true := by
  induction rest generalizing position threads found with
  | nil =>
    have hlen : t.length ≤ position := List.drop_eq_nil_iff.mp hrest
    have hend : t[position]? = none := List.getElem?_eq_none hlen
    rw [searchFrom_nil hend]
    rcases now_or_later h with (hsome | ⟨th, -, hgo⟩) | ⟨i, n, hi, hle, -⟩
    · exact hsome
    · obtain ⟨set, next, c, n, -, hc, -⟩ := hgo
      cases hend.symm.trans hc
    · omega
  | cons c rest ih =>
    obtain ⟨hc, hrest⟩ := drop_eq_cons hrest
    have hlater : ((p.round t position (p.waiting threads found)).2 <|> found).isSome = true ∨
        (∃ th ∈ p.advance c (p.round t position (p.waiting threads found)).1,
          ∃ n, p.code.Live t n th.place (position + 1)) ∨
        ∃ i n, position + 1 ≤ i ∧ i ≤ t.length ∧ p.code.Live t n p.start i := by
      rcases now_or_later h with (hsome | hgo) | hstart
      · exact Or.inl hsome
      · exact Or.inr (Or.inl (live_advance hc hgo))
      · exact Or.inr (Or.inr hstart)
    rw [searchFrom_cons hc]
    dsimp only
    split
    next hdone => exact (Bool.and_eq_true_iff.mp hdone).1
    next => exact ih hrest hlater

end Program

end Gherkin.Pattern
