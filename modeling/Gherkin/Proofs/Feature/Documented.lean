import Gherkin.Proofs.Feature.Standpoint
import Gherkin.Proofs.Feature.StepsRead
import Mathlib.Data.List.Nodup
import Mathlib.Data.List.Perm.Basic

/-!
# Which steps have doc strings

A reading keeps the last step by where it stands, among the items or in the background, and that
changes when a background is moved. The lines of a text know a step by its line alone: a doc string
belongs to the last step that was found, unless a marker, another doc string or a step that was not
found stands between (`Ownership`).

`Reading.Owns` compares the two. It says of every step read that it has as many arguments as its
pattern has captures, and one more if its line owns a doc string. Every line that is read keeps it
(`Owns.reads`), and so does the end of the text (`Owns.close`).
-/

namespace Gherkin

/-- Which lines doc strings belong to, by the lines so far. -/
structure Ownership where
  /-- The line of the step that a doc string would belong to. -/
  last : Option Nat := none
  /-- The lines of the steps that have a doc string. -/
  owners : List Nat := []
  deriving DecidableEq, Repr

/-- One more line. What ends a doc string comes when the step has it already. -/
def Ownership.add {W : Type} (reg : Registry W) (o : Ownership) (e : Entry) : Ownership :=
  match e.role with
  | .delimiter => { last := none, owners := o.owners ++ o.last.toList }
  | .step _ text => { o with last := if (reg.find text).isOk then some e.line else none }
  | .background _ | .scenario _ => { o with last := none }
  | .blank | .comment | .verbatim | .feature _ | .narrative _ | .stray => o

/-- Which lines the doc strings of the lines belong to. -/
def Ownership.ofLines {W : Type} (reg : Registry W) (ls : List TextLine) : Ownership :=
  ls.foldl (fun o l => o.add reg l.toEntry) {}

/-- Whether a step has a doc string, by the lines after it: one begins before the next step, the
next marker and the end of the text. -/
def TextLine.hasDocString : List TextLine → Bool
  | [] => false
  | l :: rest =>
    match l.role with
    | .delimiter => true
    | .step _ _ | .background _ | .scenario _ => false
    | .blank | .comment | .verbatim | .feature _ | .narrative _ | .stray => hasDocString rest

namespace Ownership

variable {W : Type} {reg : Registry W}

/-- More lines give a doc string to no line before them but the last step. -/
theorem count_foldl_add (reg : Registry W) {n : Nat} {rest : List TextLine}
    (hrest : ∀ l ∈ rest, l.line ≠ n) (o : Ownership) :
    (rest.foldl (fun o l => o.add reg l.toEntry) o).owners.count n
      = o.owners.count n
        + if o.last = some n ∧ TextLine.hasDocString rest = true then 1 else 0 := by
  induction rest generalizing o with
  | nil => simp [TextLine.hasDocString]
  | cons l rest ih =>
    obtain ⟨hl, hrest⟩ := List.forall_mem_cons.mp hrest
    rw [List.foldl_cons, ih hrest, TextLine.hasDocString]
    unfold add
    cases hrole : l.role with
    | delimiter =>
      cases o.last with
      | none => simp
      | some k => simp [List.count_singleton]
    | step keyword text =>
      have hlast : ¬ (if (reg.find text).isOk then some l.line else none) = some n := by
        split <;> simp [hl]
      simp [hlast]
    | background name => simp
    | scenario name => simp
    | _ => simp

/-- **A step that is found owns a doc string if the lines after it say so.** -/
theorem count_ofLines {before rest : List TextLine} {l : TextLine} {keyword : Option Keyword}
    {text : Text} (hrole : l.role = .step keyword text) (hfind : (reg.find text).isOk = true)
    (hbefore : ∀ l' ∈ before, l'.line ≠ l.line) (hrest : ∀ l' ∈ rest, l'.line ≠ l.line) :
    (ofLines reg (before ++ l :: rest)).owners.count l.line
      = if TextLine.hasDocString rest = true then 1 else 0 := by
  have hcount := count_foldl_add reg hbefore {}
  unfold ofLines
  rw [List.foldl_append, List.foldl_cons, count_foldl_add reg hrest]
  generalize before.foldl _ _ = o at hcount ⊢
  unfold add
  simp [hrole, hfind, hcount]

end Ownership

namespace Reading

variable {W : Type} {reg : Registry W} {r r' : Reading} {line : Nat} {raw text : Text}
  {kind : LineKind} {remark : Option Remark}

/-- The line of the step at the place. -/
def lineAt (r : Reading) : StepPlace → Option Nat
  | .item i => (r.items[i]?.bind Item.step?).map Step.line
  | .background i => (r.background.bind (·.steps[i]?)).map Step.line

/-- The place that the doc string being read goes to. -/
def target (r : Reading) : Option StepPlace := r.docString.bind (·.target)

/-- How many arguments a step is still to get. -/
def pending (r : Reading) (n : Nat) : Nat := if r.target.bind r.lineAt = some n then 1 else 0

/-- The steps read are those that the lines before `n` have, with the doc strings that they own. -/
structure Owns (o : Ownership) (n : Nat) (r : Reading) : Prop where
  arguments : ∀ s ∈ r.stepsRead,
    s.arguments.length + r.pending s.line = s.found.captures.length + o.owners.count s.line
  last : r.docString = none → r.lastStep.map r.lineAt = o.last.map some
  /-- A doc string that is being read is counted for its step already. -/
  reading : r.docString ≠ none → o.last = none
  placed : ∀ p, r.target = some p → (r.lineAt p).isSome = true
  /-- While a background is being read, the last step is one of it. -/
  opened : ∀ start, r.openBackground = some start →
    r.background = none ∧ (∃ m, r.items[start]? = some (.marker m)) ∧
      ∀ p, r.lastStep = some p → ∃ i, p = .item i ∧ start < i
  distinct : (r.stepsRead.map Step.line).Nodup
  before : ∀ k ∈ r.stepsRead.map Step.line ++ o.owners ++ o.last.toList, k < n

/-! ### What operations do to steps and places -/

/-- A list is split at an element, and a change of the element changes nothing else. -/
theorem exists_split_of_getElem? {α : Type} {l : List α} {i : Nat} {a : α} (h : l[i]? = some a) :
    ∃ before after, before.length = i ∧ l = before ++ a :: after ∧
      ∀ f, l.modify i f = before ++ f a :: after := by
  obtain ⟨hi, ha⟩ := List.getElem?_eq_some_iff.mp h
  have hdrop : l.drop i = a :: l.drop (i + 1) := ha ▸ List.drop_eq_getElem_cons hi
  refine ⟨l.take i, l.drop (i + 1), List.length_take_of_le (Nat.le_of_lt hi), ?_, fun f => ?_⟩
  · rw [← hdrop, List.take_append_drop]
  · rw [List.modify_eq_take_drop, hdrop]
    rfl

/-- A doc string goes to the step of its line. -/
theorem exists_stepsRead_attach {p : StepPlace} {k : Nat} (hline : r.lineAt p = some k)
    (doc : Text) :
    ∃ before s after, r.stepsRead = before ++ s :: after ∧ s.line = k ∧
      (r.attach (some p) doc).stepsRead = before ++ s.withDocString doc :: after := by
  cases p with
  | item i =>
    obtain ⟨s, hs, rfl⟩ := Option.map_eq_some_iff.mp hline
    obtain ⟨item, hitem, hstep⟩ := Option.bind_eq_some_iff.mp hs
    cases item with
    | marker m => exact absurd hstep (by simp [Item.step?])
    | step s' =>
      obtain rfl : s' = s := Option.some.inj hstep
      obtain ⟨before, after, -, hsplit, hmodify⟩ := exists_split_of_getElem? hitem
      refine ⟨r.background.elim [] (·.steps) ++ before.filterMap Item.step?, s',
        after.filterMap Item.step?, ?_, rfl, ?_⟩
      · unfold stepsRead
        rw [hsplit, List.filterMap_append, List.append_assoc]
        rfl
      · unfold attach stepsRead
        dsimp only
        rw [hmodify, List.filterMap_append, List.append_assoc]
        rfl
  | background i =>
    obtain ⟨s, hs, rfl⟩ := Option.map_eq_some_iff.mp hline
    obtain ⟨b, hb, hstep⟩ := Option.bind_eq_some_iff.mp hs
    obtain ⟨before, after, -, hsplit, hmodify⟩ := exists_split_of_getElem? hstep
    refine ⟨before, s, after ++ r.items.filterMap Item.step?, ?_, rfl, ?_⟩
    · unfold stepsRead
      rw [hb, Option.elim_some, hsplit, List.append_assoc]
      rfl
    · unfold attach stepsRead
      dsimp only
      rw [hb, Option.map_some, Option.elim_some]
      dsimp only
      rw [hmodify, List.append_assoc]
      rfl

/-- **A doc string changes the step of its line**, which is known by the line alone. -/
theorem mem_stepsRead_attach (hdistinct : (r.stepsRead.map Step.line).Nodup) {p : StepPlace}
    {k : Nat} (hline : r.lineAt p = some k) {doc : Text} {s' : Step}
    (hs' : s' ∈ (r.attach (some p) doc).stepsRead) :
    (∃ s ∈ r.stepsRead, s.line = k ∧ s' = s.withDocString doc) ∨
      (s' ∈ r.stepsRead ∧ s'.line ≠ k) := by
  obtain ⟨before, s, after, hsplit, rfl, hattached⟩ := exists_stepsRead_attach hline doc
  rw [hattached] at hs'
  rw [hsplit, List.map_append, List.map_cons, List.nodup_middle, List.nodup_cons,
    ← List.map_append] at hdistinct
  have hmem : ∀ t, t ∈ r.stepsRead ↔ t ∈ s :: (before ++ after) := fun t =>
    hsplit ▸ List.perm_middle.mem_iff
  rcases List.mem_cons.mp (List.perm_middle.mem_iff.mp hs') with rfl | hother
  · exact Or.inl ⟨s, (hmem s).mpr (List.mem_cons_self ..), rfl, rfl⟩
  · refine Or.inr ⟨(hmem s').mpr (List.mem_cons_of_mem _ hother), fun heq => hdistinct.1 ?_⟩
    exact heq ▸ List.mem_map_of_mem hother

theorem map_line_attach {p : StepPlace} {k : Nat} (hline : r.lineAt p = some k) (doc : Text) :
    (r.attach (some p) doc).stepsRead.map Step.line = r.stepsRead.map Step.line := by
  obtain ⟨before, s, after, hsplit, -, hattached⟩ := exists_stepsRead_attach hline doc
  rw [hattached, hsplit, List.map_append, List.map_append]
  rfl

/-- A marker is no step. -/
theorem stepsRead_mark (kind : Section) (name : Text) (line : Nat) :
    (r.mark kind name line).stepsRead = r.stepsRead := by
  unfold stepsRead mark
  dsimp only
  rw [List.filterMap_append]
  exact congrArg _ (List.append_nil _)

/-- A step that becomes an item is the last of the steps. -/
theorem stepsRead_push {s : Step} (hbackground : r'.background = r.background)
    (hitems : r'.items = r.items ++ [.step s]) : r'.stepsRead = r.stepsRead ++ [s] := by
  unfold stepsRead
  rw [hbackground, hitems, List.filterMap_append, ← List.append_assoc]
  rfl

/-- A background that has ended has the steps after its marker. -/
theorem stepsRead_endBackground {start : Nat} {m : Marker} {outer : List Mode}
    (houter : aroundBackground? r.modes = some outer) (hopen : r.openBackground = some start)
    (hbackground : r.background = none) (hmarker : r.items[start]? = some (.marker m)) :
    r.endBackground.stepsRead.Perm r.stepsRead := by
  obtain ⟨before, after, hlength, hsplit, -⟩ := exists_split_of_getElem? hmarker
  have hdrop : r.items.drop start = .marker m :: after := by rw [hsplit, ← hlength, List.drop_left]
  have htake : r.items.take start = before := by rw [hsplit, ← hlength, List.take_left]
  rw [endBackground_of_some houter hopen]
  unfold stepsRead
  dsimp only
  rw [hdrop, htake, hbackground, hsplit, List.filterMap_append]
  exact List.perm_append_comm

/-- The last step keeps its line when its background ends. -/
theorem lineAt_endBackground {start i k : Nat} {m : Marker} {outer : List Mode}
    (houter : aroundBackground? r.modes = some outer) (hopen : r.openBackground = some start)
    (hmarker : r.items[start]? = some (.marker m)) (hlast : r.lastStep = some (.item i))
    (hafter : start < i) (hline : r.lineAt (.item i) = some k) :
    r.endBackground.lastStep.map r.endBackground.lineAt = some (some k) := by
  obtain ⟨s, hs, rfl⟩ := Option.map_eq_some_iff.mp hline
  obtain ⟨item, hitem, hstep⟩ := Option.bind_eq_some_iff.mp hs
  cases item with
  | marker m => exact absurd hstep (by simp [Item.step?])
  | step s' =>
    obtain rfl : s' = s := Option.some.inj hstep
    obtain ⟨before, after, hlength, hsplit, -⟩ := exists_split_of_getElem? hmarker
    have hdrop : r.items.drop start = .marker m :: after := by
      rw [hsplit, ← hlength, List.drop_left]
    -- the step is one of those after the marker
    obtain ⟨j, rfl⟩ : ∃ j, i = start + (j + 1) := ⟨i - start - 1, by omega⟩
    have hj : after[j]? = some (.step s') := by
      rw [← List.getElem?_cons_succ (a := .marker m), ← hdrop, List.getElem?_drop]
      exact hitem
    obtain ⟨inside, rest, hinside, hafterSplit, -⟩ := exists_split_of_getElem? hj
    have hmoved : movedStep r.items start r.lastStep
        = some (.background (inside.filterMap Item.step?).length) := by
      rw [hlast, movedStep, if_pos hafter, List.drop_take, Nat.add_sub_cancel_left, hdrop,
        List.take_succ_cons, hafterSplit, ← hinside, List.take_left]
      rfl
    rw [endBackground_of_some houter hopen, hdrop]
    show (movedStep r.items start r.lastStep).map _ = _
    rw [hmoved, Option.map_some]
    unfold lineAt
    show some ((((after.filterMap Item.step?)[_]?)).map Step.line) = _
    rw [hafterSplit, List.filterMap_append, List.getElem?_append_right (Nat.le_refl _),
      Nat.sub_self]
    rfl

namespace Owns

variable {o : Ownership} {n : Nat}

/-- Before the first line. -/
theorem initial : Owns {} 1 {} where
  arguments := by simp [stepsRead]
  last _ := rfl
  reading h := absurd rfl h
  placed := by simp [target]
  opened := by simp
  distinct := by simp [stepsRead]
  before := by simp [stepsRead]

/-- Only the steps and where they stand matter. -/
theorem congr (h : Owns o n r) (hbackground : r'.background = r.background)
    (hopen : r'.openBackground = r.openBackground) (hitems : r'.items = r.items)
    (htarget : r'.target = r.target) (hdoc : r'.docString = none ↔ r.docString = none)
    (hlast : r'.lastStep = r.lastStep) : Owns o n r' := by
  have hlineAt : r'.lineAt = r.lineAt := by
    funext p
    unfold lineAt
    rw [hitems, hbackground]
  have hsteps : r'.stepsRead = r.stepsRead := by
    unfold stepsRead
    rw [hitems, hbackground]
  have hpending (k : Nat) : r'.pending k = r.pending k := by
    unfold pending
    rw [htarget, hlineAt]
  refine ⟨?_, ?_, ?_, ?_, ?_, ?_, ?_⟩
  · simpa only [hsteps, hpending] using h.arguments
  · rw [hdoc, hlast, hlineAt]
    exact h.last
  · rw [ne_eq, hdoc]
    exact h.reading
  · rw [htarget, hlineAt]
    exact h.placed
  · rw [hopen, hbackground, hitems, hlast]
    exact h.opened
  · rw [hsteps]
    exact h.distinct
  · rw [hsteps]
    exact h.before

/-- Later lines have greater numbers. -/
theorem mono (h : Owns o n r) {n' : Nat} (hle : n ≤ n') : Owns o n' r :=
  { h with before := fun k hk => Nat.lt_of_lt_of_le (h.before k hk) hle }

/-- Where no doc string is being read, no step is to get one. -/
theorem pending_eq_zero (hdoc : r.docString = none) (k : Nat) : r.pending k = 0 := by
  unfold pending target
  rw [hdoc]
  rfl

/-- The last step has the line that the lines so far know it by. -/
theorem exists_last (h : Owns o n r) (hdoc : r.docString = none) {p : StepPlace}
    (hlast : r.lastStep = some p) : ∃ k, r.lineAt p = some k ∧ o.last = some k := by
  have hline := h.last hdoc
  rw [hlast, Option.map_some] at hline
  obtain ⟨k, hk, hp⟩ := Option.map_eq_some_iff.mp hline.symm
  exact ⟨k, hp.symm, hk⟩

/-- The line of the last step. -/
theorem line_last (h : Owns o n r) (hdoc : r.docString = none) :
    r.lastStep.bind r.lineAt = o.last := by
  have hlast := h.last hdoc
  cases hplace : r.lastStep with
  | none =>
    rw [hplace] at hlast
    exact (Option.map_eq_none_iff.mp hlast.symm).symm
  | some p =>
    obtain ⟨k, hk, hok⟩ := h.exists_last hdoc hplace
    rw [Option.bind_some, hk, hok]

/-- A background that ends keeps its steps. -/
theorem perm_endBackground (h : Owns o n r)
    (hopened : r.openBackground.isSome = (aroundBackground? r.modes).isSome) :
    r.endBackground.stepsRead.Perm r.stepsRead := by
  cases hopen : r.openBackground with
  | none => rw [endBackground_of_none hopen]
  | some start =>
    obtain ⟨outer, houter⟩ := exists_outer_of_open hopened hopen
    obtain ⟨hbackground, ⟨m, hm⟩, -⟩ := h.opened start hopen
    exact stepsRead_endBackground houter hopen hbackground hm

/-- A doc string goes into no marker, and makes no background. -/
theorem opened_attach (target : Option StepPlace) (doc : Text) {start : Nat} {m : Marker}
    (hbackground : r.background = none) (hmarker : r.items[start]? = some (.marker m)) :
    (r.attach target doc).background = none ∧
      (r.attach target doc).items[start]? = some (.marker m) := by
  match target with
  | none => exact ⟨hbackground, hmarker⟩
  | some (.background i) =>
    refine ⟨?_, hmarker⟩
    unfold attach
    dsimp only
    rw [hbackground]
    rfl
  | some (.item i) =>
    refine ⟨hbackground, ?_⟩
    unfold attach
    dsimp only
    rw [List.getElem?_modify, hmarker]
    split <;> rfl

/-- When a doc string ends, its step gets the argument that was pending. -/
theorem arguments_endDocString (h : Owns o n r) {block : DocString StepPlace}
    (hblock : r.docString = some block) :
    (∀ s ∈ r.endDocString.stepsRead,
        s.arguments.length = s.found.captures.length + o.owners.count s.line) ∧
      r.endDocString.stepsRead.map Step.line = r.stepsRead.map Step.line := by
  have htarget : r.target = block.target := by
    unfold target
    rw [hblock]
    rfl
  rw [endDocString_of_some hblock]
  cases hp : block.target with
  | none =>
    refine ⟨fun s hs => ?_, rfl⟩
    have hpending : r.pending s.line = 0 := by
      unfold pending
      rw [htarget, hp]
      rfl
    have hs' := h.arguments s hs
    rwa [hpending, Nat.add_zero] at hs'
  | some p =>
    obtain ⟨k, hk⟩ := Option.isSome_iff_exists.mp (h.placed p (htarget.trans hp))
    have hpending (s : Step) : r.pending s.line = if k = s.line then 1 else 0 := by
      unfold pending
      rw [htarget, hp, Option.bind_some, hk]
      simp
    -- the step of the doc string gets one argument more, the others have other lines
    refine ⟨fun s' hs' => ?_, map_line_attach
      (r := { r with modes := r.modesAfterDocString, docString := none }) hk block.text⟩
    rcases mem_stepsRead_attach
      (r := { r with modes := r.modesAfterDocString, docString := none }) h.distinct hk hs'
      with ⟨s, hs, rfl, rfl⟩ | ⟨hs, hne⟩
    · have harguments := h.arguments s hs
      rw [hpending, if_pos rfl] at harguments
      rw [Step.withDocString, List.length_append]
      exact harguments
    · have harguments := h.arguments s' hs
      rw [hpending, if_neg (Ne.symm hne), Nat.add_zero] at harguments
      exact harguments

/-- A doc string that ends has been counted for its step already. -/
theorem endDocString (h : Owns o n r) (hdoc : r.docString ≠ none) : Owns o n r.endDocString := by
  obtain ⟨block, hblock⟩ := Option.ne_none_iff_exists'.mp hdoc
  obtain ⟨harguments, hlines⟩ := h.arguments_endDocString hblock
  have hended : r.endDocString.docString = none ∧ r.endDocString.lastStep = none := by
    rw [endDocString_of_some hblock]
    obtain ⟨background, items, hattach⟩ := attach_eq_with
      { r with modes := r.modesAfterDocString, docString := none } block.target block.text
    rw [hattach]
    exact ⟨rfl, rfl⟩
  refine ⟨?_, ?_, ?_, ?_, ?_, ?_, ?_⟩
  · intro s hs
    rw [pending_eq_zero hended.1]
    exact harguments s hs
  · intro _
    rw [hended.2, h.reading hdoc]
    rfl
  · exact fun hne => absurd hended.1 hne
  · simp [target, hended.1]
  · intro start hstart
    rw [openBackground_endDocString] at hstart
    obtain ⟨hbackground, ⟨m, hm⟩, -⟩ := h.opened start hstart
    have hopened := opened_attach
      (r := { r with modes := r.modesAfterDocString, docString := none }) block.target block.text
      hbackground hm
    refine ⟨?_, ⟨m, ?_⟩, by simp [hended.2]⟩
    · rw [endDocString_of_some hblock]
      exact hopened.1
    · rw [endDocString_of_some hblock]
      exact hopened.2
  · rw [hlines]
    exact h.distinct
  · rw [hlines]
    exact h.before

/-- A background that ends keeps its steps, and the last of them its line. -/
theorem endBackground (h : Owns o n r) (hdoc : r.docString = none)
    (hopened : r.openBackground.isSome = (aroundBackground? r.modes).isSome) :
    Owns o n r.endBackground := by
  cases hopen : r.openBackground with
  | none =>
    rw [endBackground_of_none hopen]
    exact h
  | some start =>
    obtain ⟨outer, houter⟩ := exists_outer_of_open hopened hopen
    obtain ⟨hbackground, ⟨m, hm⟩, hlast⟩ := h.opened start hopen
    have hperm := h.perm_endBackground hopened
    have hdoc' : r.endBackground.docString = none := by
      rw [endBackground_of_some houter hopen]
      exact hdoc
    refine ⟨?_, ?_, ?_, ?_, ?_, ?_, ?_⟩
    · intro s hs
      have hs := h.arguments s (hperm.mem_iff.mp hs)
      rw [pending_eq_zero hdoc] at hs
      rw [pending_eq_zero hdoc']
      exact hs
    · intro _
      cases hplace : r.lastStep with
      | none =>
        have hnone := h.last hdoc
        rw [hplace] at hnone
        rw [← hnone, endBackground_of_some houter hopen, hplace]
        rfl
      | some p =>
        obtain ⟨i, rfl, hafter⟩ := hlast p hplace
        obtain ⟨k, hk, hok⟩ := h.exists_last hdoc hplace
        rw [lineAt_endBackground houter hopen hm hplace hafter hk, hok]
        rfl
    · exact fun hne => absurd hdoc' hne
    · simp [target, hdoc']
    · rw [endBackground_of_some houter hopen]
      simp
    · exact (hperm.map _).nodup_iff.mpr h.distinct
    · intro k hk
      refine h.before k ?_
      rw [List.append_assoc] at hk ⊢
      exact ((hperm.map Step.line).append_right _).mem_iff.mp hk

/-- A marker parts what comes after it from the steps before it. A background begins with one. -/
theorem mark (h : Owns o n r) (hdoc : r.docString = none) (kind : Section) (name : Text)
    (line : Nat) {modes : List Mode} {openBackground : Option Nat}
    (hopen : openBackground = r.openBackground ∨
      openBackground = some r.items.length ∧ r.background = none) :
    Owns { o with last := none } n
      ({ r with modes, openBackground }.mark kind name line) := by
  have hsteps : ({ r with modes, openBackground }.mark kind name line).stepsRead = r.stepsRead :=
    stepsRead_mark kind name line
  have hmarked (start : Nat) (m : Marker) (hm : r.items[start]? = some (.marker m)) :
      (r.items ++ [.marker { kind, name, line }])[start]? = some (.marker m) := by
    rw [List.getElem?_append_left (List.getElem?_eq_some_iff.mp hm).1]
    exact hm
  refine ⟨?_, fun _ => rfl, fun _ => rfl, ?_, ?_, ?_, ?_⟩
  · intro s hs
    have hs := h.arguments s (hsteps ▸ hs)
    rw [pending_eq_zero hdoc] at hs
    rw [pending_eq_zero (by exact hdoc)]
    exact hs
  · intro p hp
    unfold target at hp
    rw [Reading.mark, hdoc] at hp
    exact absurd hp (by simp)
  · intro start hstart
    rcases hopen with hopen | ⟨hopen, hbackground⟩
    · obtain ⟨hbackground, ⟨m, hm⟩, -⟩ := h.opened start (hopen ▸ hstart)
      exact ⟨hbackground, ⟨m, hmarked start m hm⟩, fun p hp => absurd hp (by simp [Reading.mark])⟩
    · obtain rfl : r.items.length = start := Option.some.inj (hopen.symm.trans hstart)
      refine ⟨hbackground, ⟨{ kind, name, line }, ?_⟩,
        fun p hp => absurd hp (by simp [Reading.mark])⟩
      show (r.items ++ [_])[r.items.length]? = _
      rw [List.getElem?_append_right (Nat.le_refl _), Nat.sub_self]
      rfl
  · rw [hsteps]
    exact h.distinct
  · rw [hsteps]
    exact fun k hk => h.before k (List.mem_append_left _ (by simpa using hk))

/-- After a step that is not found nothing has a doc string. -/
theorem forget (h : Owns o n r) {modes : List Mode}
    {missing : List MissingStep} {ambiguous : List (Nat × Ambiguity)} :
    Owns { o with last := none } n { r with modes, missing, ambiguous, lastStep := none } where
  arguments := h.arguments
  last _ := rfl
  reading _ := rfl
  placed := h.placed
  opened start hstart :=
    ⟨(h.opened start hstart).1, (h.opened start hstart).2.1, fun p hp => absurd hp (by simp)⟩
  distinct := h.distinct
  before k hk := by
    rw [Option.toList_none, List.append_nil] at hk
    exact h.before k (List.mem_append_left _ hk)

/-- A step that is found has its captures, and is the last one. -/
theorem push (h : Owns o line r) (hdoc : r.docString = none) {modes : List Mode} {s : Step}
    (hline : s.line = line) (harguments : s.arguments = s.found.captures) :
    Owns { o with last := some line } (line + 1)
      { r with modes, lastStep := some (.item r.items.length), items := r.items ++ [.step s] } := by
  generalize hq : ({ r with
    modes, lastStep := some (.item r.items.length), items := r.items ++ [.step s] } : Reading) = q
  have hsteps : q.stepsRead = r.stepsRead ++ [s] := stepsRead_push (by rw [← hq]) (by rw [← hq])
  have hdoc' : q.docString = none := by rw [← hq]; exact hdoc
  -- no line so far is as late as that of the step
  have hnew : line ∉ r.stepsRead.map Step.line ∧ line ∉ o.owners := by
    constructor
    · exact fun hmem => Nat.lt_irrefl line (h.before line (by simp [hmem]))
    · exact fun hmem => Nat.lt_irrefl line (h.before line (by simp [hmem]))
  refine ⟨?_, ?_, ?_, ?_, ?_, ?_, ?_⟩
  · intro s' hs'
    rw [hsteps] at hs'
    rw [pending_eq_zero hdoc']
    rcases List.mem_append.mp hs' with hold | hfresh
    · have hs := h.arguments s' hold
      rwa [pending_eq_zero hdoc] at hs
    · obtain rfl := List.mem_singleton.mp hfresh
      rw [harguments, hline, List.count_eq_zero_of_not_mem hnew.2]
  · intro _
    rw [← hq]
    unfold lineAt
    simp [Item.step?, hline]
  · exact fun hne => absurd hdoc' hne
  · simp [target, hdoc']
  · rw [← hq]
    intro start hstart
    obtain ⟨hbackground, ⟨m, hm⟩, -⟩ := h.opened start hstart
    have hstart : start < r.items.length := (List.getElem?_eq_some_iff.mp hm).1
    refine ⟨hbackground, ⟨m, ?_⟩, ?_⟩
    · show (r.items ++ [_])[start]? = _
      rw [List.getElem?_append_left hstart]
      exact hm
    · rintro p hp
      exact ⟨_, (Option.some.inj hp).symm, hstart⟩
  · rw [hsteps, List.map_append, List.map_singleton, hline, ← List.concat_eq_append]
    exact h.distinct.concat hnew.1
  · intro k hk
    rw [hsteps, List.map_append, List.map_singleton, hline] at hk
    have hk : k = line ∨ k ∈ r.stepsRead.map Step.line ++ o.owners ++ o.last.toList := by
      simp only [List.mem_append, List.mem_singleton, Option.toList_some] at hk ⊢
      tauto
    rcases hk with rfl | hk
    · exact Nat.lt_succ_self k
    · exact Nat.lt_succ_of_lt (h.before k hk)

/-- What a step is counted as, found or not. -/
theorem step (h : Owns o line r) (hdoc : r.docString = none) (keyword : Keyword)
    (conjunction : Bool) :
    Owns (o.add reg { line, role := .step (if conjunction then none else some keyword) text })
      (line + 1) (r.step reg line keyword conjunction text).1 := by
  unfold Ownership.add
  dsimp only
  cases hfind : reg.find text with
  | error e =>
    rw [if_neg (by simp [Except.isOk, Except.toBool])]
    cases e with
    | notFound =>
      rw [step_of_notFound hfind]
      exact h.forget.mono (Nat.le_succ line)
    | ambiguous e =>
      rw [step_of_ambiguous hfind]
      exact h.forget.mono (Nat.le_succ line)
  | ok found =>
    rw [if_pos (by simp [Except.isOk, Except.toBool]), step_of_ok hfind]
    exact h.push hdoc rfl rfl

/-- A doc string that begins is counted for the last step. -/
theorem begin (h : Owns o n r) (hdoc : r.docString = none) {modes : List Mode} {column : Nat} :
    Owns { last := none, owners := o.owners ++ o.last.toList } n
      { r with modes, docString := some { column, target := r.lastStep } } := by
  have hline : r.lastStep.bind r.lineAt = o.last := h.line_last hdoc
  refine ⟨?_, fun hnone => absurd hnone (by simp), fun _ => rfl, ?_, h.opened, h.distinct, ?_⟩
  · intro s hs
    have hs := h.arguments s hs
    rw [pending_eq_zero hdoc, Nat.add_zero] at hs
    unfold pending
    show _ + (if r.lastStep.bind r.lineAt = some s.line then 1 else 0) = _
    rw [hline, hs, List.count_append]
    cases o.last with
    | none => simp
    | some k => simp [List.count_singleton, Nat.add_assoc]
  · intro p hp
    obtain ⟨k, hk, -⟩ := h.exists_last hdoc hp
    exact Option.isSome_iff_exists.mpr ⟨k, hk⟩
  · intro k hk
    rw [Option.toList_none, List.append_nil, ← List.append_assoc] at hk
    exact h.before k hk

theorem leaveNarrative (h : Owns o n r) : Owns o n r.leaveNarrative := by
  unfold Reading.leaveNarrative
  split
  next => exact h.congr rfl rfl rfl rfl Iff.rfl rfl
  next => exact h

/-- A line that is neither a step nor a marker, nor begins a doc string. -/
theorem skip (h : Owns o n r) (hbackground : r'.background = r.background)
    (hopen : r'.openBackground = r.openBackground) (hitems : r'.items = r.items)
    (hdoc : r'.docString = r.docString) (hlast : r'.lastStep = r.lastStep) :
    Owns o (n + 1) r' :=
  (h.congr hbackground hopen hitems (congrArg (·.bind (·.target)) hdoc) (by rw [hdoc]) hlast).mono
    (Nat.le_succ n)

/-- **A line outside is counted by its role.** -/
theorem readsOutside {s : Site} (h : Owns o line r) (hat : r.At s) (hs : s.place = .outside)
    (hread : ReadsOutside reg line raw text r kind r' remark) :
    Owns (o.add reg { line, role := r.mode.roleOf kind }) (line + 1) r' := by
  have hdoc : r.docString = none := hat.docString_eq_none (hat.mode_ne_docString hs)
  have hended := h.endBackground hdoc hat.opened
  cases hread with
  | blank =>
    rw [Mode.roleOf_of_passes rfl]
    exact hended.mono (Nat.le_succ line)
  | comment =>
    rw [Mode.roleOf_of_passes rfl]
    exact h.mono (Nat.le_succ line)
  | beginDocString hmode =>
    rw [Mode.roleOf_of_ne hmode]
    exact (h.begin hdoc).mono (Nat.le_succ line)
  | feature hname =>
    rw [Mode.roleOf_of_passes rfl]
    exact h.skip rfl rfl rfl rfl rfl
  | background hclosed hopen =>
    rw [Mode.roleOf_of_passes rfl]
    exact (h.mark hdoc _ _ _ (Or.inr ⟨rfl, hclosed⟩)).mono (Nat.le_succ line)
  | scenario =>
    have hdoc' := (hat.endBackground hs).docString_eq_none
      ((hat.endBackground hs).mode_ne_docString rfl)
    rw [Mode.roleOf_of_passes rfl]
    exact (hended.mark hdoc' _ _ _ (Or.inl rfl)).mono (Nat.le_succ line)
  | step hmode =>
    rw [Mode.roleOf_of_ne hmode]
    exact h.step hdoc _ false
  | conjunction hkeyword =>
    rw [Mode.roleOf_of_ne (ne_examples_of_keyword? hkeyword)]
    exact h.step hdoc _ true
  | examples hmode =>
    rw [Mode.roleOf_of_ne hmode]
    exact h.skip rfl rfl rfl rfl rfl
  | refused hmode hkind =>
    rw [hmode, Mode.roleOf_examples hkind]
    exact h.skip rfl rfl rfl rfl rfl

/-- **Every line that is read is counted by its role.** -/
theorem reads {s : Site} (h : Owns o line r) (hat : r.At s)
    (hread : Reads reg line raw r r' remark) :
    Owns (o.add reg { line, role := r.role raw }) (line + 1) r' := by
  cases hread with
  | endDocString hmode hkind =>
    have hdoc : r.docString ≠ none := by
      have hreading := hat.reading
      rw [decide_eq_true hmode] at hreading
      exact Option.isSome_iff_ne_none.mp hreading
    -- the doc string was counted when it began
    have hsame : o.add reg { line, role := .delimiter } = o := by
      obtain ⟨last, owners⟩ := o
      obtain rfl : last = none := h.reading hdoc
      show ({ last := none, owners := owners ++ [] } : Ownership) = _
      rw [List.append_nil]
    rw [role_of_docString hmode, Place.role_docString hkind, hsame]
    exact (h.endDocString hdoc).mono (Nat.le_succ line)
  | verbatim hmode hkind =>
    rw [role_of_docString hmode, Place.role_docString_of_ne hkind]
    have hpushed : Owns o line { r with docString := r.docString.map (·.push raw) } := by
      refine h.congr rfl rfl rfl ?_ (by simp) rfl
      unfold target
      cases r.docString <;> rfl
    exact hpushed.mono (Nat.le_succ line)
  | narrative hmode hkind =>
    rw [role_of_narrative hmode hkind]
    exact h.skip rfl rfl rfl rfl rfl
  | narrativeComment hmode hkind =>
    rw [role_of_narrativeComment hmode hkind]
    exact h.mono (Nat.le_succ line)
  | outside hdoc hfree hread =>
    rw [role_of_outside hdoc hfree]
    exact h.leaveNarrative.readsOutside (hat.leaveNarrative hdoc) rfl hread

/-- **At the end of the text every step has its captures and its doc string for arguments.** -/
theorem close {s : Site} (h : Owns o n r) (hat : r.At s) :
    ∀ step ∈ r.close.stepsRead,
      step.arguments.length = step.found.captures.length + o.owners.count step.line := by
  obtain ⟨q, s', hclose, hat', hdoc, hq⟩ := hat.exists_close
  have howns : Owns o n q := by
    rcases hq with rfl | ⟨hmode, rfl⟩
    · exact h
    · refine h.endDocString (Option.isSome_iff_ne_none.mp ?_)
      exact hat.reading.trans (decide_eq_true hmode)
  rw [hclose]
  have hlast := howns.endBackground hdoc hat'.opened
  obtain ⟨_, _, _, _, _, hsame⟩ := q.endBackground_eq_with
  intro step hstep
  have harguments := hlast.arguments step hstep
  rwa [pending_eq_zero (by rw [hsame]; exact hdoc)] at harguments

end Owns

end Reading

end Gherkin
