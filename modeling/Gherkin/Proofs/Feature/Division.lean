import Gherkin.Proofs.Feature.Role
import Gherkin.Proofs.Feature.Transition
import Gherkin.Proofs.Step.Lookup

/-!
# How the lines read are divided between the background and the items

The steps of a background are read among the other items and cut out when the background ends. This
file follows that through a reading. `Written` is what of a reading the lines decide: the lines that
its background, its items and the open marker were written as. Doc strings, captures and listings
are forgotten, so most of what reading can do leaves it as it is.

`Division` says how the entries of the lines read so far make up a `Written`: there is no
background yet, or one is open at the end of the entries, or one is closed and the entries after it
begin with the line that ended it.

* `Division.append` — a line that neither begins nor ends a background goes to the end.
* `Division.begin` — a line that begins the background opens it.
* `Division.ending` — a blank line or a scenario closes it, or comes while none is open.
-/

namespace Gherkin

/-- Whether the line becomes an item: a scenario does, and so does a step that is found. -/
def Entry.isBound {W : Type} (reg : Registry W) (e : Entry) : Bool :=
  match e.role with
  | .scenario _ => true
  | .step _ text => (reg.find text).isOk
  | _ => false

namespace Entry

variable {W : Type} {reg : Registry W} {e : Entry}

/-- What becomes an item without being able to end a background is a step. -/
theorem isStep_of_isBound (hbound : e.isBound reg = true) (hends : e.endsBackground = false) :
    e.isStep = true := by
  obtain ⟨n, role⟩ := e
  cases role with
  | step keyword text => rfl
  | scenario name => exact absurd hends (by simp [endsBackground])
  | _ => exact absurd hbound (by simp [isBound])

end Entry

/-- What of a reading the lines decide: the lines its parts were written as. -/
structure Written where
  /-- The line of the background and those of its steps. -/
  background : Option (Entry × List Entry)
  openBackground : Option Nat
  items : List Entry

namespace Written

/-- More lines become items. -/
def add (w : Written) (es : List Entry) : Written := { w with items := w.items ++ es }

@[simp] theorem add_nil (w : Written) : w.add [] = w := by
  unfold add
  rw [List.append_nil]

end Written

/-- The lines that a background was written as. -/
def Background.entries (b : Background) : Entry × List Entry :=
  ({ line := b.line, role := .background b.name }, b.steps.map Step.entry)

namespace Reading

variable {W : Type} {reg : Registry W} {r : Reading}

/-- The lines that the parts of the reading were written as. -/
def written (r : Reading) : Written :=
  { background := r.background.map Background.entries
    openBackground := r.openBackground
    items := r.items.map Item.entry }

/-- Whether the innermost declaration or background that is being read is a background. -/
def inBackground (modes : List Mode) : Prop := (aroundBackground? modes).isSome = true

@[simp] theorem inBackground_background (modes : List Mode) :
    inBackground (.background :: modes) := rfl

@[simp] theorem inBackground_narrative (modes : List Mode) :
    inBackground (.narrative :: modes) ↔ inBackground modes := Iff.rfl

@[simp] theorem inBackground_docString (modes : List Mode) :
    inBackground (.docString :: modes) ↔ inBackground modes := Iff.rfl

@[simp] theorem inBackground_steps (keyword : Keyword) (modes : List Mode) :
    inBackground (.steps keyword :: modes) ↔ inBackground modes := Iff.rfl

/-- Leaving a mode that is no background leaves none that is around it. -/
theorem inBackground_tail (h : inBackground r.modes) (hmode : r.mode ≠ .background) :
    inBackground r.modes.tail := by
  unfold mode at hmode
  cases hmodes : r.modes with
  | nil =>
    rw [hmodes] at h
    exact h
  | cons m outer =>
    rw [hmodes] at h hmode
    cases m with
    | background => exact absurd rfl hmode
    -- a declaration hides the backgrounds around it
    | declaration => exact absurd h (by simp [inBackground, aroundBackground?])
    | _ => exact h

/-- A change of one element commutes with a map if it does for every element. -/
theorem map_modify_comm {α β : Type} {f : α → α} {f' : β → β} {g : α → β}
    (h : ∀ a, g (f a) = f' (g a)) (l : List α) (i : Nat) :
    (l.modify i f).map g = (l.map g).modify i f' := by
  apply List.ext_getElem?
  intro j
  rw [List.getElem?_map, List.getElem?_modify, List.getElem?_modify, List.getElem?_map]
  cases l[j]? with
  | none => rfl
  | some a =>
    show some (g (if i = j then f a else a)) = some (if i = j then f' (g a) else g a)
    split
    next => rw [h]
    next => rfl

/-- A change that a map does not see is not seen in the list either. -/
theorem map_modify_of_eq {α β : Type} {f : α → α} {g : α → β} (h : ∀ a, g (f a) = g a)
    (l : List α) (i : Nat) : (l.modify i f).map g = l.map g :=
  (map_modify_comm h l i).trans (List.modify_id i (l.map g))

/-- A doc string changes no line that its step was written as. -/
theorem written_attach (target : Option StepPlace) (doc : Text) :
    (r.attach target doc).written = r.written := by
  match target with
  | none => rfl
  | some (.item i) =>
    unfold attach written
    congr 1
    apply map_modify_of_eq
    intro item
    cases item <;> rfl
  | some (.background i) =>
    -- the step has been moved with its background already
    unfold attach written
    congr 1
    cases r.background with
    | none => rfl
    | some b =>
      have hsteps : (b.steps.modify i fun s => s.withDocString doc).map Step.entry
          = b.steps.map Step.entry := map_modify_of_eq (fun s => s.entry_withDocString doc) _ i
      show some (Background.entries { b with steps := _ }) = some b.entries
      unfold Background.entries
      rw [hsteps]

theorem written_endDocString : r.endDocString.written = r.written := by
  cases hblock : r.docString with
  | none =>
    rw [endDocString_of_none hblock]
    rfl
  | some block =>
    rw [endDocString_of_some hblock]
    exact written_attach (r := { r with modes := r.modesAfterDocString, docString := none }) _ _

theorem written_mark (kind : Section) (name : Text) (line : Nat) :
    (r.mark kind name line).written = r.written.add [(Item.marker { kind, name, line }).entry] := by
  unfold mark written Written.add
  rw [List.map_append]
  rfl

/-- A step is written as its line if it is found; otherwise nothing becomes of the line. -/
theorem written_step (line : Nat) (keyword : Keyword) (conjunction : Bool) (text : Text) :
    (r.step reg line keyword conjunction text).1.written
      = r.written.add
          ([{ line, role := .step (if conjunction then none else some keyword) text }].filter
            (Entry.isBound reg)) := by
  cases hfind : reg.find text with
  | ok found =>
    rw [List.filter_cons_of_pos (by simp [Entry.isBound, hfind, Except.isOk, Except.toBool]),
      step_of_ok hfind]
    unfold written Written.add
    rw [List.map_append, ← Registry.text_of_find hfind]
    rfl
  | error e =>
    rw [List.filter_cons_of_neg (by simp [Entry.isBound, hfind, Except.isOk, Except.toBool]),
      List.filter_nil, Written.add_nil]
    cases e with
    | notFound =>
      rw [step_of_notFound hfind]
      rfl
    | ambiguous e =>
      rw [step_of_ambiguous hfind]
      rfl

/-- The lines of a background that is cut out of the items: its marker's and those of its steps. -/
theorem entries_ofItems {items : List Item} {line : Nat} {name : Text} {inside : List Entry}
    (h : items.map Item.entry = { line, role := .background name } :: inside)
    (hinside : ∀ e ∈ inside, e.isStep = true) :
    (Background.ofItems items).entries = ({ line, role := .background name }, inside) := by
  cases items with
  | nil => exact absurd h (by simp)
  | cons item rest =>
    obtain ⟨hitem, hrest⟩ := List.cons.inj (List.map_cons ▸ h)
    obtain rfl := Item.eq_marker_of_entry hitem
    have hsteps : (rest.filterMap Item.step?).map Step.entry = inside := by
      rw [Item.map_entry_filterMap_step?, hrest]
      exact List.filter_eq_self.mpr hinside
    show (({ line, role := .background name } : Entry),
      (rest.filterMap Item.step?).map Step.entry) = _
    rw [hsteps]

/-- The steps of a background leave the items, and its marker with them. -/
theorem written_endBackground {before inside : List Entry} {line : Nat} {name : Text}
    (hmodes : inBackground r.modes) (hinside : ∀ e ∈ inside, e.isStep = true)
    (h : r.written = { background := none
                       openBackground := some before.length
                       items := before ++ { line, role := .background name } :: inside }) :
    r.endBackground.written
      = { background := some ({ line, role := .background name }, inside)
          openBackground := none
          items := before } := by
  obtain ⟨outer, houter⟩ := Option.isSome_iff_exists.mp hmodes
  have hopen : r.openBackground = some before.length := congrArg Written.openBackground h
  have hitems : r.items.map Item.entry = before ++ { line, role := .background name } :: inside :=
    congrArg Written.items h
  -- the background begins where the items were when it was opened
  have htake : (r.items.take before.length).map Item.entry = before := by
    rw [List.map_take, hitems, List.take_left]
  have hdrop : (r.items.drop before.length).map Item.entry
      = { line, role := .background name } :: inside := by
    rw [List.map_drop, hitems, List.drop_left]
  rw [endBackground_of_some houter hopen]
  show ({ background := some (Background.ofItems _).entries
          openBackground := none
          items := (r.items.take before.length).map Item.entry } : Written) = _
  rw [entries_ofItems hdrop hinside, htake]

end Reading

/-- How the entries of the lines read so far make up what has been read. -/
inductive Division {W : Type} (reg : Registry W) (modes : List Mode) (es : List Entry) :
    Written → Prop
  /-- No line begins a background. -/
  | absent (hnone : ∀ e ∈ es, e.isBackground = false) :
    Division reg modes es
      { background := none
        openBackground := none
        items := es.filter (Entry.isBound reg) }
  /-- The last lines belong to a background. -/
  | opened (before inside : List Entry) (line : Nat) (name : Text)
    (hmodes : Reading.inBackground modes)
    (hes : es = before ++ { line, role := .background name } :: inside)
    (honly : ∀ e ∈ before ++ inside, e.isBackground = false)
    (hinside : ∀ e ∈ inside, e.endsBackground = false) :
    Division reg modes es
      { background := none
        openBackground := some (before.filter (Entry.isBound reg)).length
        items := before.filter (Entry.isBound reg)
          ++ { line, role := .background name } :: inside.filter (Entry.isBound reg) }
  /-- A background has ended with the first line of `after`. -/
  | closed (before inside after : List Entry) (line : Nat) (name : Text)
    (hes : es = before ++ { line, role := .background name } :: (inside ++ after))
    (honly : ∀ e ∈ before ++ (inside ++ after), e.isBackground = false)
    (hinside : ∀ e ∈ inside, e.endsBackground = false)
    (hafter : ∃ e ∈ after.head?, e.endsBackground = true) :
    Division reg modes es
      { background := some ({ line, role := .background name }, inside.filter (Entry.isBound reg))
        openBackground := none
        items := (before ++ after).filter (Entry.isBound reg) }

namespace Division

open Reading

variable {W : Type} {reg : Registry W} {modes modes' : List Mode} {es : List Entry} {w : Written}
  {e : Entry}

/-- Where no background is open, every line but the beginning of one goes to the end. -/
theorem append_of_none (h : Division reg modes es w) (hopen : w.openBackground = none)
    (hbegins : e.isBackground = false) :
    Division reg modes' (es ++ [e]) (w.add ([e].filter (Entry.isBound reg))) := by
  unfold Written.add
  cases h with
  | absent hnone =>
    rw [← List.filter_append]
    exact .absent (List.forall_mem_append.mpr ⟨hnone, List.forall_mem_singleton.mpr hbegins⟩)
  | opened => exact absurd hopen (by simp)
  | closed before inside after line name hes honly hinside hafter =>
    rw [← List.filter_append, List.append_assoc]
    -- the background was cut out before, so the line comes after the one that ended it
    refine .closed before inside (after ++ [e]) line name ?_ ?_ hinside ?_
    · rw [hes, List.append_assoc, List.cons_append, List.append_assoc]
    · rw [← List.append_assoc, ← List.append_assoc, List.append_assoc before]
      exact List.forall_mem_append.mpr ⟨honly, List.forall_mem_singleton.mpr hbegins⟩
    · obtain ⟨first, hfirst, hends⟩ := hafter
      refine ⟨first, ?_, hends⟩
      rw [List.head?_append, Option.mem_def.mp hfirst]
      rfl

/-- **A line that neither begins nor ends a background goes to the end of what it stands in.** -/
theorem append (h : Division reg modes es w) (hmodes : inBackground modes → inBackground modes')
    (hbegins : e.isBackground = false) (hends : e.endsBackground = false) :
    Division reg modes' (es ++ [e]) (w.add ([e].filter (Entry.isBound reg))) := by
  by_cases hopen : w.openBackground = none
  · exact append_of_none h hopen hbegins
  · cases h with
    | absent => exact absurd rfl hopen
    | opened before inside line name hin hes honly hinside =>
      unfold Written.add
      rw [List.append_assoc, List.cons_append, ← List.filter_append]
      -- the background goes on with the line
      refine .opened before (inside ++ [e]) line name (hmodes hin) ?_ ?_ ?_
      · rw [hes, List.append_assoc, List.cons_append]
      · rw [← List.append_assoc]
        exact List.forall_mem_append.mpr ⟨honly, List.forall_mem_singleton.mpr hbegins⟩
      · exact List.forall_mem_append.mpr ⟨hinside, List.forall_mem_singleton.mpr hends⟩
    | closed => exact absurd rfl hopen

/-- A line of which nothing becomes changes the modes at most. -/
theorem append_unbound (h : Division reg modes es w)
    (hmodes : inBackground modes → inBackground modes') (hbegins : e.isBackground = false)
    (hends : e.endsBackground = false) (hbound : e.isBound reg = false) :
    Division reg modes' (es ++ [e]) w := by
  have hadded := h.append hmodes hbegins hends
  rwa [List.filter_cons_of_neg (by simp [hbound]), List.filter_nil, Written.add_nil] at hadded

/-- Where the modes still tell that a background is open, they tell the same. -/
theorem mono (h : Division reg modes es w) (hmodes : inBackground modes → inBackground modes') :
    Division reg modes' es w := by
  cases h with
  | absent hnone => exact .absent hnone
  | opened before inside line name hin hes honly hinside =>
    exact .opened before inside line name (hmodes hin) hes honly hinside
  | closed before inside after line name hes honly hinside hafter =>
    exact .closed before inside after line name hes honly hinside hafter

/-- **A line that begins the background opens it.** -/
theorem begin {line : Nat} {name : Text} (h : Division reg modes es w)
    (hbackground : w.background = none) (hopen : w.openBackground = none) :
    Division reg (.background :: modes) (es ++ [{ line, role := .background name }])
      ({ w with openBackground := some w.items.length }.add
        [{ line, role := .background name }]) := by
  cases h with
  | absent hnone =>
    refine .opened es [] line name rfl rfl ?_ ?_
    · rw [List.append_nil]
      exact hnone
    · intro e he
      exact absurd he (by simp)
  | opened => exact absurd hopen (by simp)
  | closed => exact absurd hbackground (by simp)

/-- **A blank line or a scenario closes an open background.** Where none is open it is one more
line, whatever the modes become. -/
theorem ending {r : Reading} (h : Division reg r.modes es r.written)
    (hends : e.endsBackground = true) :
    Division reg modes' (es ++ [e])
      (r.endBackground.written.add ([e].filter (Entry.isBound reg))) := by
  have hbegins : e.isBackground = false := Entry.isBackground_of_endsBackground hends
  by_cases hopen : r.openBackground = none
  · rw [endBackground_of_none hopen]
    exact append_of_none h hopen hbegins
  · generalize hw : r.written = w at h
    have hopen' : w.openBackground ≠ none := hw ▸ hopen
    cases h with
    | absent => exact absurd rfl hopen'
    | opened before inside line name hin hes honly hinside =>
      -- no scenario stands inside, so all that was bound there are steps
      have hsteps : ∀ e ∈ inside.filter (Entry.isBound reg), e.isStep = true := by
        intro e' he'
        obtain ⟨hmem, hbound⟩ := List.mem_filter.mp he'
        exact Entry.isStep_of_isBound hbound (hinside e' hmem)
      unfold Written.add
      rw [written_endBackground hin hsteps hw, ← List.filter_append]
      refine .closed before inside [e] line name ?_ ?_ hinside ⟨e, rfl, hends⟩
      · rw [hes, List.append_assoc, List.cons_append]
      · rw [← List.append_assoc]
        exact List.forall_mem_append.mpr ⟨honly, List.forall_mem_singleton.mpr hbegins⟩
    | closed => exact absurd rfl hopen'

/-- **The steps of the background and those of the items are the steps of the lines that are
bound.** -/
theorem perm_steps (h : Division reg modes es w) :
    (w.background.elim [] (·.2) ++ w.items.filter Entry.isStep).Perm
      ((es.filter (Entry.isBound reg)).filter Entry.isStep) := by
  have hmarker (line : Nat) (name : Text) :
      ¬ ({ line, role := .background name } : Entry).isBound reg = true := by
    simp [Entry.isBound]
  cases h with
  | absent hnone => exact List.Perm.refl _
  | opened before inside line name hin hes honly hinside =>
    have hbound : es.filter (Entry.isBound reg)
        = before.filter (Entry.isBound reg) ++ inside.filter (Entry.isBound reg) := by
      rw [hes, List.filter_append, List.filter_cons_of_neg (hmarker line name)]
    show ([] ++ (_ ++ _ :: _ : List Entry).filter Entry.isStep).Perm _
    rw [hbound, List.nil_append, List.filter_append, List.filter_append,
      List.filter_cons_of_neg (by simp [Entry.isStep])]
  | closed before inside after line name hes honly hinside hafter =>
    have hbound : es.filter (Entry.isBound reg) = before.filter (Entry.isBound reg)
        ++ (inside.filter (Entry.isBound reg) ++ after.filter (Entry.isBound reg)) := by
      rw [hes, List.filter_append, List.filter_cons_of_neg (hmarker line name),
        List.filter_append]
    have hsteps : (inside.filter (Entry.isBound reg)).filter Entry.isStep
        = inside.filter (Entry.isBound reg) := by
      refine List.filter_eq_self.mpr fun e he => ?_
      obtain ⟨hmem, hisBound⟩ := List.mem_filter.mp he
      exact Entry.isStep_of_isBound hisBound (hinside e hmem)
    show (inside.filter (Entry.isBound reg)
      ++ ((before ++ after).filter (Entry.isBound reg)).filter Entry.isStep).Perm _
    rw [hbound, List.filter_append, List.filter_append, List.filter_append, List.filter_append,
      hsteps, ← List.append_assoc, ← List.append_assoc]
    -- the steps of the background were moved to the front
    exact List.Perm.append_right _ List.perm_append_comm

end Division

end Gherkin
