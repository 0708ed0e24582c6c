import Mathlib.Data.List.Induction
import Gherkin.Feature.Basic
import Gherkin.Text.Lines

/-!
# What each line of a feature is for

A reading keeps a stack of modes, moves steps from one list to another and changes steps it has
read already. What its lines are *for* can be said without any of that: besides the kind of a line
it only matters whether the line stands in a doc string or in the free text after a feature's name.
That is the `Place` of the line, and the place of the next line follows from the role of this one.

`Entry.ofText` gives every line of a text its one role; which lines are free text is said without
places by `Entry.exists_narrative_iff`. Nothing in this file refers to a reading or
to registered steps. A feature is compared with the roles through `Item.entry` and `Step.entry`,
which say what line an item of a feature was written as.
-/

namespace Gherkin

/-- What a line is for. -/
inductive Role where
  | blank
  | comment
  /-- Begins or ends a doc string. -/
  | delimiter
  /-- Belongs to a doc string. -/
  | verbatim
  | feature (name : Text)
  /-- Belongs to the free text after a feature's name. -/
  | narrative (text : Text)
  | background (name : Text)
  | scenario (name : Text)
  /-- A step; there is no keyword if it is written `And`. -/
  | step (keyword : Option Keyword) (text : Text)
  /-- None of the things that a feature is made of. -/
  | stray
  deriving DecidableEq, Repr

/-- The role of a line of the kind outside doc strings and free text. -/
def Role.ofKind : LineKind → Role
  | .blank => .blank
  | .comment => .comment
  | .delimiter => .delimiter
  | .feature name => .feature name
  | .background name => .background name
  | .scenario name => .scenario name
  | .step keyword text => .step (some keyword) text
  | .conjunction text => .step none text
  | .examples => .stray
  | .other _ => .stray

/-- Where a line stands. -/
inductive Place where
  | docString
  | narrative
  | outside
  deriving DecidableEq, Repr

namespace Place

/-- The role of a line that stands at the place. Only three quotes count in a doc string. In the
narrative a line that begins no declaration and no step of its own keyword is free text, be it
written with `And` or not. -/
def role (p : Place) (raw : Text) : Role :=
  match p, LineKind.ofLine (Text.trim raw) with
  | .docString, .delimiter => .delimiter
  | .docString, _ => .verbatim
  | .narrative, .other _ => .narrative (Text.trim raw)
  | .narrative, .conjunction _ => .narrative (Text.trim raw)
  | _, kind => Role.ofKind kind

/-- The place of the line after one with the role. The narrative goes on with free text and with
comments, and ends at everything else. -/
def next : Place → Role → Place
  | .docString, .delimiter => .outside
  | .docString, _ => .docString
  | _, .delimiter => .docString
  | _, .feature _ => .narrative
  | .narrative, .narrative _ => .narrative
  | .narrative, .comment => .narrative
  | _, _ => .outside

end Place

/-- A line of a text and what it is for. -/
structure Entry where
  line : Nat
  role : Role
  deriving DecidableEq, Repr

/-- The place after lines with the entries, if the first of them stands at the place. -/
def Place.along (p : Place) (es : List Entry) : Place := es.foldl (fun p e => p.next e.role) p

namespace Entry

/-- Whether the line is a step. -/
def isStep (e : Entry) : Bool :=
  match e.role with
  | .step _ _ => true
  | _ => false

/-- Whether the line begins the background. -/
def isBackground (e : Entry) : Bool :=
  match e.role with
  | .background _ => true
  | _ => false

/-- Whether the line is a step or begins a scenario. -/
def isItem (e : Entry) : Bool :=
  match e.role with
  | .step _ _ | .scenario _ => true
  | _ => false

/-- Whether a background that is being read ends before the line. -/
def endsBackground (e : Entry) : Bool :=
  match e.role with
  | .blank | .scenario _ => true
  | _ => false

/-- The name of the feature, if the line gives it one. -/
def featureName? (e : Entry) : Option Text :=
  match e.role with
  | .feature name => some name
  | _ => none

/-- The line as free text, if it belongs to the narrative. -/
def narrative? (e : Entry) : Option Text :=
  match e.role with
  | .narrative text => some text
  | _ => none

/-- The roles of lines, of which the first stands at the place and has the number. -/
def ofLines : (place : Place) → (line : Nat) → List Text → List Entry
  | _, _, [] => []
  | p, n, raw :: rest =>
    { line := n, role := p.role raw } :: ofLines (p.next (p.role raw)) (n + 1) rest

/-- The roles of all lines of a text. -/
def ofText (text : Text) : List Entry := ofLines .outside 1 (Text.lines text)

/-- The lines end with one that names the feature and, after it, free text and comments only. -/
def EndInNarrative (es : List Entry) : Prop :=
  ∃ before line name between, es = before ++ { line, role := .feature name } :: between ∧
    ∀ e ∈ between, e.role = .comment ∨ ∃ text, e.role = .narrative text

/-- Every line has one entry, and they stand in the order of the lines. -/
theorem map_line_ofLines : ∀ (p : Place) (n : Nat) (lines : List Text),
    (ofLines p n lines).map Entry.line = List.range' n lines.length
  | _, _, [] => rfl
  | p, n, raw :: rest => by
    rw [ofLines, List.map_cons, map_line_ofLines _ (n + 1) rest]
    rfl

/-- Later lines have greater numbers. -/
theorem pairwise_line_ofText (text : Text) :
    (ofText text).Pairwise fun a b => a.line < b.line := by
  have h : ((ofText text).map Entry.line).Pairwise (· < ·) := by
    rw [ofText, map_line_ofLines]
    exact List.pairwise_lt_range'
  exact List.pairwise_map.mp h

/-- What an entry tells of its line: the number, and the role that the place gives it. -/
theorem eq_of_ofLines_eq_append {p : Place} {n : Nat} {lines : List Text}
    {before after : List Entry} {e : Entry} (h : ofLines p n lines = before ++ e :: after) :
    ∃ raw, lines[before.length]? = some raw ∧
      e = { line := n + before.length, role := (p.along before).role raw } := by
  induction before generalizing p n lines with
  | nil =>
    cases lines with
    | nil => exact absurd h (by simp [ofLines])
    | cons raw rest => exact ⟨raw, rfl, (List.cons.inj h).1.symm⟩
  | cons first before ih =>
    cases lines with
    | nil => exact absurd h (by simp [ofLines])
    | cons raw rest =>
      obtain ⟨rfl, hrest⟩ := List.cons.inj h
      obtain ⟨raw', hraw', rfl⟩ := ih hrest
      refine ⟨raw', hraw', ?_⟩
      rw [List.length_cons, Nat.add_comm before.length, ← Nat.add_assoc]
      rfl

/-- A line that begins the background is neither a step nor the beginning of a scenario. -/
theorem isItem_of_isBackground {e : Entry} (h : e.isBackground = true) : e.isItem = false := by
  obtain ⟨n, role⟩ := e
  cases role with
  | step keyword text => exact absurd h (by simp [isBackground])
  | scenario name => exact absurd h (by simp [isBackground])
  | _ => rfl

/-- A line that ends a background does not begin one. -/
theorem isBackground_of_endsBackground {e : Entry} (h : e.endsBackground = true) :
    e.isBackground = false := by
  obtain ⟨n, role⟩ := e
  cases role with
  | background name => exact absurd h (by simp [endsBackground])
  | _ => rfl

/-- A line that does not end a background is an item only if it is a step. -/
theorem isItem_eq_isStep {e : Entry} (h : e.endsBackground = false) : e.isItem = e.isStep := by
  obtain ⟨n, role⟩ := e
  cases role with
  | scenario name => exact absurd h (by simp [endsBackground])
  | _ => rfl

end Entry

namespace Place

variable {p : Place} {raw text : Text}

/-- A line has the role of a step only if it is written as one. -/
theorem kind_of_role_step {keyword : Option Keyword} (h : p.role raw = .step keyword text) :
    LineKind.ofLine (Text.trim raw) = keyword.elim (.conjunction text) (.step · text) := by
  unfold role at h
  cases hkind : LineKind.ofLine (Text.trim raw) with
  | step keyword' text' =>
    rw [hkind] at h
    cases p with
    | docString => exact absurd h (by simp)
    | _ =>
      obtain ⟨rfl, rfl⟩ := Role.step.inj h
      rfl
  | conjunction text' =>
    rw [hkind] at h
    cases p with
    | outside =>
      obtain ⟨rfl, rfl⟩ := Role.step.inj h
      rfl
    | _ => exact absurd h (by simp)
  | _ =>
    rw [hkind] at h
    cases p <;> exact absurd h (by simp [Role.ofKind])

/-- In a doc string nothing names the feature. -/
theorem role_docString_ne_feature (raw name : Text) : Place.docString.role raw ≠ .feature name := by
  unfold role
  cases LineKind.ofLine (Text.trim raw) <;> simp

/-- Free text is a line of no kind or one with `And`, and stands in the narrative. -/
theorem exists_role_eq_narrative_iff :
    (∃ text, p.role raw = .narrative text) ↔
      p = .narrative ∧ ((∃ word, LineKind.ofLine (Text.trim raw) = .other word) ∨
        ∃ text, LineKind.ofLine (Text.trim raw) = .conjunction text) := by
  unfold role
  cases LineKind.ofLine (Text.trim raw) <;> cases p <;> simp [Role.ofKind]

theorem along_concat (p : Place) (es : List Entry) (e : Entry) :
    p.along (es ++ [e]) = (p.along es).next e.role := List.foldl_append ..

/-- The narrative is entered by the name of a feature, and kept by free text and comments. -/
theorem next_eq_narrative_iff {role : Role} :
    p.next role = .narrative ↔
      (p ≠ .docString ∧ ∃ name, role = .feature name) ∨
        (p = .narrative ∧ (role = .comment ∨ ∃ text, role = .narrative text)) := by
  cases p <;> cases role <;> simp [next]

/-- **A line stands in the narrative exactly if only free text and comments are between it and a
line that names the feature.** -/
theorem along_ofLines_eq_narrative_iff {n : Nat} {lines : List Text} {es after : List Entry}
    (h : Entry.ofLines .outside n lines = es ++ after) :
    Place.outside.along es = .narrative ↔ Entry.EndInNarrative es := by
  unfold Entry.EndInNarrative
  induction es using List.reverseRecOn generalizing after with
  | nil => simp [along]
  | append_singleton es e ih =>
    have hprefix : Entry.ofLines .outside n lines = es ++ e :: after := by
      rw [h, List.append_assoc, List.singleton_append]
    rw [along_concat, next_eq_narrative_iff, ih hprefix]
    constructor
    · rintro (⟨-, name, hname⟩ | ⟨⟨before, line, name, between, rfl, hbetween⟩, he⟩)
      · exact ⟨es, e.line, name, [], by rw [← hname], by simp⟩
      · refine ⟨before, line, name, between ++ [e], by simp, ?_⟩
        exact List.forall_mem_append.mpr ⟨hbetween, List.forall_mem_singleton.mpr he⟩
    · rintro ⟨before, line, name, between, heq, hbetween⟩
      rcases List.eq_nil_or_concat between with rfl | ⟨between', last, rfl⟩
      · -- the last line names the feature, so it does not stand in a doc string
        obtain ⟨rfl, hlast⟩ := List.append_inj' heq rfl
        obtain rfl := List.singleton_inj.mp hlast
        refine Or.inl ⟨?_, name, rfl⟩
        intro hdoc
        obtain ⟨raw, -, hentry⟩ := Entry.eq_of_ofLines_eq_append hprefix
        rw [hdoc] at hentry
        exact role_docString_ne_feature raw name (congrArg Entry.role hentry).symm
      · rw [List.concat_eq_append] at heq hbetween
        rw [← List.cons_append, ← List.append_assoc] at heq
        obtain ⟨rfl, hlast⟩ := List.append_inj' heq rfl
        obtain rfl := List.singleton_inj.mp hlast
        obtain ⟨hbetween', he⟩ := List.forall_mem_append.mp hbetween
        exact Or.inr ⟨⟨before, line, name, between', rfl, hbetween'⟩,
          he e (List.mem_singleton_self e)⟩

end Place

/-- **The free text of a feature, said of the lines alone**: it is written as a line of no kind or
with `And`, and only such lines and comments are between it and a line that names the feature. -/
theorem Entry.exists_narrative_iff {text : Text} {before after : List Entry} {e : Entry}
    (h : Entry.ofText text = before ++ e :: after) :
    (∃ t, e.role = .narrative t) ↔
      EndInNarrative before ∧ ∃ raw, (Text.lines text)[before.length]? = some raw ∧
        ((∃ word, LineKind.ofLine (Text.trim raw) = .other word) ∨
          ∃ t, LineKind.ofLine (Text.trim raw) = .conjunction t) := by
  obtain ⟨raw, hraw, rfl⟩ := eq_of_ofLines_eq_append h
  dsimp only
  rw [Place.exists_role_eq_narrative_iff, Place.along_ofLines_eq_narrative_iff h]
  constructor
  · rintro ⟨hends, hkind⟩
    exact ⟨hends, raw, hraw, hkind⟩
  · rintro ⟨hends, raw', hraw', hkind⟩
    obtain rfl : raw = raw' := Option.some.inj (hraw.symm.trans hraw')
    exact ⟨hends, hkind⟩

/-- The line that a step was written as. -/
def Step.entry (s : Step) : Entry :=
  { line := s.line, role := .step (if s.conjunction then none else some s.keyword) s.text }

/-- The line that an item was written as. -/
def Item.entry : Item → Entry
  | .marker { kind := .background, name, line } => { line, role := .background name }
  | .marker { kind := .scenario, name, line } => { line, role := .scenario name }
  | .step s => s.entry

@[simp] theorem Step.entry_line (s : Step) : s.entry.line = s.line := rfl

@[simp] theorem Step.entry_withDocString (s : Step) (doc : Text) :
    (s.withDocString doc).entry = s.entry := rfl

/-- An item stands on the line it was written as. -/
@[simp] theorem Item.entry_line (item : Item) : item.entry.line = item.line := by
  rcases item with ⟨⟨kind, name, line⟩⟩ | s
  · cases kind <;> rfl
  · rfl

/-- An item written as the beginning of a background is its marker. -/
theorem Item.eq_marker_of_entry {item : Item} {line : Nat} {name : Text}
    (h : item.entry = { line, role := .background name }) :
    item = .marker { kind := .background, name, line } := by
  rcases item with ⟨⟨kind, name', line'⟩⟩ | s
  · cases kind with
    | background =>
      obtain ⟨rfl, hrole⟩ := Entry.mk.inj h
      rw [Role.background.inj hrole]
    | scenario => exact absurd h (by simp [entry])
  · exact absurd h (by simp [entry, Step.entry])

/-- What was written as steps is kept by collecting the steps. -/
theorem Item.map_entry_filterMap_step? : ∀ items : List Item,
    (items.filterMap Item.step?).map Step.entry = (items.map Item.entry).filter Entry.isStep
  | [] => rfl
  | .step s :: rest => by
    show s.entry :: (rest.filterMap Item.step?).map Step.entry
      = s.entry :: (rest.map Item.entry).filter Entry.isStep
    rw [map_entry_filterMap_step?]
  | .marker ⟨.background, _, _⟩ :: rest => map_entry_filterMap_step? rest
  | .marker ⟨.scenario, _, _⟩ :: rest => map_entry_filterMap_step? rest

end Gherkin
