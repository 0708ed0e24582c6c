import Gherkin.Proofs.Feature.Role

/-!
# Where a line stands, sections of examples included

A section of examples is skipped: its lines are refused whatever they are written as, unless they
pass it by. So to know what a line is for it is not enough to know its `Place`. A `Site` also knows
whether the line is skipped, and what a background that is being read stands in, because when the
background ends, that is where the next line stands.

`TextLine.ofText` gives every line of a text its one role by this. Nothing in this file refers to a
reading or to registered steps; as long as a text has no section of examples the roles are those of
`Entry.ofText`.
-/

namespace Gherkin

/-- Whether a line with the role is none of a section of examples, even inside of one. -/
def Role.passes : Role → Bool
  | .step _ _ | .delimiter | .stray => false
  | .blank | .comment | .verbatim | .feature _ | .narrative _ | .background _ | .scenario _ => true

/-- Where a line stands. -/
structure Site where
  place : Place := .outside
  /-- Whether it stands in a section of examples. -/
  skipping : Bool := false
  /-- If a background is being read: whether that stands in a section of examples. -/
  around : Option Bool := none
  deriving DecidableEq, Repr

namespace Site

/-- The role of a line that stands at the site. A section of examples has no doc strings. -/
def role (s : Site) (raw : Text) : Role :=
  if s.skipping && s.place != .docString && !(s.place.role raw).passes then .stray
  else s.place.role raw

/-- The site of the line after one with the role. What is none of the things a feature is made of
begins a section of examples, or goes on with one. Such a section ends where a scenario or
a background begins; one around a background goes on when the background has ended. -/
def next (s : Site) (role : Role) : Site :=
  let place := s.place.next role
  match role with
  | .stray => { s with place, skipping := true }
  | .blank => { place, skipping := s.around.getD s.skipping, around := none }
  | .background _ => { place, skipping := false, around := some s.skipping }
  | .scenario _ => { place, skipping := false, around := none }
  | .comment | .delimiter | .verbatim | .feature _ | .narrative _ | .step _ _ => { s with place }

@[simp] theorem place_next (s : Site) (role : Role) :
    (s.next role).place = s.place.next role := by
  cases role <;> rfl

/-- In a doc string it does not matter what is skipped. -/
theorem role_of_docString {s : Site} (h : s.place = .docString) (raw : Text) :
    s.role raw = Place.docString.role raw := by
  unfold role
  rw [h]
  exact if_neg (by simp)

/-- Places that make the next one the same make the next site the same. -/
theorem next_with_place {s : Site} {p : Place} {role : Role} (h : p.next role = s.place.next role) :
    { s with place := p }.next role = s.next role := by
  unfold next
  dsimp only
  rw [h]

/-- A place that is kept, by a line that a section of examples does not see, keeps the site. -/
theorem next_eq_self {s : Site} {role : Role} (hplace : s.place.next role = s.place)
    (hrole : role = .comment ∨ role = .verbatim ∨ ∃ text, role = .narrative text) :
    s.next role = s := by
  unfold next
  rw [hplace]
  rcases hrole with rfl | rfl | ⟨text, rfl⟩ <;> rfl

/-- The site of the line after lines, of which the first stands at the site. -/
def along (s : Site) (lines : List Text) : Site := lines.foldl (fun s raw => s.next (s.role raw)) s

end Site

/-- A line of a text with what it is for. -/
structure TextLine extends Entry where
  /-- The line as it is written. -/
  raw : Text
  deriving DecidableEq, Repr

namespace TextLine

/-- The lines, of which the first stands at the site and has the number. -/
def ofLines : (site : Site) → (line : Nat) → List Text → List TextLine
  | _, _, [] => []
  | s, n, raw :: rest =>
    { line := n, role := s.role raw, raw } :: ofLines (s.next (s.role raw)) (n + 1) rest

/-- All lines of a text. -/
def ofText (text : Text) : List TextLine := ofLines {} 1 (Text.lines text)

theorem ofLines_append : ∀ (s : Site) (n : Nat) (lines more : List Text),
    ofLines s n (lines ++ more)
      = ofLines s n lines ++ ofLines (s.along lines) (n + lines.length) more
  | _, _, [], _ => rfl
  | s, n, raw :: rest, more => by
    rw [List.cons_append, ofLines, ofLines_append _ (n + 1) rest more, List.length_cons,
      Nat.add_right_comm, Nat.add_assoc, ofLines, List.cons_append]
    rfl

/-- The lines as they are written. -/
theorem map_raw_ofLines : ∀ (s : Site) (n : Nat) (lines : List Text),
    (ofLines s n lines).map TextLine.raw = lines
  | _, _, [] => rfl
  | s, n, raw :: rest => by rw [ofLines, List.map_cons, map_raw_ofLines _ (n + 1) rest]

/-- The lines are numbered one after another. -/
theorem map_line_ofLines : ∀ (s : Site) (n : Nat) (lines : List Text),
    (ofLines s n lines).map (·.line) = List.range' n lines.length
  | _, _, [] => rfl
  | s, n, raw :: rest => by
    rw [ofLines, List.map_cons, map_line_ofLines _ (n + 1) rest]
    rfl

/-- Every line has its number. -/
theorem exists_of_getElem? : ∀ {s : Site} {n : Nat} {lines : List Text} {i : Nat} {raw : Text},
    lines[i]? = some raw → ∃ l ∈ ofLines s n lines, l.raw = raw ∧ l.line = n + i
  | _, _, [], _, _, h => absurd h (by simp)
  | s, n, raw :: rest, 0, _, h => by
    obtain rfl := Option.some.inj h
    exact ⟨_, List.mem_cons_self .., rfl, rfl⟩
  | s, n, raw :: rest, i + 1, _, h => by
    obtain ⟨l, hl, hraw, hline⟩ := exists_of_getElem? (s := s.next (s.role raw)) (n := n + 1)
      (List.getElem?_cons_succ.symm.trans h)
    exact ⟨l, List.mem_cons_of_mem _ hl, hraw, by omega⟩

theorem length_ofLines (s : Site) (n : Nat) (lines : List Text) :
    (ofLines s n lines).length = lines.length := by
  rw [← List.length_map TextLine.raw, map_raw_ofLines]

theorem line_lt_of_mem_ofLines {s : Site} {n : Nat} {lines : List Text} {l : TextLine}
    (h : l ∈ ofLines s n lines) : l.line < n + lines.length := by
  have hline : l.line ∈ (ofLines s n lines).map (·.line) := List.mem_map_of_mem h
  rw [map_line_ofLines, List.mem_range'_1] at hline
  exact hline.2

end TextLine

end Gherkin
