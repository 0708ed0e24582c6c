import Gherkin.Feature.Basic
import Gherkin.Feature.DocString
import Gherkin.Proofs.Feature.LineKind
import Gherkin.Proofs.Step.Lookup
import Gherkin.Proofs.Text.Written

/-!
# Features before they are written

A `Draft` is a feature as its author has it in mind: a name with some free text, a background, and
scenarios, each with its steps. `Draft.print` writes it down. What it says, and what a feature that
was read says, is compared as an `Outline`: names, free text, steps with their keywords, texts and
doc strings, all in order, without line numbers and columns.

Not every draft can be written. `Draft.Writable` asks that nothing is taken for something else when
it is read: names and texts are trimmed and have no line ends in them, the free text looks like free
text, an `And` continues a step, and doc strings have no lines that end them and no indentation that
they would lose. It also asks that exactly one pattern matches every step, with a number of
arguments that the handler accepts; without that no text could be read.
-/

namespace Gherkin

/-- The text can be written into a line after a keyword. -/
structure Text.Inline (t : Text) : Prop where
  trimmed : t.Trimmed
  noNewline : '\n' ∉ t

instance (t : Text) : Decidable t.Inline :=
  decidable_of_iff (t.Trimmed ∧ '\n' ∉ t) ⟨fun h => ⟨h.1, h.2⟩, fun h => ⟨h.trimmed, h.noNewline⟩⟩

theorem Text.Inline.isLine {t : Text} (h : t.Inline) : t.IsLine := h.trimmed.isLine h.noNewline

/-- A doc string: the column it is written at, and its lines. -/
structure DocDraft where
  column : Nat
  lines : List Text

/-- A step, written with some indentation. -/
structure StepDraft where
  indent : Nat
  keyword : Keyword
  /-- Whether it is written `And`. -/
  conjunction : Bool
  text : Text
  doc : Option DocDraft

/-- A background or a scenario. -/
structure SectionDraft where
  name : Text
  steps : List StepDraft

/-- A feature before it is written. -/
structure Draft where
  name : Option Text
  narrative : List Text
  background : Option SectionDraft
  scenarios : List SectionDraft

/-! ## Writing -/

namespace DocDraft

/-- The text that the doc string stands for. -/
def text (d : DocDraft) : Text := Text.join ['\n'] d.lines

/-- The line that begins or ends the doc string. -/
def delimiter (d : DocDraft) : Text := Text.spaces d.column ++ LineKind.quotes

/-- The lines of the doc string, indented to the column of the quotes. -/
def write (d : DocDraft) : List Text :=
  d.delimiter :: (d.lines.map (Text.spaces d.column ++ ·) ++ [d.delimiter])

end DocDraft

namespace StepDraft

/-- The keyword as it is written. -/
def word (s : StepDraft) : Text := if s.conjunction then "And".toList else s.keyword.display

/-- The line of the step itself. -/
def line (s : StepDraft) : Text := Text.spaces s.indent ++ (s.word ++ ' ' :: s.text)

/-- The lines of the step. -/
def write (s : StepDraft) : List Text := s.line :: s.doc.elim [] DocDraft.write

end StepDraft

/-- The lines of a background or a scenario. -/
def SectionDraft.write (keyword : Text) (c : SectionDraft) : List Text :=
  (keyword ++ ' ' :: c.name) :: c.steps.flatMap StepDraft.write

namespace Draft

/-- The lines that name the feature, and a blank line. -/
def writeName (d : Draft) : List Text :=
  d.name.elim [] fun name => ("Feature:".toList ++ ' ' :: name) :: (d.narrative ++ [[]])

/-- The lines of the background, and a blank line. -/
def writeBackground (d : Draft) : List Text :=
  d.background.elim [] fun b => b.write "Background:".toList ++ [[]]

/-- The lines of the scenarios. -/
def writeScenarios (d : Draft) : List Text :=
  d.scenarios.flatMap (SectionDraft.write "Scenario:".toList)

/-- The draft as a text. -/
def print (d : Draft) : Text :=
  Text.unlines (d.writeName ++ (d.writeBackground ++ d.writeScenarios))

end Draft

/-! ## What can be written -/

/-- The doc string comes back as it is: no line of it ends it, and its lines have no indentation in
common. -/
structure DocDraft.Writable (d : DocDraft) : Prop where
  isLine : ∀ l ∈ d.lines, Text.IsLine l
  noQuotes : ∀ l ∈ d.lines, Text.after? LineKind.quotes (Text.trim l) = none
  flush : (∀ l ∈ d.lines, Text.trim l = []) ∨
    ∃ l ∈ d.lines, Text.trim l ≠ [] ∧ Text.indent l = 0

instance (d : DocDraft) : Decidable d.Writable :=
  decidable_of_iff ((∀ l ∈ d.lines, Text.IsLine l) ∧
      (∀ l ∈ d.lines, Text.after? LineKind.quotes (Text.trim l) = none) ∧
      ((∀ l ∈ d.lines, Text.trim l = []) ∨ ∃ l ∈ d.lines, Text.trim l ≠ [] ∧ Text.indent l = 0))
    ⟨fun h => ⟨h.1, h.2.1, h.2.2⟩, fun h => ⟨h.isLine, h.noQuotes, h.flush⟩⟩

/-- The least number is 0 if 0 is among the numbers. -/
theorem least_eq_zero : ∀ {ns : List Nat}, 0 ∈ ns → least ns = 0
  | [n], h => (List.mem_singleton.mp h).symm
  | n :: m :: ns, h => by
    show min n (least (m :: ns)) = 0
    rcases List.mem_cons.mp h with h | h
    · omega
    · have hrest := least_eq_zero h
      omega

/-- The lines of a doc string that can be written have no indentation in common. -/
theorem DocDraft.Writable.commonIndent_eq {d : DocDraft} (h : d.Writable) :
    commonIndent d.lines = 0 := by
  unfold commonIndent
  rcases h.flush with hblank | ⟨l, hl, htext, hindent⟩
  · have hnone : d.lines.filter (fun l => Text.trim l != []) = [] := by
      refine List.filter_eq_nil_iff.mpr fun l hl => ?_
      simp [hblank l hl]
    rw [hnone]
    rfl
  · refine least_eq_zero (List.mem_map.mpr ⟨l, List.mem_filter.mpr ⟨hl, ?_⟩, hindent⟩)
    simpa using htext

/-- The step comes back as it is, and its handler accepts its arguments. -/
structure StepDraft.Writable {W : Type} (reg : Registry W) (s : StepDraft) : Prop where
  text : s.text.Inline
  doc : ∀ d ∈ s.doc, d.Writable
  accepted : ∃ m, reg.OnlyMatch s.text m ∧ ∀ d, reg.definitions[m.handler]? = some d →
    Arity.check s.text d.handler.shapes
      (m.captures ++ (s.doc.map DocDraft.text).toList).length = .ok ()

/-- Every `And` has the keyword of the step before it; the first step comes after one with the given
keyword, or after none. -/
def StepDraft.Continue : Option Keyword → List StepDraft → Prop
  | _, [] => True
  | before, s :: rest =>
    (s.conjunction = true → before = some s.keyword) ∧ Continue (some s.keyword) rest

/-- The background or scenario comes back as it is. -/
structure SectionDraft.Writable {W : Type} (reg : Registry W) (c : SectionDraft) : Prop where
  name : c.name.Inline
  steps : ∀ s ∈ c.steps, s.Writable reg
  continuing : StepDraft.Continue none c.steps

/-- The draft comes back as it is. -/
structure Draft.Writable {W : Type} (reg : Registry W) (d : Draft) : Prop where
  name : ∀ name ∈ d.name, name ≠ [] ∧ name.Inline
  /-- Free text stands under a name only. -/
  named : d.narrative ≠ [] → d.name.isSome = true
  narrative : ∀ l ∈ d.narrative, l.Inline ∧
    ((∃ word, LineKind.ofLine l = .other word) ∨ ∃ text, LineKind.ofLine l = .conjunction text)
  background : ∀ b ∈ d.background, b.Writable reg
  scenarios : ∀ c ∈ d.scenarios, c.Writable reg

/-! ## Written drafts are lines -/

/-- A keyword and a text that can be written after it are a line. -/
theorem Text.Inline.isLine_word {word t : Text} (hword : Text.IsLine (word ++ [' ']))
    (ht : t.Inline) : Text.IsLine (word ++ ' ' :: t) := by
  rw [List.append_cons]
  exact hword.append ht.isLine

theorem DocDraft.Writable.isLine_write {d : DocDraft} (h : d.Writable) :
    ∀ l ∈ d.write, Text.IsLine l := by
  have hdelimiter : Text.IsLine d.delimiter := (Text.isLine_spaces _).append (by decide)
  intro l hl
  rcases List.mem_cons.mp hl with rfl | hl
  · exact hdelimiter
  · rcases List.mem_append.mp hl with hl | hl
    · obtain ⟨line, hline, rfl⟩ := List.mem_map.mp hl
      exact (Text.isLine_spaces _).append (h.isLine line hline)
    · exact List.mem_singleton.mp hl ▸ hdelimiter

theorem StepDraft.Writable.isLine_write {W : Type} {reg : Registry W} {s : StepDraft}
    (h : s.Writable reg) : ∀ l ∈ s.write, Text.IsLine l := by
  have hword : Text.IsLine (s.word ++ [' ']) := by
    unfold StepDraft.word
    split
    next => decide
    next => cases s.keyword <;> decide
  intro l hl
  rcases List.mem_cons.mp hl with rfl | hl
  · exact (Text.isLine_spaces _).append (h.text.isLine_word hword)
  · cases hdoc : s.doc with
    | none =>
      rw [hdoc] at hl
      exact absurd hl (by simp)
    | some doc =>
      rw [hdoc] at hl
      exact (h.doc doc (by rw [hdoc]; rfl)).isLine_write l hl

theorem SectionDraft.Writable.isLine_write {W : Type} {reg : Registry W} {c : SectionDraft}
    (h : c.Writable reg) {keyword : Text} (hkeyword : Text.IsLine (keyword ++ [' '])) :
    ∀ l ∈ c.write keyword, Text.IsLine l := by
  intro l hl
  rcases List.mem_cons.mp hl with rfl | hl
  · exact h.name.isLine_word hkeyword
  · obtain ⟨s, hs, hl⟩ := List.mem_flatMap.mp hl
    exact (h.steps s hs).isLine_write l hl

/-- Everything that is written for a draft is a line. -/
theorem Draft.Writable.isLine_write {W : Type} {reg : Registry W} {d : Draft} (h : d.Writable reg) :
    ∀ l ∈ d.writeName ++ (d.writeBackground ++ d.writeScenarios), Text.IsLine l := by
  have hblank : Text.IsLine [] := by decide
  rw [List.forall_mem_append, List.forall_mem_append]
  refine ⟨?_, ?_, ?_⟩
  · unfold writeName
    cases hname : d.name with
    | none => simp
    | some name =>
      have hinline : name.Inline := (h.name name (by rw [hname]; rfl)).2
      refine List.forall_mem_cons.mpr ⟨hinline.isLine_word (by decide), ?_⟩
      refine List.forall_mem_append.mpr ⟨?_, List.forall_mem_singleton.mpr hblank⟩
      intro l hl
      exact (h.narrative l hl).1.isLine
  · unfold writeBackground
    cases hbackground : d.background with
    | none => simp
    | some b =>
      have hb : b.Writable reg := h.background b (by rw [hbackground]; rfl)
      refine List.forall_mem_append.mpr ⟨?_, List.forall_mem_singleton.mpr hblank⟩
      exact hb.isLine_write (by decide)
  · intro l hl
    obtain ⟨c, hc, hl⟩ := List.mem_flatMap.mp hl
    exact (h.scenarios c hc).isLine_write (by decide) l hl

/-- **The lines of a printed draft are those that were written.** -/
theorem Draft.Writable.lines_print {W : Type} {reg : Registry W} {d : Draft}
    (h : d.Writable reg) :
    Text.lines d.print = d.writeName ++ (d.writeBackground ++ d.writeScenarios) :=
  Text.lines_unlines h.isLine_write

/-! ## What is written -/

/-- What a step says. -/
structure StepOutline where
  keyword : Keyword
  conjunction : Bool
  text : Text
  docString : Option Text
  deriving DecidableEq, Repr

/-- What an item says. -/
inductive ItemOutline where
  | marker (kind : Section) (name : Text)
  | step (s : StepOutline)
  deriving DecidableEq, Repr

/-- What a feature says. -/
structure Outline where
  name : Option Text
  narrative : List Text
  background : Option (Text × List StepOutline)
  items : List ItemOutline
  deriving DecidableEq, Repr

/-- What the step says. -/
def Step.outline (s : Step) : StepOutline :=
  { keyword := s.keyword, conjunction := s.conjunction, text := s.text, docString := s.docString }

/-- What the item says. -/
def Item.outline : Item → ItemOutline
  | .marker m => .marker m.kind m.name
  | .step s => .step s.outline

/-- What the feature says. -/
def Feature.outline (f : Feature) : Outline :=
  { name := f.name
    narrative := f.narrative
    background := f.background.map fun b => (b.name, b.steps.map Step.outline)
    items := f.items.map Item.outline }

/-- What the step is to say. -/
def StepDraft.outline (s : StepDraft) : StepOutline :=
  { keyword := s.keyword
    conjunction := s.conjunction
    text := s.text
    docString := s.doc.map DocDraft.text }

/-- What the scenario is to say. -/
def SectionDraft.outline (c : SectionDraft) : List ItemOutline :=
  .marker .scenario c.name :: (c.steps.map StepDraft.outline).map .step

/-- What the draft is to say. -/
def Draft.outline (d : Draft) : Outline :=
  { name := d.name
    narrative := d.narrative
    background := d.background.map fun b => (b.name, b.steps.map StepDraft.outline)
    items := d.scenarios.flatMap SectionDraft.outline }

/-! ## How the written lines are recognised -/

namespace LineKind

variable {t : Text}

/-- A line of a keyword and a trimmed text is recognised by the keyword, also where there is no text
and the space after the keyword is trimmed away. -/
theorem ofLine_trim_word (word : Text) (kind : Text → LineKind) (hword : word.Trimmed)
    (hne : word ≠ []) (hnil : ofLine word = kind []) (hcons : ofLine (word ++ ' ' :: t) = kind t)
    (ht : t.Trimmed) (n : Nat) :
    ofLine (Text.trim (Text.spaces n ++ (word ++ ' ' :: t))) = kind t := by
  rw [Text.trim_word_append hword hne ht]
  split
  next h =>
    rw [h]
    exact hnil
  next => exact hcons

/-- A space before a trimmed text is trimmed away. -/
theorem trim_space_cons (ht : t.Trimmed) : Text.trim (' ' :: t) = t :=
  (Text.trim_spaces_append 1 t).trans ht

/-- A line that names something is recognised, whether there is a name or not. -/
theorem ofLine_written_name (word : Text) (kind : Text → LineKind) (hword : word.Trimmed)
    (hne : word ≠ []) (hnil : ofLine word = kind [])
    (hcons : ∀ u, ofLine (word ++ ' ' :: u) = kind (Text.trim (' ' :: u))) (ht : t.Trimmed) :
    ofLine (Text.trim (word ++ ' ' :: t)) = kind t := by
  have hname : ofLine (word ++ ' ' :: t) = kind t := by rw [hcons, trim_space_cons ht]
  exact ofLine_trim_word word kind hword hne hnil hname ht 0

theorem ofLine_written_feature (ht : t.Trimmed) :
    ofLine (Text.trim ("Feature:".toList ++ ' ' :: t)) = .feature t :=
  ofLine_written_name "Feature:".toList .feature rfl (List.cons_ne_nil _ _) rfl (fun _ => rfl) ht

theorem ofLine_written_background (ht : t.Trimmed) :
    ofLine (Text.trim ("Background:".toList ++ ' ' :: t)) = .background t :=
  ofLine_written_name "Background:".toList .background rfl (List.cons_ne_nil _ _) rfl
    (fun _ => rfl) ht

theorem ofLine_written_scenario (ht : t.Trimmed) :
    ofLine (Text.trim ("Scenario:".toList ++ ' ' :: t)) = .scenario t :=
  ofLine_written_name "Scenario:".toList .scenario rfl (List.cons_ne_nil _ _) rfl (fun _ => rfl) ht

/-- A step is recognised with its keyword, or as one that continues. -/
theorem ofLine_written_step (s : StepDraft) (ht : s.text.Trimmed) :
    ofLine (Text.trim s.line)
      = if s.conjunction then .conjunction s.text else .step s.keyword s.text := by
  unfold StepDraft.line StepDraft.word
  by_cases hconjunction : s.conjunction = true
  · rw [if_pos hconjunction, if_pos hconjunction]
    have hcons : ofLine ("And".toList ++ ' ' :: s.text) = .conjunction s.text := by
      show LineKind.conjunction (Text.trimStart s.text) = .conjunction s.text
      rw [ht.trimStart_eq]
    exact ofLine_trim_word "And".toList .conjunction rfl (List.cons_ne_nil _ _) rfl hcons ht _
  · rw [if_neg hconjunction, if_neg hconjunction]
    have hcons : ofLine (s.keyword.display ++ ' ' :: s.text) = .step s.keyword s.text := by
      rw [ofLine_step, ht.trimStart_eq]
    refine ofLine_trim_word s.keyword.display (.step s.keyword) ?_ ?_ ?_ hcons ht _
    · cases s.keyword <;> rfl
    · cases s.keyword <;> exact List.cons_ne_nil _ _
    · cases s.keyword <;> rfl

/-- The line that begins or ends a doc string is recognised. -/
theorem ofLine_written_delimiter (d : DocDraft) :
    ofLine (Text.trim d.delimiter) = .delimiter := by
  unfold DocDraft.delimiter
  rw [Text.trim_spaces_append]
  rfl

end LineKind

end Gherkin
