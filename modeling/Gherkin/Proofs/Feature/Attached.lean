import Gherkin.Proofs.Feature.Account
import Gherkin.Proofs.Feature.DocString
import Gherkin.Proofs.Feature.Faulty

/-!
# Which step a doc string reaches

A doc string belongs to the last step before it, unless a marker or other quotes come between
(`TextLine.Attached`). The reading keeps that step by its place among the items or in the
background, and the place changes when the background is moved, perhaps while a doc string is still
to come.

`DocLog` follows the lines alone: the line of the last step, the block that is being read, and the
texts that lines have got. `Reading.Documents` compares a reading with it, step by step and line by
line, and says that a step has the text of its line and nothing else after its captures. What the
log of a whole text gives to a line is `docStringAfter?` of the lines after it
(`DocLog.mem_docs_ofLines`). Together that is `Feature.documented_of_read`.
-/

namespace Gherkin

/-! ## The lines -/

/-- Whether no doc string after the line belongs to a step before it. -/
def Role.parts : Role → Bool
  | .delimiter | .step _ _ | .background _ | .scenario _ => true
  | .blank | .comment | .verbatim | .feature _ | .narrative _ | .stray => false

namespace TextLine

/-- The text of the doc string with the lines that the quotes begin. -/
def docText (quotes : TextLine) (body : List TextLine) : Text :=
  (DocString.ofLines (Text.indent quotes.raw) (none : Option Unit) (body.map TextLine.raw)).text

/-- **The doc string goes to the step on line `n`**: between the step and the quotes there is no
other step, no marker and no other quotes, and it goes on to the next quotes or to the end. -/
def Attached (ls : List TextLine) (n : Nat) (doc : Text) : Prop :=
  ∃ (before : List TextLine) (l : TextLine) (between : List TextLine) (quotes : TextLine)
    (body rest : List TextLine),
    ls = before ++ l :: (between ++ quotes :: (body ++ rest)) ∧
      l.line = n ∧ (∃ keyword text, l.role = .step keyword text) ∧
      (∀ m ∈ between, m.role.parts = false) ∧ quotes.role = .delimiter ∧
      (∀ m ∈ body, m.role ≠ .delimiter) ∧ (∀ m ∈ rest.head?, m.role = .delimiter) ∧
      doc = docText quotes body

/-- The lines up to the next quotes. -/
def upToQuotes (ls : List TextLine) : List TextLine := ls.takeWhile fun l => l.role ≠ .delimiter

/-- The doc string that a step has, by the lines after it. -/
def docStringAfter? : List TextLine → Option Text
  | [] => none
  | l :: rest =>
    if l.role = .delimiter then some (docText l (upToQuotes rest))
    else if l.role.parts then none
    else docStringAfter? rest

/-- Lines are those up to the next quotes if they have none and nothing else comes before them. -/
theorem upToQuotes_append {body rest : List TextLine} (hbody : ∀ m ∈ body, m.role ≠ .delimiter)
    (hrest : ∀ m ∈ rest.head?, m.role = .delimiter) : upToQuotes (body ++ rest) = body := by
  unfold upToQuotes
  rw [List.takeWhile_append_of_pos (by simpa using hbody)]
  cases rest with
  | nil => exact List.append_nil body
  | cons m rest =>
    have hquotes : m.role = .delimiter := hrest m rfl
    rw [List.takeWhile_cons_of_neg (by simp [hquotes]), List.append_nil]

theorem exists_upToQuotes (ls : List TextLine) :
    ∃ rest, ls = upToQuotes ls ++ rest ∧ (∀ m ∈ upToQuotes ls, m.role ≠ .delimiter) ∧
      ∀ m ∈ rest.head?, m.role = .delimiter := by
  refine ⟨_, List.takeWhile_append_dropWhile.symm, ?_, ?_⟩
  · intro m hm
    exact of_decide_eq_true
      (List.mem_takeWhile_imp (p := fun l : TextLine => decide (l.role ≠ .delimiter)) hm)
  · intro m hm
    have hnot := List.head?_dropWhile_not (fun l : TextLine => decide (l.role ≠ .delimiter)) ls
    rw [Option.mem_def.mp hm] at hnot
    simpa using hnot

/-- **What comes after a step gives it the doc string of which it is the last step.** -/
theorem docStringAfter?_eq_some_iff {ls : List TextLine} {doc : Text} :
    docStringAfter? ls = some doc ↔
      ∃ (between : List TextLine) (quotes : TextLine) (body rest : List TextLine),
        ls = between ++ quotes :: (body ++ rest) ∧ (∀ m ∈ between, m.role.parts = false) ∧
          quotes.role = .delimiter ∧ (∀ m ∈ body, m.role ≠ .delimiter) ∧
          (∀ m ∈ rest.head?, m.role = .delimiter) ∧ doc = docText quotes body := by
  constructor
  · intro h
    induction ls with
    | nil => exact absurd h (by simp [docStringAfter?])
    | cons l ls ih =>
      unfold docStringAfter? at h
      split at h
      next hquotes =>
        obtain ⟨rest, hsplit, hbody, hrest⟩ := exists_upToQuotes ls
        exact ⟨[], l, upToQuotes ls, rest, congrArg (l :: ·) hsplit, by simp, hquotes, hbody, hrest,
          (Option.some.inj h).symm⟩
      next =>
        split at h
        next => exact absurd h (by simp)
        next hparts =>
          obtain ⟨between, quotes, body, rest, rfl, hbetween, hothers⟩ := ih h
          refine ⟨l :: between, quotes, body, rest, rfl, ?_, hothers⟩
          exact List.forall_mem_cons.mpr ⟨by simpa using hparts, hbetween⟩
  · rintro ⟨between, quotes, body, rest, rfl, hbetween, hquotes, hbody, hrest, rfl⟩
    induction between with
    | nil =>
      rw [List.nil_append, docStringAfter?, if_pos hquotes, upToQuotes_append hbody hrest]
    | cons l between ih =>
      obtain ⟨hparts, hbetween⟩ := List.forall_mem_cons.mp hbetween
      have hl : l.role ≠ .delimiter := by
        intro hquotes
        rw [hquotes] at hparts
        exact absurd hparts (by simp [Role.parts])
      rw [List.cons_append, docStringAfter?, if_neg hl, if_neg (by simp [hparts])]
      exact ih hbetween

end TextLine

/-- Outside doc strings one begins with quotes. -/
theorem Place.next_eq_docString_iff {p : Place} (h : p ≠ .docString) {role : Role} :
    p.next role = .docString ↔ role = .delimiter := by
  cases p with
  | docString => exact absurd rfl h
  | _ => cases role <;> simp [next]

/-! ## The log of the lines -/

/-- The doc strings of the lines so far. -/
structure DocLog where
  /-- The line of the step that a doc string would belong to. -/
  last : Option Nat := none
  /-- The doc string that is being read, for the step on a line. -/
  block : Option (DocString Nat) := none
  /-- The texts that have ended, with the lines of their steps. -/
  docs : List (Nat × Text) := []

namespace DocLog

open TextLine

/-- A doc string that ends goes to the step it belongs to. No step is before another one. -/
def endBlock (o : DocLog) : DocLog :=
  match o.block with
  | none => o
  | some b =>
    { last := none
      block := none
      docs := o.docs ++ (b.target.map fun n => (n, b.text)).toList }

/-- One more line where no doc string is being read. -/
def addOutside (o : DocLog) (l : TextLine) : DocLog :=
  match l.role with
  | .delimiter => { o with block := some { column := Text.indent l.raw, target := o.last } }
  | .step _ _ => { o with last := some l.line }
  | .background _ | .scenario _ => { o with last := none }
  | .blank | .comment | .verbatim | .feature _ | .narrative _ | .stray => o

/-- One more line. -/
def add (o : DocLog) (l : TextLine) : DocLog :=
  match o.block with
  | some b => if l.role = .delimiter then o.endBlock else { o with block := some (b.push l.raw) }
  | none => o.addOutside l

/-- The doc strings of the lines. -/
def ofLines (ls : List TextLine) : DocLog := ls.foldl add {}

/-- The line of the step that the next text goes to, if no line comes between. -/
def next? (o : DocLog) : Option Nat :=
  match o.block with
  | some b => b.target
  | none => o.last

/-- The text that the lines to come give to line `n`. -/
def given? (o : DocLog) (n : Nat) (rest : List TextLine) : Option Text :=
  match o.block with
  | some b =>
    if b.target = some n then
      some (((upToQuotes rest).map TextLine.raw).foldl DocString.push b).text
    else none
  | none => if o.last = some n then docStringAfter? rest else none

variable {o : DocLog} {n : Nat} {doc : Text} {l : TextLine} {rest : List TextLine}

theorem endBlock_of_none (h : o.block = none) : o.endBlock = o := by
  unfold endBlock
  rw [h]

theorem endBlock_of_some {b : DocString Nat} (h : o.block = some b) :
    o.endBlock
      = { last := none, block := none
          docs := o.docs ++ (b.target.map fun n => (n, b.text)).toList } := by
  unfold endBlock
  rw [h]

theorem add_of_some {b : DocString Nat} (h : o.block = some b) :
    o.add l
      = if l.role = .delimiter then o.endBlock else { o with block := some (b.push l.raw) } := by
  unfold add
  rw [h]

theorem add_of_none (h : o.block = none) : o.add l = o.addOutside l := by
  unfold add
  rw [h]

/-- A text that ends is one more. -/
theorem mem_docs_endBlock :
    (n, doc) ∈ o.endBlock.docs ↔
      (n, doc) ∈ o.docs ∨ ∃ b, o.block = some b ∧ b.target = some n ∧ b.text = doc := by
  cases hblock : o.block with
  | none =>
    rw [endBlock_of_none hblock]
    simp
  | some b =>
    rw [endBlock_of_some hblock, List.mem_append]
    refine or_congr Iff.rfl ?_
    simp

/-- Doc strings with the same lines have the same text, whatever they belong to. -/
theorem docText_eq {quotes : TextLine} {body : List TextLine} {target : Option Nat} :
    ((body.map TextLine.raw).foldl DocString.push
        { column := Text.indent quotes.raw, target }).text = docText quotes body :=
  (DocString.text_ofLines_eq ..).trans (DocString.text_ofLines_eq ..).symm

/-- **More lines give a text to no line before them but that of the last step.** -/
theorem mem_docs_foldl_add (hrest : ∀ l ∈ rest, l.line ≠ n) (o : DocLog) :
    (n, doc) ∈ (rest.foldl add o).endBlock.docs ↔
      (n, doc) ∈ o.docs ∨ o.given? n rest = some doc := by
  induction rest generalizing o with
  | nil =>
    rw [List.foldl_nil, mem_docs_endBlock]
    unfold given?
    cases o.block with
    | none => simp [docStringAfter?]
    | some b => simp [upToQuotes]
  | cons l rest ih =>
    obtain ⟨hl, hrest⟩ := List.forall_mem_cons.mp hrest
    rw [List.foldl_cons, ih hrest]
    cases hblock : o.block with
    | some b =>
      rw [add_of_some hblock]
      by_cases hquotes : l.role = .delimiter
      · -- the block ends with the lines it has, and no step is before what comes after it
        rw [if_pos hquotes, mem_docs_endBlock, endBlock_of_some hblock]
        unfold given?
        rw [hblock]
        simp [upToQuotes, hquotes]
      · rw [if_neg hquotes]
        unfold given?
        rw [hblock]
        simp [upToQuotes, hquotes, DocString.push]
    | none =>
      rw [add_of_none hblock]
      unfold addOutside given?
      rw [hblock]
      cases hrole : l.role with
      | delimiter =>
        simp only [docStringAfter?, hrole, if_true]
        rw [docText_eq]
      | step keyword text => simp [docStringAfter?, hrole, Role.parts, hl]
      | background name => simp [docStringAfter?, hrole, Role.parts]
      | scenario name => simp [docStringAfter?, hrole, Role.parts]
      | _ => simp [docStringAfter?, hrole, Role.parts, hblock]

/-- A block is being read exactly where the next line stands in a doc string. -/
theorem isSome_block_add {s : Site} {line : Nat} {raw : Text}
    (h : o.block.isSome = decide (s.place = .docString)) :
    (o.add { line, role := s.role raw, raw }).block.isSome
      = decide ((s.next (s.role raw)).place = .docString) := by
  rw [Site.place_next]
  cases hblock : o.block with
  | some b =>
    have hplace : s.place = .docString := of_decide_eq_true (h.symm.trans (by rw [hblock]; rfl))
    rw [add_of_some hblock, Site.role_of_docString hplace, hplace]
    by_cases hkind : LineKind.ofLine (Text.trim raw) = .delimiter
    · rw [Place.role_docString hkind, if_pos rfl, endBlock_of_some hblock]
      rfl
    · rw [Place.role_docString_of_ne hkind, if_neg (by simp)]
      rfl
  | none =>
    have hplace : s.place ≠ .docString := of_decide_eq_false (h.symm.trans (by rw [hblock]; rfl))
    -- outside only quotes begin a block
    have hnext : decide (s.place.next (s.role raw) = .docString)
        = decide (s.role raw = .delimiter) :=
      decide_eq_decide.mpr (Place.next_eq_docString_iff hplace)
    rw [hnext, add_of_none hblock]
    unfold addOutside
    dsimp only
    cases s.role raw <;> simp [hblock]

/-- A step stands in no doc string. -/
theorem block_eq_none_of_step {s : Site} {line : Nat} {lines : List Text} {before : List TextLine}
    (hsplit : TextLine.ofLines s line lines = before ++ l :: rest)
    (hstep : ∃ keyword text, l.role = .step keyword text)
    (h : o.block.isSome = decide (s.place = .docString)) :
    (before.foldl add o).block = none := by
  induction before generalizing s line lines o with
  | nil =>
    cases lines with
    | nil => exact absurd hsplit (by simp [TextLine.ofLines])
    | cons raw lines =>
      obtain ⟨rfl, -⟩ := List.cons.inj hsplit
      obtain ⟨keyword, text, hrole⟩ := hstep
      have hplace : s.place ≠ .docString := by
        intro hplace
        have hrole : s.role raw = .step keyword text := hrole
        rw [Site.role_of_docString hplace] at hrole
        have hkind := Place.kind_of_role_step hrole
        rw [Place.role_docString_of_ne] at hrole
        · exact absurd hrole (by simp)
        · rw [hkind]
          cases keyword <;> simp
      rw [decide_eq_false hplace] at h
      simpa using h
  | cons first before ih =>
    cases lines with
    | nil => exact absurd hsplit (by simp [TextLine.ofLines])
    | cons raw lines =>
      obtain ⟨rfl, hrest⟩ := List.cons.inj hsplit
      exact ih hrest (isSome_block_add h)

/-- **The lines after a step give it its doc string.** -/
theorem mem_docs_ofLines {text : Text} {before : List TextLine}
    (hsplit : TextLine.ofText text = before ++ l :: rest)
    (hstep : ∃ keyword text, l.role = .step keyword text) :
    (l.line, doc) ∈ (ofLines (TextLine.ofText text)).endBlock.docs ↔
      docStringAfter? rest = some doc := by
  obtain ⟨hbefore, hrest⟩ := TextLine.line_ne_of_split hsplit
  have hnone : (before.foldl add {}).block = none :=
    block_eq_none_of_step hsplit hstep rfl
  -- no text before the step is that of its line
  have hnew : (l.line, doc) ∉ (before.foldl add {}).docs := by
    intro hmem
    have hended := (mem_docs_foldl_add hbefore {}).mp (mem_docs_endBlock.mpr (Or.inl hmem))
    exact absurd hended (by simp [given?])
  unfold ofLines
  rw [hsplit, List.foldl_append, List.foldl_cons, mem_docs_foldl_add hrest]
  generalize before.foldl add {} = o at hnone hnew ⊢
  obtain ⟨keyword, text, hrole⟩ := hstep
  have hadd : o.add l = { o with last := some l.line } := by
    rw [add_of_none hnone, addOutside, hrole]
  have hgiven : (o.add l).given? l.line rest = docStringAfter? rest := by
    rw [hadd]
    unfold given?
    rw [hnone]
    exact if_pos rfl
  rw [hgiven, hadd]
  exact or_iff_right hnew

/-- The line of the next text is one of those so far, and has none yet. -/
structure Fresh (o : DocLog) (n : Nat) : Prop where
  below : ∀ d ∈ o.docs, d.1 < n
  next : ∀ k, o.next? = some k → k < n ∧ ∀ doc, (k, doc) ∉ o.docs

namespace Fresh

theorem mono (h : o.Fresh n) : o.Fresh (n + 1) where
  below d hd := Nat.lt_succ_of_lt (h.below d hd)
  next k hk := ⟨Nat.lt_succ_of_lt (h.next k hk).1, (h.next k hk).2⟩

theorem endBlock (h : o.Fresh n) : o.endBlock.Fresh n := by
  cases hblock : o.block with
  | none =>
    rw [endBlock_of_none hblock]
    exact h
  | some b =>
    refine ⟨?_, ?_⟩
    · rintro ⟨k, doc⟩ hd
      rcases mem_docs_endBlock.mp hd with hold | ⟨b', hb', htarget, -⟩
      · exact h.below _ hold
      · refine (h.next k ?_).1
        unfold next?
        rw [hb']
        exact htarget
    · intro k hk
      rw [endBlock_of_some hblock] at hk
      exact absurd hk (by simp [next?])

/-- Only a step makes another line the one of the next text. -/
theorem add (h : o.Fresh l.line) : (o.add l).Fresh (l.line + 1) := by
  cases hblock : o.block with
  | some b =>
    rw [add_of_some hblock]
    split
    next => exact h.endBlock.mono
    next =>
      have hnext : o.next? = b.target := by
        unfold next?
        rw [hblock]
      refine mono ⟨h.below, fun k hk => h.next k ?_⟩
      exact hnext.trans hk
  | none =>
    have hnext : o.next? = o.last := by
      unfold next?
      rw [hblock]
    have hsame : o.Fresh (l.line + 1) := h.mono
    have hforget : ({ o with last := none } : DocLog).Fresh (l.line + 1) := by
      refine ⟨hsame.below, fun k hk => ?_⟩
      unfold next? at hk
      rw [hblock] at hk
      exact absurd hk (by simp)
    rw [add_of_none hblock]
    unfold addOutside
    cases l.role with
    | delimiter => exact ⟨hsame.below, fun k hk => hsame.next k (hnext.trans hk)⟩
    | step keyword text =>
      -- no text so far is that of a line as late as this one
      refine ⟨hsame.below, fun k hk => ?_⟩
      unfold next? at hk
      rw [hblock] at hk
      obtain rfl : l.line = k := Option.some.inj hk
      exact ⟨Nat.lt_succ_self _, fun doc hd => Nat.lt_irrefl _ (h.below _ hd)⟩
    | background name => exact hforget
    | scenario name => exact hforget
    | _ => exact hsame

end Fresh

end DocLog

/-! ## The steps -/

/-- The doc string with its step named in another way. -/
def DocString.locate {α β : Type} (f : α → Option β) (b : DocString α) : DocString β :=
  { column := b.column, target := b.target.bind f, lines := b.lines }

/-- The step has its captures for arguments, and after them the text of its line, if it has one. -/
structure Step.Documented (docs : List (Nat × Text)) (s : Step) : Prop where
  arguments : s.arguments = s.found.captures ++ s.docString.toList
  docString : ∀ doc, s.docString = some doc ↔ (s.line, doc) ∈ docs

namespace Step.Documented

variable {docs : List (Nat × Text)} {s : Step} {n : Nat} {doc : Text}

/-- A step that gets the first text of its line. -/
theorem withDocString (h : s.Documented docs) (hnew : ∀ doc, (s.line, doc) ∉ docs) :
    (s.withDocString doc).Documented (docs ++ [(s.line, doc)]) where
  arguments := by
    have hnone : s.docString = none := Option.eq_none_iff_forall_ne_some.mpr fun doc hdoc =>
      hnew doc ((h.docString doc).mp hdoc)
    show s.arguments ++ [doc] = s.found.captures ++ [doc]
    rw [h.arguments, hnone, Option.toList_none, List.append_nil]
  docString doc' := by
    show some doc = some doc' ↔ (s.line, doc') ∈ docs ++ [(s.line, doc)]
    simp [hnew doc', eq_comm]

/-- The text of another line is not its text. -/
theorem append (h : s.Documented docs) (hne : s.line ≠ n) : s.Documented (docs ++ [(n, doc)]) where
  arguments := h.arguments
  docString doc' := (h.docString doc').trans (by simp [hne])

end Step.Documented

namespace Reading

variable {W : Type} {reg : Registry W} {r r' : Reading} {s : Site} {line n : Nat} {raw text : Text}
  {kind : LineKind} {remark : Option Remark} {o : DocLog} {own : Ownership}

/-- The doc strings of the reading are those of the lines. -/
structure Documents (o : DocLog) (r : Reading) : Prop where
  steps : ∀ s ∈ r.stepsRead, s.Documented o.docs
  last : r.docString = none → r.lastStep.bind r.lineAt = o.last
  block : o.block = r.docString.map (DocString.locate r.lineAt)

namespace Documents

/-- Before the first line. -/
theorem initial : Documents {} {} where
  steps := by simp [stepsRead]
  last _ := rfl
  block := rfl

theorem block_eq_none (h : r.Documents o) (hdoc : r.docString = none) : o.block = none := by
  rw [h.block, hdoc]
  rfl

theorem block_eq_some (h : r.Documents o) {block : DocString StepPlace}
    (hblock : r.docString = some block) : o.block = some (block.locate r.lineAt) := by
  rw [h.block, hblock]
  rfl

/-- Only the steps and where they stand matter. -/
theorem congr (h : r.Documents o) (hbackground : r'.background = r.background)
    (hitems : r'.items = r.items) (hdoc : r'.docString = r.docString)
    (hlast : r'.lastStep = r.lastStep) : r'.Documents o := by
  have hlineAt : r'.lineAt = r.lineAt := by
    funext p
    unfold lineAt
    rw [hitems, hbackground]
  have hsteps : r'.stepsRead = r.stepsRead := by
    unfold stepsRead
    rw [hitems, hbackground]
  refine ⟨hsteps ▸ h.steps, ?_, ?_⟩
  · rw [hdoc, hlast, hlineAt]
    exact h.last
  · rw [hdoc, hlineAt]
    exact h.block

/-- **A doc string that ends goes to the step of its line**, and to no other. -/
theorem endDocString (h : r.Documents o) (howns : Owns own n r) (hfresh : o.Fresh n)
    {block : DocString StepPlace} (hblock : r.docString = some block) :
    r.endDocString.Documents o.endBlock := by
  have hlog := h.block_eq_some hblock
  have hended : r.endDocString.lastStep = none := by
    rw [endDocString_of_some hblock]
  refine ⟨?_, ?_, ?_⟩
  · rw [endDocString_of_some hblock, DocLog.endBlock_of_some hlog]
    intro s hs
    cases hp : block.target with
    | none =>
      have hnone : (block.locate r.lineAt).target = none := by
        unfold DocString.locate
        rw [hp]
        rfl
      rw [hp] at hs
      rw [hnone, Option.map_none, Option.toList_none, List.append_nil]
      exact h.steps s hs
    | some p =>
      have htarget : r.target = some p := by
        unfold target
        rw [hblock]
        exact hp
      obtain ⟨k, hk⟩ := Option.isSome_iff_exists.mp (howns.placed p htarget)
      have hlogTarget : (block.locate r.lineAt).target = some k := by
        unfold DocString.locate
        rw [hp]
        exact hk
      have hnew : ∀ doc, (k, doc) ∉ o.docs := by
        refine (hfresh.next k ?_).2
        unfold DocLog.next?
        rw [hlog]
        exact hlogTarget
      rw [hp] at hs
      rw [hlogTarget, Option.map_some, Option.toList_some]
      rcases mem_stepsRead_attach
        (r := { r with modes := r.modesAfterDocString, docString := none }) howns.distinct hk hs
        with ⟨s, hmem, rfl, rfl⟩ | ⟨hmem, hne⟩
      · exact (h.steps s hmem).withDocString hnew
      · exact (h.steps s hmem).append hne
  · intro _
    rw [hended, DocLog.endBlock_of_some hlog]
    rfl
  · rw [docString_endDocString, DocLog.endBlock_of_some hlog]
    rfl

/-- A background that ends keeps its steps, and the last of them its line. -/
theorem endBackground (h : r.Documents o) (howns : Owns own n r) (hdoc : r.docString = none)
    (hopened : r.openBackground.isSome = (aroundBackground? r.modes).isSome) :
    r.endBackground.Documents o := by
  obtain ⟨_, _, _, _, _, hsame⟩ := r.endBackground_eq_with
  have hdoc' : r.endBackground.docString = none := by
    rw [hsame]
    exact hdoc
  refine ⟨fun s hs => h.steps s ((howns.perm_endBackground hopened).mem_iff.mp hs), ?_, ?_⟩
  · intro _
    rw [(howns.endBackground hdoc hopened).line_last hdoc', ← howns.line_last hdoc]
    exact h.last hdoc
  · rw [hdoc', h.block_eq_none hdoc]
    rfl

/-- A marker parts what comes after it from the steps before it. -/
theorem mark (h : r.Documents o) (hdoc : r.docString = none) (kind : Section) (name : Text)
    (line : Nat) {modes : List Mode} {openBackground : Option Nat} :
    ({ r with modes, openBackground }.mark kind name line).Documents { o with last := none } where
  steps s hs := h.steps s (stepsRead_mark kind name line ▸ hs)
  last _ := rfl
  block := by
    show o.block = r.docString.map _
    rw [hdoc, h.block_eq_none hdoc]
    rfl

/-- A step that is found has its captures, no text yet, and is the last one. -/
theorem push (h : r.Documents o) (hfresh : o.Fresh line) (hdoc : r.docString = none)
    {modes : List Mode} {step : Step} (hline : step.line = line)
    (harguments : step.arguments = step.found.captures) (hnone : step.docString = none) :
    Documents { o with last := some line }
      { r with
        modes, lastStep := some (.item r.items.length), items := r.items ++ [.step step] } := by
  refine ⟨?_, ?_, ?_⟩
  · intro s hs
    have hsteps : Reading.stepsRead { r with
        modes, lastStep := some (.item r.items.length), items := r.items ++ [.step step] }
          = r.stepsRead ++ [step] := stepsRead_push rfl rfl
    rw [hsteps] at hs
    rcases List.mem_append.mp hs with hold | hnew
    · exact h.steps s hold
    · obtain rfl := List.mem_singleton.mp hnew
      refine ⟨?_, fun doc => ?_⟩
      · rw [harguments, hnone, Option.toList_none, List.append_nil]
      · -- no text is that of a line as late as the step
        have hnotin : (s.line, doc) ∉ o.docs := fun hmem =>
          Nat.lt_irrefl line (hline ▸ hfresh.below _ hmem)
        simp [hnone, hnotin]
  · intro _
    unfold lineAt
    simp [Item.step?, hline]
  · show o.block = r.docString.map _
    rw [hdoc, h.block_eq_none hdoc]
    rfl

/-- Quotes begin a doc string for the last step. -/
theorem begin (h : r.Documents o) (hdoc : r.docString = none) {modes : List Mode} {column : Nat} :
    Documents { o with block := some { column, target := o.last } }
      { r with modes, docString := some { column, target := r.lastStep } } where
  steps := h.steps
  last hnone := absurd hnone (by simp)
  block := by
    rw [← h.last hdoc]
    rfl

/-- A step that is read without a fault is found. -/
theorem step (h : r.Documents o) (hfresh : o.Fresh line) (hdoc : r.docString = none)
    {keyword : Keyword} {conjunction : Bool}
    (hmissing : (r.step reg line keyword conjunction text).1.missing = [])
    (hambiguous : (r.step reg line keyword conjunction text).1.ambiguous = []) :
    Documents { o with last := some line } (r.step reg line keyword conjunction text).1 := by
  cases hfind : reg.find text with
  | ok found =>
    rw [step_of_ok hfind]
    exact h.push hfresh hdoc rfl rfl rfl
  | error e =>
    cases e with
    | notFound =>
      rw [step_of_notFound hfind] at hmissing
      exact absurd hmissing (by simp)
    | ambiguous e =>
      rw [step_of_ambiguous hfind] at hambiguous
      exact absurd hambiguous (by simp)

/-- **A line outside is logged by its role.** -/
theorem readsOutside (h : r.Documents o) (howns : Owns own line r) (hfresh : o.Fresh line)
    (hat : r.At s) (hs : s.place = .outside)
    (hread : ReadsOutside reg line raw text r kind r' remark) (hmissing : r'.missing = [])
    (hambiguous : r'.ambiguous = []) :
    r'.Documents (o.add { line, role := r.mode.roleOf kind, raw }) := by
  have hdoc : r.docString = none := hat.docString_eq_none (hat.mode_ne_docString hs)
  have hended := h.endBackground howns hdoc hat.opened
  rw [DocLog.add_of_none (h.block_eq_none hdoc)]
  cases hread with
  | blank =>
    rw [Mode.roleOf_of_passes rfl]
    exact hended
  | comment =>
    rw [Mode.roleOf_of_passes rfl]
    exact h
  | beginDocString hmode =>
    rw [Mode.roleOf_of_ne hmode]
    exact h.begin hdoc
  | feature hname =>
    rw [Mode.roleOf_of_passes rfl]
    exact h.congr rfl rfl rfl rfl
  | background hclosed hopen =>
    rw [Mode.roleOf_of_passes rfl]
    exact h.mark hdoc _ _ _
  | scenario =>
    have hdoc' := (hat.endBackground hs).docString_eq_none
      ((hat.endBackground hs).mode_ne_docString rfl)
    rw [Mode.roleOf_of_passes rfl]
    exact hended.mark hdoc' _ _ _
  | step hmode =>
    rw [Mode.roleOf_of_ne hmode]
    exact h.step hfresh hdoc hmissing hambiguous
  | conjunction hkeyword =>
    rw [Mode.roleOf_of_ne (ne_examples_of_keyword? hkeyword)]
    exact h.step hfresh hdoc hmissing hambiguous
  | examples hmode =>
    rw [Mode.roleOf_of_ne hmode]
    exact h.congr rfl rfl rfl rfl
  | refused hmode hkind =>
    rw [hmode, Mode.roleOf_examples hkind]
    exact h.congr rfl rfl rfl rfl

/-- **Every line that is read is logged by its role**, if all steps so far are found. -/
theorem reads (h : r.Documents o) (howns : Owns own line r) (hfresh : o.Fresh line) (hat : r.At s)
    (hread : Reads reg line raw r r' remark) (hmissing : r'.missing = [])
    (hambiguous : r'.ambiguous = []) :
    r'.Documents (o.add { line, role := r.role raw, raw }) := by
  have hblock (hmode : r.mode = .docString) : ∃ block, r.docString = some block :=
    Option.isSome_iff_exists.mp (hat.reading.trans (decide_eq_true hmode))
  cases hread with
  | endDocString hmode hkind =>
    obtain ⟨block, hblock⟩ := hblock hmode
    rw [role_of_docString hmode, Place.role_docString hkind,
      DocLog.add_of_some (h.block_eq_some hblock), if_pos rfl]
    exact h.endDocString howns hfresh hblock
  | verbatim hmode hkind =>
    obtain ⟨block, hblock⟩ := hblock hmode
    rw [role_of_docString hmode, Place.role_docString_of_ne hkind,
      DocLog.add_of_some (h.block_eq_some hblock), if_neg (by simp)]
    refine ⟨h.steps, fun hnone => absurd hnone (by simp [hblock]), ?_⟩
    rw [hblock]
    rfl
  | narrative hmode hkind =>
    have hdoc := hat.docString_eq_none (by rw [hmode]; simp)
    rw [role_of_narrative hmode hkind, DocLog.add_of_none (h.block_eq_none hdoc)]
    exact h.congr rfl rfl rfl rfl
  | narrativeComment hmode hkind =>
    have hdoc := hat.docString_eq_none (by rw [hmode]; simp)
    rw [role_of_narrativeComment hmode hkind, DocLog.add_of_none (h.block_eq_none hdoc)]
    exact h
  | outside hdoc hfree hread =>
    have hleft : r.leaveNarrative.Documents o := by
      unfold leaveNarrative
      split
      next => exact h.congr rfl rfl rfl rfl
      next => exact h
    have howns' : Owns own line r.leaveNarrative := by
      unfold leaveNarrative
      split
      next => exact howns.congr rfl rfl rfl rfl Iff.rfl rfl
      next => exact howns
    rw [role_of_outside hdoc hfree]
    exact hleft.readsOutside howns' hfresh (hat.leaveNarrative hdoc) rfl hread hmissing hambiguous

/-- The end of the text ends the doc string and the background that are being read. -/
theorem close (h : r.Documents o) (howns : Owns own n r) (hfresh : o.Fresh n) (hat : r.At s) :
    ∀ s ∈ r.close.stepsRead, s.Documented o.endBlock.docs := by
  obtain ⟨q, s', hclose, hat', hdoc, hq⟩ := hat.exists_close
  rw [hclose]
  rcases hq with rfl | ⟨hmode, rfl⟩
  · rw [DocLog.endBlock_of_none (h.block_eq_none hdoc)]
    exact (h.endBackground howns hdoc hat'.opened).steps
  · have hreading := hat.reading.trans (decide_eq_true hmode)
    obtain ⟨block, hblock⟩ := Option.isSome_iff_exists.mp hreading
    have howns' := howns.endDocString (Option.isSome_iff_ne_none.mp hreading)
    exact ((h.endDocString howns hfresh hblock).endBackground howns' hdoc hat'.opened).steps

end Documents

/-- **All lines of a text are logged**, if all steps are found. -/
theorem documents_of_takeLines {lines : List Text} (h : takeLines reg {} 1 lines = .ok r)
    (hmissing : r.missing = []) (hambiguous : r.ambiguous = []) :
    r.Documents (.ofLines (TextLine.ofLines {} 1 lines)) ∧
      (DocLog.ofLines (TextLine.ofLines {} 1 lines)).Fresh (lines.length + 1) := by
  have hlogged := takeLines_induction
    (P := fun ls r => r.Documents (.ofLines ls) ∧ (DocLog.ofLines ls).Fresh (ls.length + 1)) ?_ h
    hmissing hambiguous rfl Surveys.initial ⟨.initial, by simp [DocLog.ofLines], ?_⟩
  · rwa [List.nil_append, TextLine.length_ofLines] at hlogged
  · intro s ls r r' raw remark hsurveys hr hread hmissing hambiguous
    obtain ⟨hr, hfresh⟩ := hr
    have hnext := hr.reads hsurveys.owns hfresh hsurveys.at_site hread hmissing hambiguous
    rw [hsurveys.role] at hnext
    have hadd (l : TextLine) : DocLog.ofLines (ls ++ [l]) = (DocLog.ofLines ls).add l :=
      List.foldl_append
    rw [hadd, List.length_append, List.length_singleton]
    exact ⟨hnext.congr rfl rfl rfl rfl, hfresh.add⟩
  · simp [DocLog.ofLines, DocLog.next?]

end Reading

/-- Which doc strings the steps of a feature have. -/
structure Feature.Documented (text : Text) (f : Feature) : Prop where
  /-- A step has its captures for arguments, and after them its doc string if it has one. -/
  arguments : ∀ s ∈ f.steps, s.arguments = s.found.captures ++ s.docString.toList
  /-- The doc string of a step is the one that is attached to its line. -/
  docString : ∀ s ∈ f.steps, ∀ doc,
    s.docString = some doc ↔ TextLine.Attached (TextLine.ofText text) s.line doc
  /-- A step without a doc string of its own has its captures only. -/
  bare : ∀ s ∈ f.steps, (∀ doc, ¬ TextLine.Attached (TextLine.ofText text) s.line doc) →
    s.docString = none ∧ s.arguments = s.found.captures
  /-- A doc string that is attached to a line reaches the step of the line. -/
  reached : ∀ n doc, TextLine.Attached (TextLine.ofText text) n doc →
    ∃ s ∈ f.steps, s.line = n ∧ s.docString = some doc

namespace Feature

open TextLine

variable {W : Type} {reg : Registry W} {text : Text} {f : Feature}

/-- A doc string is attached to a line if the lines after it say so. -/
theorem attached_iff {before rest : List TextLine} {l : TextLine} {doc : Text}
    (hsplit : ofText text = before ++ l :: rest)
    (hstep : ∃ keyword text, l.role = .step keyword text) :
    Attached (ofText text) l.line doc ↔ docStringAfter? rest = some doc := by
  rw [docStringAfter?_eq_some_iff]
  constructor
  · rintro ⟨before', l', between, quotes, body, rest', hsplit', hline, -, hothers⟩
    -- the line stands at one place only
    obtain rfl : l' = l := eq_of_line_eq (by rw [← ofText, hsplit']; simp)
      (by rw [← ofText, hsplit]; simp) hline
    obtain ⟨hbefore, hrest⟩ := line_ne_of_split hsplit
    obtain ⟨-, -, rfl⟩ := (List.append_cons_inj_of_notMem (fun hmem => hbefore l' hmem rfl)
      (fun hmem => hrest l' hmem rfl)).mp (hsplit.symm.trans hsplit')
    exact ⟨between, quotes, body, rest', rfl, hothers⟩
  · rintro ⟨between, quotes, body, rest', rfl, hothers⟩
    exact ⟨before, l, between, quotes, body, rest', hsplit, rfl, hstep, hothers⟩

/-- **Every doc string of a feature that is read reaches the step before it**, be the step in the
background or not, and no other. -/
theorem documented_of_read (h : Feature.read reg text = .ok f) : f.Documented text := by
  obtain ⟨r, htake, hfinish⟩ := read_eq_ok_iff.mp h
  obtain ⟨-, hambiguous, hmissing, -, hf⟩ := Reading.finish_eq_ok_iff.mp hfinish
  have hsteps : f.steps = r.close.stepsRead := by
    rw [steps_eq_elim, hf]
    rfl
  have hgathered := r.gathered_close
  have hmissing : r.missing = [] := (congrArg Gathered.missing hgathered).symm.trans hmissing
  have hambiguous : r.ambiguous = [] :=
    (congrArg Gathered.ambiguous hgathered).symm.trans hambiguous
  obtain ⟨site, hsurveys⟩ := Reading.surveys_of_takeLines htake
  obtain ⟨hdocuments, hfresh⟩ := Reading.documents_of_takeLines htake hmissing hambiguous
  have howns := hsurveys.owns
  rw [ofText, length_ofLines] at howns
  have hlogged := hdocuments.close howns hfresh hsurveys.at_site
  rw [← hsteps] at hlogged
  -- a step of the feature stands on a line, and the lines after it say what it has
  have hattached : ∀ s ∈ f.steps, ∀ doc,
      s.docString = some doc ↔ Attached (ofText text) s.line doc := by
    intro s hs doc
    have hentry : s.entry ∈ (ofText text).map toEntry :=
      ((Reading.mem_map_entry_close hsurveys).mp (hsteps ▸ List.mem_map_of_mem hs)).1
    obtain ⟨l, hl, hentry⟩ := List.mem_map.mp hentry
    have hline : l.line = s.line := congrArg Entry.line hentry
    have hstep : ∃ keyword text, l.role = .step keyword text := ⟨_, _, congrArg Entry.role hentry⟩
    obtain ⟨before, rest, hsplit⟩ := List.append_of_mem hl
    rw [(hlogged s hs).docString, ← hline, attached_iff hsplit hstep]
    exact DocLog.mem_docs_ofLines hsplit hstep
  refine ⟨fun s hs => (hlogged s hs).arguments, hattached, ?_, ?_⟩
  · intro s hs hnone
    have hdoc : s.docString = none := Option.eq_none_iff_forall_ne_some.mpr fun doc hdoc =>
      hnone doc ((hattached s hs doc).mp hdoc)
    refine ⟨hdoc, ?_⟩
    rw [(hlogged s hs).arguments, hdoc, Option.toList_none, List.append_nil]
  · intro n doc hdoc
    obtain ⟨before, l, between, quotes, body, rest, hsplit, rfl, ⟨keyword, stepText, hrole⟩, -⟩ :=
      id hdoc
    have hentries : r.gathered = .ofEntries reg ((ofText text).map toEntry) := hsurveys.gathered
    have hmem : l.toEntry ∈ (ofText text).map toEntry :=
      List.mem_map_of_mem (by rw [hsplit]; simp)
    -- every step is found, and so it is one of the feature
    have hbound : l.toEntry.isBound reg = true := by
      rw [isBound_eq_isItem ((congrArg Gathered.missing hentries).symm.trans hmissing)
        ((congrArg Gathered.ambiguous hentries).symm.trans hambiguous) _ hmem]
      unfold Entry.isItem
      rw [hrole]
    have hstep : l.toEntry.isStep = true := by
      unfold Entry.isStep
      rw [hrole]
    have hclosed := (Reading.mem_map_entry_close hsurveys).mpr ⟨hmem, hbound, hstep⟩
    rw [← hsteps] at hclosed
    obtain ⟨s, hs, hentry⟩ := List.mem_map.mp hclosed
    have hline : s.line = l.line := congrArg Entry.line hentry
    exact ⟨s, hs, hline, (hattached s hs doc).mpr (hline ▸ hdoc)⟩

end Feature

/-- A text with a doc string after the blank line that ends the background, one that comes second,
and one that is open at the end. -/
def Sample.late : Text :=
  Text.unlines <| List.map String.toList
    ["Scenario: one", "  Given press 1", "  Background:", "  When press 2", "",
      "    \"\"\"", "    late", "    \"\"\"", "    \"\"\"", "    ignored", "    \"\"\"",
      "  Then press 3", "    \"\"\"", "      And open"]

/-- The late doc string reaches the step of the background, the second one none. -/
theorem Feature.documented_late :
    ∃ f, Feature.read Sample.registry Sample.late = .ok f ∧
      f.steps.map (fun s => (s.line, s.docString))
        = [(4, some "late".toList), (2, none), (12, some "And open".toList)] ∧
      f.Documented Sample.late := by
  have h : (match Feature.read Sample.registry Sample.late with
      | .ok f => decide (f.steps.map (fun s => (s.line, s.docString))
          = [(4, some "late".toList), (2, none), (12, some "And open".toList)])
      | .error _ => false) = true := by decide +kernel
  split at h
  next f hread => exact ⟨f, hread, of_decide_eq_true h, documented_of_read hread⟩
  next => exact absurd h (by simp)

end Gherkin
