import Gherkin.Proofs.Feature.Acceptance
import Gherkin.Proofs.Feature.Renumbering
import Gherkin.Proofs.Feature.Survey

/-!
# Layout

How a text is laid out does not change what it means. Comments can be put in and taken out, so can
blank lines where no narrative and no background ends with them, and lines can be indented as one
likes, except in doc strings: there every line counts, and so does the indentation of the three
quotes that begin one.

These are the edits of a layout (`Layout.Edit`), each said by where the line stands in the text. Any
number of them (`Layout.Edits`) leads to a text that is read to the same feature, or is rejected for
the same, at the lines that the edits lead to (`Feature.sameVerdict_of_edits`).
-/

namespace Gherkin

namespace Site

/-- Nothing changes where the line is put in at the site. -/
inductive Idle (s : Site) (raw : Text) : Prop
  /-- A comment, outside doc strings. -/
  | comment (htext : (Text.trim raw).head? = some '#') (hs : s.place ≠ .docString)
  /-- A blank line, where no narrative and no background is being read. -/
  | blank (htext : Text.trim raw = []) (hs : s.place = .outside) (haround : s.around = none)

/-- The lines differ in the white space around them only, and it does not matter at the site. -/
structure Respaces (s : Site) (raw raw' : Text) : Prop where
  trim : Text.trim raw' = Text.trim raw
  verbatim : s.role raw ≠ .verbatim
  /-- The quotes that begin a doc string say how far its lines are indented. -/
  opening : s.role raw = .delimiter → s.place ≠ .docString → Text.indent raw' = Text.indent raw

end Site

namespace Layout

/-- One edit of a layout, and what it does to the numbers of lines. -/
inductive Edit : Renumbering → List Text → List Text → Prop
  | insert (before after : List Text) (raw : Text) (h : (Site.along {} before).Idle raw) :
    Edit (.inserted before.length) (before ++ after) (before ++ raw :: after)
  | delete (before after : List Text) (raw : Text) (h : (Site.along {} before).Idle raw) :
    Edit (.deleted before.length) (before ++ raw :: after) (before ++ after)
  | respace (before after : List Text) (raw raw' : Text)
    (h : (Site.along {} before).Respaces raw raw') :
    Edit .refl (before ++ raw :: after) (before ++ raw' :: after)

/-- Any number of edits, one after another. -/
inductive Edits : Renumbering → List Text → List Text → Prop
  | none (lines : List Text) : Edits .refl lines lines
  | step {ρ σ : Renumbering} {lines lines' lines'' : List Text} (h : Edit ρ lines lines')
    (hrest : Edits σ lines' lines'') : Edits (ρ.trans σ) lines lines''

end Layout

/-! ## Lines that do not matter -/

/-- A line that begins with a number sign is a comment. -/
theorem LineKind.ofLine_of_head? {line : Text} (h : line.head? = some '#') :
    ofLine line = .comment := by
  cases line with
  | nil => exact absurd h (by simp)
  | cons c rest =>
    obtain rfl : c = '#' := Option.some.inj h
    rfl

namespace Reading

variable {W : Type} {reg : Registry W} {r r₁ : Reading} {s : Site} {n : Nat} {raw raw' : Text}
  {lines more : List Text} {remark : Option Remark} {fault : FeatureFault}

/-- **A line that is idle where it stands changes nothing.** -/
theorem At.reads_idle (hat : r.At s) (h : s.Idle raw) (reg : Registry W) (n : Nat) :
    Reads reg n raw r r none := by
  cases h with
  | comment htext hs =>
    have hkind := LineKind.ofLine_of_head? htext
    have hdoc : r.mode ≠ .docString := by
      intro hmode
      refine hs ?_
      rw [← hat.place, hmode]
      rfl
    by_cases hmode : r.mode = .narrative
    · exact .narrativeComment hmode hkind
    · refine .outside hdoc (fun hmode' => absurd hmode' hmode) ?_
      rw [leaveNarrative_of_mode_ne hmode, hkind]
      exact .comment
  | blank htext hs haround =>
    have hkind : LineKind.ofLine (Text.trim raw) = .blank := by
      rw [htext]
      rfl
    have hmode : r.mode ≠ .narrative := by
      intro hmode
      have hplace := hat.place
      rw [hmode, hs] at hplace
      exact absurd hplace (by simp [Place.ofMode])
    -- no background is being read that the line could end
    have hended : r.endBackground = r :=
      endBackground_of_not_around (hat.aroundBackground?_eq_none haround)
    have hread : ReadsOutside reg n raw (Text.trim raw) r .blank r.endBackground none := .blank
    rw [hended] at hread
    refine .outside (hat.mode_ne_docString hs) (fun hmode' => absurd hmode' hmode) ?_
    rw [leaveNarrative_of_mode_ne hmode, hkind]
    exact hread

/-- **White space around a line does not matter**, where its site says so. -/
theorem At.reads_respaced (hat : r.At s) (h : s.Respaces raw raw')
    (hread : Reads reg n raw r r₁ remark) : Reads reg n raw' r r₁ remark := by
  have hrole : r.role raw = s.role raw := by
    unfold Reading.role
    rw [hat.site]
  cases hread with
  | endDocString hmode hkind => exact .endDocString hmode (h.trim ▸ hkind)
  | verbatim hmode hkind =>
    rw [role_of_docString hmode, Place.role_docString_of_ne hkind] at hrole
    exact absurd hrole.symm h.verbatim
  | narrative hmode hkind =>
    rw [← h.trim] at hkind ⊢
    exact .narrative hmode hkind
  | narrativeComment hmode hkind => exact .narrativeComment hmode (h.trim ▸ hkind)
  | outside hdoc hfree hread =>
    have hplace : s.place ≠ .docString := by
      rw [← hat.place]
      cases hmode : r.mode with
      | docString => exact absurd hmode hdoc
      | _ => simp [Place.ofMode]
    rw [role_of_outside hdoc hfree] at hrole
    refine .outside hdoc (h.trim.symm ▸ hfree) ?_
    rw [h.trim]
    generalize LineKind.ofLine (Text.trim raw) = kind at hread hrole
    cases hread with
    | beginDocString hmode =>
      rw [Mode.roleOf_of_ne hmode] at hrole
      rw [← h.opening hrole.symm hplace]
      exact .beginDocString hmode
    | blank => exact .blank
    | comment => exact .comment
    | feature hname => exact .feature hname
    | background hclosed hopen => exact .background hclosed hopen
    | scenario => exact .scenario
    | step hmode => exact .step hmode
    | conjunction hkeyword => exact .conjunction hkeyword
    | examples hmode => exact .examples hmode
    | refused hmode hkind => exact .refused hmode hkind

/-- Nor does it matter for a line that is not read. -/
theorem Faults.respace (hfaults : Faults n raw r fault)
    (htrim : Text.trim raw' = Text.trim raw) : Faults n raw' r fault :=
  ⟨hfaults.docString, htrim ▸ hfaults.free, htrim ▸ hfaults.outside⟩

/-- The line is listed with other white space around it. -/
theorem At.take_respaced (hat : r.At s) (h : s.Respaces raw raw') (reg : Registry W) (n : Nat) :
    SameVerdict .refl (Moved .refl) (r.take reg n raw) (r.take reg n raw') := by
  cases htake : r.take reg n raw with
  | ok r₂ =>
    obtain ⟨r₁, remark, hread, rfl⟩ := take_eq_ok_iff.mp htake
    rw [take_eq_ok_iff.mpr ⟨r₁, remark, hat.reads_respaced h hread, rfl⟩]
    exact .accepted ((Moved.refl r₁).list Renumbering.keeps_refl h.trim)
  | error e =>
    obtain ⟨fault, hfaults, rfl⟩ := take_eq_error_iff.mp htake
    rw [take_eq_error_iff.mpr ⟨fault, hfaults.respace h.trim, rfl⟩]
    exact .rejected ⟨fault.renumber_id.symm,
      ((Moved.refl r).list Renumbering.keeps_refl h.trim).listing⟩

/-- Lines are read in two goes as they are in one, whatever comes of the first. -/
theorem takeLines_append_eq_bind (reg : Registry W) (r : Reading) (n : Nat)
    (lines more : List Text) :
    takeLines reg r n (lines ++ more)
      = takeLines reg r n lines >>= fun r₁ => takeLines reg r₁ (n + lines.length) more := by
  cases h : takeLines reg r n lines with
  | ok r₁ => exact takeLines_append h
  | error e =>
    induction lines generalizing r n with
    | nil => exact absurd h (by simp [takeLines])
    | cons raw rest ih =>
      rcases takeLines_cons_eq_error_iff.mp h with htake | ⟨r₂, htake, hrest⟩
      · exact takeLines_cons_eq_error_iff.mpr (.inl htake)
      · exact takeLines_cons_eq_error_iff.mpr (.inr ⟨r₂, htake, ih r₂ (n + 1) hrest⟩)

end Reading

/-! ## Edits -/

/-- The lines, read as those of a feature. -/
def Feature.readLines {W : Type} (reg : Registry W) (lines : List Text) :
    Except Rejection Feature := do
  let r ← Reading.takeLines reg {} 1 lines
  r.finish reg

namespace Layout

open Reading

variable {W : Type} {ρ σ : Renumbering} {before after lines lines' : List Text} {raw raw' : Text}

/-- **A line that is idle where it is put in is only listed.** -/
theorem takeLines_insert (h : (Site.along {} before).Idle raw) (reg : Registry W) :
    SameVerdict (.inserted before.length) (Reading.Moved (.inserted before.length))
      (takeLines reg {} 1 (before ++ after)) (takeLines reg {} 1 (before ++ raw :: after)) := by
  have hρ := Renumbering.keeps_inserted before.length
  have hline (j : Nat) (hj : j < before.length) :
      (Renumbering.inserted before.length).line (1 + j) = 1 + j :=
    Renumbering.line_inserted_of_le (by omega)
  have hbefore := (Moved.initial (.inserted before.length)).takeLines hρ reg hline
  rw [takeLines_append_eq_bind, takeLines_append_eq_bind]
  cases htake : takeLines reg {} 1 before with
  | error e =>
    rw [htake] at hbefore
    cases hbefore with
    | rejected hmoved => exact .rejected hmoved
  | ok r =>
    rw [htake] at hbefore
    cases hbefore with
    | accepted hmoved =>
      have hread := (takeLines_surveys htake rfl .initial).at_site.reads_idle h reg
        (1 + before.length)
      have hidle : r.take reg (1 + before.length) raw = _ :=
        take_eq_ok_iff.mpr ⟨r, none, hread, rfl⟩
      have hafter : takeLines reg r (1 + before.length) (raw :: after)
          = takeLines reg (r.list (1 + before.length) raw none) (1 + before.length + 1) after := by
        rw [takeLines, hidle]
        rfl
      have hlisted : Moved (.inserted before.length) r (r.list (1 + before.length) raw none) :=
        hmoved.list_right (Renumbering.line?_inserted_ne _)
      show SameVerdict _ _ (takeLines reg r (1 + before.length) after)
        (takeLines reg r (1 + before.length) (raw :: after))
      rw [hafter]
      refine hlisted.takeLines hρ reg fun j _ => ?_
      rw [Renumbering.line_inserted_of_lt (by omega)]
      omega

/-- **White space that does not matter where it stands is only listed.** -/
theorem takeLines_respace (h : (Site.along {} before).Respaces raw raw') (reg : Registry W) :
    SameVerdict .refl (Reading.Moved .refl)
      (takeLines reg {} 1 (before ++ raw :: after))
      (takeLines reg {} 1 (before ++ raw' :: after)) := by
  rw [takeLines_append_eq_bind, takeLines_append_eq_bind]
  cases htake : takeLines reg {} 1 before with
  | error e => exact .rejected (.refl e)
  | ok r =>
    have hat := (takeLines_surveys htake rfl .initial).at_site
    exact (hat.take_respaced h reg (1 + before.length)).bind fun r₁ r₁' hmoved =>
      hmoved.takeLines Renumbering.keeps_refl reg fun _ _ => rfl

/-- An edit does not change the verdict. -/
theorem Edit.sameVerdict (h : Edit ρ lines lines') (reg : Registry W) :
    SameVerdict ρ (Feature.Moved ρ) (Feature.readLines reg lines)
      (Feature.readLines reg lines') := by
  have hinsert (before after : List Text) (raw : Text) (h : (Site.along {} before).Idle raw) :
      SameVerdict (.inserted before.length) (Feature.Moved (.inserted before.length))
        (Feature.readLines reg (before ++ after))
        (Feature.readLines reg (before ++ raw :: after)) :=
    (takeLines_insert h reg).bind fun _ _ hmoved =>
      hmoved.finish (Renumbering.keeps_inserted _) reg
  cases h with
  | insert before after raw h => exact hinsert before after raw h
  | delete before after raw h => exact (hinsert before after raw h).deleted
  | respace before after raw raw' h =>
    exact (takeLines_respace h reg).bind fun _ _ hmoved => hmoved.finish Renumbering.keeps_refl reg

/-- Any number of edits do not change the verdict. -/
theorem Edits.sameVerdict (h : Edits ρ lines lines') (reg : Registry W) :
    SameVerdict ρ (Feature.Moved ρ) (Feature.readLines reg lines)
      (Feature.readLines reg lines') := by
  induction h with
  | none lines => exact .refl _
  | step h _ ih => exact (h.sameVerdict reg).trans (fun _ _ _ h h' => h.trans h') ih

end Layout

/-- **Layout does not change what a text means.** Texts of which one comes from the other by edits
of the layout are read to the same feature, or are rejected for the same, but for the numbers of
lines, and for the lines and the indentations that are listed. -/
theorem Feature.sameVerdict_of_edits {W : Type} {ρ : Renumbering} {text text' : Text}
    (h : Layout.Edits ρ (Text.lines text) (Text.lines text')) (reg : Registry W) :
    SameVerdict ρ (Feature.Moved ρ) (Feature.read reg text) (Feature.read reg text') :=
  h.sameVerdict reg

namespace Sample

/-- The lines of a text with a narrative and a doc string. -/
def tidyLines : List Text :=
  List.map String.toList
    ["Feature: Sums", "  As a user", "Scenario: one", "  Given press 1", "  # with a text",
      "    \"\"\"", "    # kept", "    \"\"\"", "  And press 2"]

/-- The same lines, with one comment less, another in the narrative, a blank line in the scenario,
and other white space around the closing quotes and the last step. -/
def relaidLines : List Text :=
  List.map String.toList
    ["Feature: Sums", "# about sums", "  As a user", "Scenario: one", "", "  Given press 1",
      "    \"\"\"", "    # kept", "\"\"\" ", "\tAnd press 2  "]

/-- Where the lines come to stand. -/
def relaid : Renumbering :=
  .trans (.deleted 4) <| .trans (.inserted 1) <| .trans (.inserted 4) <| .trans .refl <|
    .trans .refl .refl

theorem edits_relaid : Layout.Edits relaid tidyLines relaidLines :=
  .step (.delete (tidyLines.take 4) (tidyLines.drop 5) _ (.comment (by decide) (by decide))) <|
  .step (.insert (relaidLines.take 1) _ _ (.comment (by decide) (by decide))) <|
  .step (.insert (relaidLines.take 4) _ [] (.blank (by decide) (by decide) (by decide))) <|
  .step (.respace (relaidLines.take 8) _ _ _ ⟨by decide, by decide, by decide⟩) <|
  .step (.respace (relaidLines.take 9) _ _ _ ⟨by decide, by decide, by decide⟩) <|
  .none _

end Sample

/-- The steps come to stand at other lines, and nothing else has changed. -/
theorem Feature.sameVerdict_relaid :
    ∃ f f', Feature.read Sample.registry (Text.unlines Sample.tidyLines) = .ok f ∧
      Feature.read Sample.registry (Text.unlines Sample.relaidLines) = .ok f' ∧
      f.steps.map (fun s => (s.line, s.docString)) = [(4, some "# kept".toList), (9, none)] ∧
      f'.steps.map (fun s => (s.line, s.docString)) = [(6, some "# kept".toList), (10, none)] ∧
      f.Moved Sample.relaid f' := by
  have htidy : Text.lines (Text.unlines Sample.tidyLines) = Sample.tidyLines := by decide +kernel
  have hrelaid : Text.lines (Text.unlines Sample.relaidLines) = Sample.relaidLines := by
    decide +kernel
  have hverdict := sameVerdict_of_edits (htidy.symm ▸ hrelaid.symm ▸ Sample.edits_relaid)
    Sample.registry
  have hsteps : (match Feature.read Sample.registry (Text.unlines Sample.tidyLines),
        Feature.read Sample.registry (Text.unlines Sample.relaidLines) with
      | .ok f, .ok f' =>
        decide (f.steps.map (fun s => (s.line, s.docString))
            = [(4, some "# kept".toList), (9, none)] ∧
          f'.steps.map (fun s => (s.line, s.docString)) = [(6, some "# kept".toList), (10, none)])
      | _, _ => false) = true := by decide +kernel
  split at hsteps
  next f f' hread hread' =>
    obtain ⟨htidySteps, hrelaidSteps⟩ := of_decide_eq_true hsteps
    rw [hread, hread'] at hverdict
    cases hverdict with
    | accepted hmoved => exact ⟨f, f', hread, hread', htidySteps, hrelaidSteps, hmoved⟩
  next => exact absurd hsteps (by simp)

end Gherkin
