import Gherkin.Proofs.Feature.Judgement

/-!
# The listing tells what was found

Remarks are put on the lines of a listing at two times: when a line is read, and at the end of the
text, when the doc strings have gone to their steps and the handlers are asked. Together they tell
the same as the result (`Feature.Exposes`): a text is accepted if no line is marked, what is
reported is marked where it is, and no line is marked but for what is wrong with it.
-/

namespace Gherkin

/-! ## Remarks that are put on a listing -/

/-- The line with what is remarked of it, of which the last counts. -/
def ListedLine.withFaults (faults : List (Nat × ArityFault)) (d : ListedLine) : ListedLine :=
  faults.foldl
    (fun d fault =>
      if d.number = fault.1 then { d with remark := some (.failed fault.2.message) } else d) d

namespace ListedLine

variable {faults : List (Nat × ArityFault)}

/-- A line is remarked on by the faults of its number and by no others. -/
theorem withFaults_eq_or (faults : List (Nat × ArityFault)) (d : ListedLine) :
    (∃ fault ∈ faults, fault.1 = d.number ∧
        d.withFaults faults = { d with remark := some (.failed fault.2.message) }) ∨
      ((∀ fault ∈ faults, fault.1 ≠ d.number) ∧ d.withFaults faults = d) := by
  induction faults generalizing d with
  | nil => exact Or.inr ⟨by simp, rfl⟩
  | cons fault faults ih =>
    by_cases hnumber : d.number = fault.1
    · have hstep : d.withFaults (fault :: faults)
          = withFaults faults { d with remark := some (.failed fault.2.message) } := by
        unfold withFaults
        rw [List.foldl_cons, if_pos hnumber]
      refine Or.inl ?_
      rcases ih { d with remark := some (.failed fault.2.message) } with
        ⟨later, hlater, hnumber', heq⟩ | ⟨-, heq⟩
      · exact ⟨later, List.mem_cons_of_mem _ hlater, hnumber', hstep.trans heq⟩
      · exact ⟨fault, List.mem_cons_self .., hnumber.symm, hstep.trans heq⟩
    · have hstep : d.withFaults (fault :: faults) = d.withFaults faults := by
        unfold withFaults
        rw [List.foldl_cons, if_neg hnumber]
      rcases ih d with ⟨later, hlater, hnumber', heq⟩ | ⟨hnone, heq⟩
      · exact Or.inl ⟨later, List.mem_cons_of_mem _ hlater, hnumber', hstep.trans heq⟩
      · exact Or.inr ⟨List.forall_mem_cons.mpr ⟨Ne.symm hnumber, hnone⟩, hstep.trans heq⟩

end ListedLine

namespace Listing

/-- Where no number comes twice, a remark is put on the line of its number. -/
theorem annotateLines_eq_map {number : Nat} {remark : Remark} : ∀ {lines : List ListedLine},
    (lines.map ListedLine.number).Nodup →
      annotateLines number remark lines
        = lines.map fun d => if d.number = number then { d with remark := some remark } else d
  | [], _ => rfl
  | d :: rest, h => by
    obtain ⟨hd, hrest⟩ := List.nodup_cons.mp h
    rw [annotateLines, List.map_cons]
    by_cases hnumber : d.number = number
    · -- no other line has the number
      have hsame : rest.map (fun d =>
          if d.number = number then { d with remark := some remark } else d) = rest := by
        refine (List.map_congr_left fun d' hd' => if_neg fun hnumber' => hd ?_).trans
          (List.map_id rest)
        rw [hnumber, ← hnumber']
        exact List.mem_map_of_mem hd'
      rw [if_pos hnumber, if_pos hnumber, hsame]
    · rw [if_neg hnumber, if_neg hnumber, annotateLines_eq_map hrest]

/-- A line that is put at the end is found there by its number, if no line before has it. -/
theorem line?_push {l : Listing} {d : ListedLine} (h : l.line? d.number = none) :
    (l.push d).line? d.number = some d := by
  unfold line? at h ⊢
  rw [lines_push, List.find?_append, h, List.find?_singleton, if_pos (decide_eq_true rfl)]
  rfl

/-- A line that is found is found when another is put at the end. -/
theorem line?_push_of_some {l : Listing} {d d' : ListedLine} {n : Nat} (h : l.line? n = some d') :
    (l.push d).line? n = some d' := by
  unfold line? at h ⊢
  rw [lines_push, List.find?_append, h]
  rfl

/-- A line that is marked is among the marked lines. -/
theorem failures_push_ne_nil {l : Listing} {d : ListedLine}
    (h : d.remark.any Remark.isFault = true) : (l.push d).failures ≠ [] := by
  unfold failures
  rw [lines_push, List.filter_append, List.filter_singleton, h]
  simp

/-- Faults are put on the lines of their numbers. -/
theorem lines_foldl_annotate {faults : List (Nat × ArityFault)} {l : Listing}
    (h : (l.lines.map ListedLine.number).Nodup) :
    (faults.foldl (fun l fault => l.annotate fault.1 (.failed fault.2.message)) l).lines
      = l.lines.map (ListedLine.withFaults faults) := by
  induction faults generalizing l with
  | nil => exact (List.map_id _).symm
  | cons fault faults ih =>
    have hannotated : (l.annotate fault.1 (.failed fault.2.message)).lines
        = l.lines.map fun d =>
          if d.number = fault.1 then { d with remark := some (.failed fault.2.message) } else d :=
      annotateLines_eq_map h
    have hnumbers : (l.annotate fault.1 (.failed fault.2.message)).lines.map ListedLine.number
        = l.lines.map ListedLine.number := by
      rw [hannotated, List.map_map]
      refine List.map_congr_left fun d _ => ?_
      show (if d.number = fault.1 then _ else d : ListedLine).number = d.number
      split <;> rfl
    rw [List.foldl_cons, ih (hnumbers ▸ h), hannotated, List.map_map]
    rfl

end Listing

/-! ## Lines that are marked -/

namespace FeatureFault

/-- Whether the fault ends the scan at its line. The others are collected. -/
def endsScan : FeatureFault → Bool
  | unnamedFeature _ | secondBackground _ | unknownLine _ _ | strayConjunction _ => true
  | unsupported _ _ | ambiguous _ _ | arity _ _ | unimplemented _ => false

/-! What is said of a line that is not supported is said of no other: it begins with a backtick, and
ends with other than what is said of `And`. -/

variable {n : Nat} {construct : Text}

theorem head?_message_unsupported : (unsupported n construct).message.head? = some '`' := rfl

theorem getLast?_message_unsupported (n : Nat) (construct : Text) :
    (unsupported n construct).message.getLast? = some 'd' := by
  show ('`' :: construct ++ "` is not supported".toList).getLast? = some 'd'
  rw [List.getLast?_append_of_ne_nil _ (by simp)]
  rfl

theorem message_ne_of_head? {t : Text} {c : Char} (h : t.head? = some c) (hc : c ≠ '`') :
    t ≠ (unsupported n construct).message := by
  rintro rfl
  exact hc (Option.some.inj (h.symm.trans head?_message_unsupported))

/-- A step that is not found is not called unsupported. -/
theorem message_lookup_ne (e : LookupFault) : e.message ≠ (unsupported n construct).message := by
  cases e with
  | notFound => exact message_ne_of_head? rfl (by decide)
  | ambiguous e => exact message_ne_of_head? rfl (by decide)

/-- Neither is a handler that does not accept its arguments. -/
theorem message_arity_ne (e : ArityFault) : e.message ≠ (unsupported n construct).message :=
  message_ne_of_head? rfl (by decide)

/-- Neither is a line that ends the scan. -/
theorem message_ne_of_endsScan {fault : FeatureFault} (h : fault.endsScan = true) :
    fault.message ≠ (unsupported n construct).message := by
  cases fault with
  | unnamedFeature line => exact message_ne_of_head? rfl (by decide)
  | secondBackground line => exact message_ne_of_head? rfl (by decide)
  | unknownLine line word => exact message_ne_of_head? rfl (by decide)
  | strayConjunction line =>
    intro heq
    have hlast := getLast?_message_unsupported n construct
    have hlast' : (strayConjunction line).message.getLast? = some 'p' := rfl
    rw [← heq, hlast'] at hlast
    exact absurd hlast (by decide)
  | _ => exact absurd h (by simp [endsScan])

end FeatureFault

/-- What is said of a line that is not supported. -/
def ListedLine.IsUnsupported (d : ListedLine) : Prop :=
  d.remark = some (.failed (FeatureFault.unsupported d.number d.text).message)

/-- A line as the listing of a text that was read to the end has it. -/
structure TextLine.ListedAs {W : Type} (reg : Registry W) (ls : List TextLine) (l : TextLine)
    (d : ListedLine) : Prop where
  number : d.number = l.line
  indent : d.indent = Text.indent l.raw
  text : d.text = Text.trim l.raw
  failed : d.remark.any Remark.isFault = true ↔ l.Faulty reg ls
  unsupported : d.IsUnsupported ↔ l.role = .stray
  /-- A step that is not at fault shows where its pattern was registered. -/
  matched : ∀ keyword text, l.role = .step keyword text → ¬ l.Faulty reg ls →
    ∃ definition, reg.candidates text = [definition] ∧
      d.remark = some (.matched definition.location)

namespace TextLine

variable {W : Type} {reg : Registry W} {ls : List TextLine} {l : TextLine}

/-- A line is marked when it is read if it is at fault by itself. -/
theorem isFault_remark? :
    (l.remark? reg).any Remark.isFault = true ↔
      l.role = .stray ∨ l.Unmatched reg ∨ l.Ambiguous reg := by
  unfold remark? Unmatched Ambiguous
  cases hrole : l.role with
  | stray => simp [Remark.isFault]
  | step keyword text =>
    cases hfind : reg.find text with
    | ok found =>
      obtain ⟨d, hone, -⟩ := Registry.candidates_of_find hfind
      simp [Remark.isFault, hfind, hone]
    | error e =>
      cases e with
      | notFound => simp [Remark.isFault, hfind, Registry.find_eq_notFound_iff.mp hfind]
      | ambiguous e =>
        simp [Remark.isFault, hfind, (Registry.find_eq_ambiguous_iff.mp hfind).1]
  | _ => simp

/-- Only lines that are not supported are called so when they are read. -/
theorem isUnsupported_listed : (l.listed reg).IsUnsupported ↔ l.role = .stray := by
  unfold ListedLine.IsUnsupported listed remark?
  cases hrole : l.role with
  | stray => simp
  | step keyword text =>
    cases hfind : reg.find text with
    | ok found => simp [hfind]
    | error e => simp [hfind, FeatureFault.message_lookup_ne]
  | _ => simp

/-- A step that is not at fault by itself is found, and shows where. -/
theorem remark?_of_step {keyword : Option Keyword} {text : Text}
    (hrole : l.role = .step keyword text)
    (h : ¬ (l.role = .stray ∨ l.Unmatched reg ∨ l.Ambiguous reg)) :
    ∃ definition, reg.candidates text = [definition] ∧
      l.remark? reg = some (.matched definition.location) := by
  rw [← isFault_remark?] at h
  unfold remark? at h ⊢
  rw [hrole] at h ⊢
  cases hfind : reg.find text with
  | ok found =>
    obtain ⟨d, hone, -, hlocation⟩ := Registry.candidates_of_find hfind
    exact ⟨d, hone, by simp [hfind, hlocation]⟩
  | error e => simp [hfind, Remark.isFault] at h

end TextLine

namespace Feature

/-- The listing of what was read, accepted or not. -/
def listingOf : Except Rejection Feature → Listing
  | .ok f => f.listing
  | .error rejection => rejection.listing

end Feature

/-- **What the listing tells of the result of reading a text.** -/
structure Feature.Exposes {W : Type} (reg : Registry W) (text : Text)
    (result : Except Rejection Feature) : Prop where
  /-- What is accepted is what has nothing marked. -/
  accepted : (∃ f, result = .ok f) ↔ (listingOf result).failures = []
  /-- A fault has a line, and that is marked. -/
  located : ∀ rejection, result = .error rejection → ∃ n d, rejection.fault.line? = some n ∧
    rejection.listing.line? n = some d ∧ d.remark.any Remark.isFault = true
  /-- Where the scan ended, the listing ends. -/
  ended : ∀ rejection, result = .error rejection → rejection.fault.endsScan = true →
    rejection.fault.line? = some rejection.listing.lines.length
  /-- If the scan came to the end, all lines of the text are listed. -/
  listed : (∀ rejection, result = .error rejection → rejection.fault.endsScan = false) →
    List.Forall₂ (TextLine.ListedAs reg (TextLine.ofText text)) (TextLine.ofText text)
      (listingOf result).lines

namespace Reading

variable {W : Type} {reg : Registry W} {r : Reading} {text : Text}

/-- The listing of a text that was read to the end does not depend on what is reported. -/
theorem listing_finish (r : Reading) :
    Feature.listingOf (r.finish reg)
      = (arityFaults reg r.close.stepsRead).foldl
          (fun l fault => l.annotate fault.1 (.failed fault.2.message)) r.close.listing := by
  unfold finish
  dsimp only
  split
  next => rfl
  next => rfl
  next => rfl
  next => split <;> rfl

/-- **Every line of a text that was read to the end is listed**, and marked if it is at fault. -/
theorem listed_of_finish (h : takeLines reg {} 1 (Text.lines text) = .ok r) :
    List.Forall₂ (TextLine.ListedAs reg (TextLine.ofText text)) (TextLine.ofText text)
      (Feature.listingOf (r.finish reg)).lines := by
  obtain ⟨s, hsurveys⟩ := surveys_of_takeLines h
  have hlines : r.close.listing.lines = (TextLine.ofText text).map (TextLine.listed reg) :=
    (congrArg Listing.lines (listing_close r)).trans hsurveys.listing
  have hnodup : (r.close.listing.lines.map ListedLine.number).Nodup := by
    rw [hlines, List.map_map]
    show ((TextLine.ofText text).map fun l => l.line).Nodup
    rw [TextLine.ofText, TextLine.map_line_ofLines]
    exact List.nodup_range'
  rw [listing_finish, Listing.lines_foldl_annotate hnodup, hlines, List.map_map,
    List.forall₂_map_right_iff, List.forall₂_same]
  intro l hl
  rw [Function.comp_apply]
  rcases ListedLine.withFaults_eq_or (arityFaults reg r.close.stepsRead) (l.listed reg) with
    ⟨⟨n, e⟩, hmem, hnumber, heq⟩ | ⟨hnone, heq⟩
  · obtain ⟨l', hl', hline, hmismatched⟩ := (mem_arityFaults_iff h).mp hmem
    obtain rfl : l' = l := TextLine.eq_of_line_eq hl' hl (hline.trans hnumber)
    have hfaulty : l'.Faulty reg (TextLine.ofText text) := Or.inr (Or.inr (Or.inr ⟨e, hmismatched⟩))
    have hstep : l'.role ≠ .stray := by
      obtain ⟨_, _, _, _, _, _, _, hrole, _⟩ := hmismatched
      simp [hrole]
    rw [heq]
    refine ⟨rfl, rfl, rfl, iff_of_true rfl hfaulty, iff_of_false (fun hremark => ?_) hstep,
      fun _ _ _ hnot => absurd hfaulty hnot⟩
    exact FeatureFault.message_arity_ne e (Remark.failed.inj (Option.some.inj hremark))
  · have haccepted : ¬ ∃ e, l.Mismatched reg (TextLine.ofText text) e := by
      rintro ⟨e, hmismatched⟩
      exact hnone _ ((mem_arityFaults_iff h).mpr ⟨l, hl, rfl, hmismatched⟩) rfl
    have hfaulty : l.Faulty reg (TextLine.ofText text) ↔
        l.role = .stray ∨ l.Unmatched reg ∨ l.Ambiguous reg := by
      unfold TextLine.Faulty
      simp only [haccepted, or_false]
    rw [heq]
    refine ⟨rfl, rfl, rfl, TextLine.isFault_remark?.trans hfaulty.symm,
      TextLine.isUnsupported_listed, ?_⟩
    intro keyword stepText hrole hnot
    exact TextLine.remark?_of_step hrole (hfaulty.not.mp hnot)

/-- A line that is not read has the number of the line and ends the scan. -/
theorem Faults.endsScan {line : Nat} {raw : Text} {fault : FeatureFault}
    (h : Faults line raw r fault) : fault.line? = some line ∧ fault.endsScan = true := by
  have houtside := h.outside
  generalize LineKind.ofLine (Text.trim raw) = kind at houtside
  cases houtside <;> exact ⟨rfl, rfl⟩

/-- **A scan that ended has listed the lines before as they were read**, and the line where it ended
with what is wrong with it. Lines that are known to be read are among those before. -/
theorem exists_of_ended (read : List Text) {rest : List Text} {rejection : Rejection}
    (hread : takeLines reg {} 1 read = .ok r)
    (h : takeLines reg {} 1 (read ++ rest) = .error rejection) :
    ∃ more raw after r', rest = more ++ raw :: after ∧
      takeLines reg {} 1 (read ++ more) = .ok r' ∧ rejection.fault.endsScan = true ∧
      rejection.fault.line? = some (1 + (read ++ more).length) ∧
      rejection.listing = Listing.push
        { lines := (TextLine.ofLines {} 1 (read ++ more)).map (TextLine.listed reg) }
        { number := 1 + (read ++ more).length, indent := Text.indent raw, text := Text.trim raw
          remark := some (.failed rejection.fault.message) } := by
  rw [takeLines_append hread] at h
  obtain ⟨more, raw, after, r', fault, rfl, hmore, hfaults, rfl⟩ := exists_of_takeLines_eq_error h
  rw [← takeLines_append hread] at hmore
  have hsurveys := takeLines_surveys hmore rfl Surveys.initial
  have hlisting : r'.listing
      = { lines := (TextLine.ofLines {} 1 (read ++ more)).map (TextLine.listed reg) } :=
    congrArg Listing.mk hsurveys.listing
  rw [Nat.add_assoc, ← List.length_append] at hfaults ⊢
  obtain ⟨hline, hends⟩ := hfaults.endsScan
  refine ⟨more, raw, after, r', rfl, hmore, hends, hline, ?_⟩
  rw [← hlisting]
  rfl

end Reading

/-- A fault that is found at the end has not ended the scan. -/
theorem Judgement.endsScan_eq_false {W : Type} {reg : Registry W} {ls : List TextLine}
    {fault : FeatureFault} (h : Judgement reg ls (.error fault)) : fault.endsScan = false := by
  cases h <;> rfl

namespace Listing

variable {W : Type} {reg : Registry W} {text : Text} {listing : Listing} {l : TextLine}

/-- Lists that are related element by element have a partner for every element. -/
theorem exists_of_forall₂_left {α β : Type} {R : α → β → Prop} {l₁ : List α} {l₂ : List β} {a : α}
    (h : List.Forall₂ R l₁ l₂) (ha : a ∈ l₁) : ∃ b ∈ l₂, R a b := by
  induction h with
  | nil => exact absurd ha (by simp)
  | cons hab _ ih =>
    rcases List.mem_cons.mp ha with rfl | ha
    · exact ⟨_, List.mem_cons_self .., hab⟩
    · obtain ⟨b, hb, hab⟩ := ih ha
      exact ⟨b, List.mem_cons_of_mem _ hb, hab⟩

theorem exists_of_forall₂_right {α β : Type} {R : α → β → Prop} {l₁ : List α} {l₂ : List β} {b : β}
    (h : List.Forall₂ R l₁ l₂) (hb : b ∈ l₂) : ∃ a ∈ l₁, R a b :=
  exists_of_forall₂_left (R := flip R) (List.Forall₂.flip h) hb

/-- The line of a number is the line that the text has there. -/
theorem exists_line? (h : List.Forall₂ (TextLine.ListedAs reg (TextLine.ofText text))
      (TextLine.ofText text) listing.lines) (hl : l ∈ TextLine.ofText text) :
    ∃ d, listing.line? l.line = some d ∧ l.ListedAs reg (TextLine.ofText text) d := by
  obtain ⟨d, hd, hlisted⟩ := exists_of_forall₂_left h hl
  have hsome : (listing.line? l.line).isSome = true :=
    List.find?_isSome.mpr ⟨d, hd, decide_eq_true hlisted.number⟩
  obtain ⟨d', hd'⟩ := Option.isSome_iff_exists.mp hsome
  obtain ⟨l', hl', hlisted'⟩ := exists_of_forall₂_right h (List.mem_of_find?_eq_some hd')
  have hnumber : d'.number = l.line := by
    unfold line? at hd'
    exact of_decide_eq_true (List.find?_some hd' :)
  obtain rfl : l' = l := TextLine.eq_of_line_eq hl' hl (hlisted'.number.symm.trans hnumber)
  exact ⟨d', hd', hlisted'⟩

/-- Lines that are listed as they were read are found by their numbers. -/
theorem line?_listed {s : Site} {n : Nat} {lines : List Text}
    (hl : l ∈ TextLine.ofLines s n lines) :
    line? { lines := (TextLine.ofLines s n lines).map (TextLine.listed reg) } l.line
      = some (l.listed reg) := by
  have hsome : (line? { lines := (TextLine.ofLines s n lines).map (TextLine.listed reg) }
      l.line).isSome = true :=
    List.find?_isSome.mpr ⟨_, List.mem_map_of_mem hl, decide_eq_true rfl⟩
  obtain ⟨d, hd⟩ := Option.isSome_iff_exists.mp hsome
  rw [hd]
  unfold line? at hd
  obtain ⟨l', hl', rfl⟩ := List.mem_map.mp (List.mem_of_find?_eq_some hd)
  have hnumber : l'.line = l.line := of_decide_eq_true (List.find?_some hd :)
  rw [TextLine.eq_of_line_eq hl' hl hnumber]

/-- Nothing is marked if nothing is at fault. -/
theorem failures_eq_nil_iff (h : List.Forall₂ (TextLine.ListedAs reg (TextLine.ofText text))
      (TextLine.ofText text) listing.lines) :
    listing.failures = [] ↔ ∀ l ∈ TextLine.ofText text, ¬ l.Faulty reg (TextLine.ofText text) := by
  unfold failures
  rw [List.filter_eq_nil_iff]
  constructor
  · intro hnone l hl hfaulty
    obtain ⟨d, hd, hlisted⟩ := exists_of_forall₂_left h hl
    exact hnone d hd (hlisted.failed.mpr hfaulty)
  · intro hnone d hd hfailed
    obtain ⟨l, hl, hlisted⟩ := exists_of_forall₂_right h hd
    exact hnone l hl (hlisted.failed.mp hfailed)

end Listing

namespace Feature

variable {W : Type} {reg : Registry W} {text : Text}

/-- What the listing tells of a text whose scan came to the end. -/
theorem exposes_of_takeLines {r : Reading}
    (h : Reading.takeLines reg {} 1 (Text.lines text) = .ok r) :
    Exposes reg text (read reg text) := by
  have hlisted := Reading.listed_of_finish h
  have hjudgement := Reading.judgement_of_finish h
  rw [← read_of_takeLines h] at hlisted hjudgement
  cases hresult : read reg text with
  | ok f =>
    rw [hresult] at hlisted hjudgement
    have hnone := (Listing.failures_eq_nil_iff hlisted).mpr hjudgement.not_faulty
    exact ⟨iff_of_true ⟨f, rfl⟩ hnone, by simp, by simp, fun _ => hlisted⟩
  | error rejection =>
    rw [hresult] at hlisted hjudgement
    obtain ⟨l, hl, hline, hfaulty⟩ := hjudgement.exists_faulty
    obtain ⟨d, hd, hdl⟩ := Listing.exists_line? hlisted hl
    refine ⟨iff_of_false (by simp) fun hnone => ?_, ?_, ?_, fun _ => hlisted⟩
    · exact (Listing.failures_eq_nil_iff hlisted).mp hnone l hl hfaulty
    · rintro _ ⟨⟩
      exact ⟨l.line, d, hline, hd, hdl.failed.mpr hfaulty⟩
    · rintro _ ⟨⟩ hends
      exact absurd (hjudgement.endsScan_eq_false.symm.trans hends) (by simp)

/-- What the listing tells of a text whose scan ended at a line. -/
theorem exposes_of_takeLines_eq_error {rejection : Rejection}
    (h : Reading.takeLines reg {} 1 (Text.lines text) = .error rejection) :
    Exposes reg text (read reg text) := by
  obtain ⟨before, raw, after, r, -, -, hends, hline, hlisting⟩ :=
    Reading.exists_of_ended [] rfl h
  rw [List.nil_append] at hline hlisting
  -- the lines before have smaller numbers
  have hnone : Listing.line? { lines := (TextLine.ofLines {} 1 before).map (TextLine.listed reg) }
      (1 + before.length) = none := by
    unfold Listing.line?
    rw [List.find?_eq_none]
    rintro d hd hnumber
    obtain ⟨l, hl, rfl⟩ := List.mem_map.mp hd
    have hnumber : l.line = 1 + before.length := of_decide_eq_true hnumber
    exact Nat.ne_of_lt (TextLine.line_lt_of_mem_ofLines hl) hnumber
  rw [read_of_takeLines_eq_error h]
  refine ⟨iff_of_false (by simp) ?_, ?_, ?_, fun hcollected => ?_⟩
  · show rejection.listing.failures ≠ []
    rw [hlisting]
    exact Listing.failures_push_ne_nil rfl
  · rintro _ ⟨⟩
    rw [hlisting]
    exact ⟨1 + before.length, _, hline, Listing.line?_push hnone, rfl⟩
  · rintro _ ⟨⟩ -
    rw [hline, hlisting, Listing.lines_push, List.length_append, List.length_map,
      TextLine.length_ofLines, Nat.add_comm]
    rfl
  · exact absurd (hends.symm.trans (hcollected _ rfl)) (by simp)

/-- **The listing tells the same as the result.** -/
theorem exposes_of_read (reg : Registry W) (text : Text) : Exposes reg text (read reg text) := by
  cases h : Reading.takeLines reg {} 1 (Text.lines text) with
  | ok r => exact exposes_of_takeLines h
  | error rejection => exact exposes_of_takeLines_eq_error h

end Feature

end Gherkin
