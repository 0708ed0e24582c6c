import Gherkin.Proofs.Run.Session
import Gherkin.Proofs.Text.ByteOrder

/-!
# A folder is the ordered sum of its features

A folder is run by way of its own: files are read one by one, and one summary is told at the end in
the place of one for each. Nevertheless it comes to the same as running the texts one after another
(`runFiles_append`), in the order of the bytes of their names (`featurePaths_eq`), apart from these
summaries, which add up to the one that is told.

A folder without features is not run, and a file that cannot be read ends the run there
(`Executor.runFolder_eq_sum`).
-/

namespace Gherkin

/-- The files of the names in the folder hold the texts. -/
def FileSystem.Holds (files : FileSystem) (folder : Text) (names texts : List Text) : Prop :=
  List.Forall₂ (fun name text => files.read (Executor.pathIn folder name) = .ok text) names texts

namespace Executor

variable {W : Type}

/-- The summary that is told of a text. -/
def summaryOfText : Except RunFault Report → Summary
  | .ok report => report.summary
  | .error _ => .rejected

/-! ## Files as texts -/

theorem summaryOfText_runText (e : Executor W) (contexts : Nat) (text : Text) :
    summaryOfText (e.runText contexts text).result
      = summaryOf (e.runFeature contexts text).result := by
  show summaryOfText ((e.runFeature contexts text).result.mapError .parse) = _
  cases (e.runFeature contexts text).result <;> rfl

/-- A text is run as the feature it is, and then its summary is told. -/
theorem events_runText (e : Executor W) (contexts : Nat) (text : Text) :
    (e.runText contexts text).events
      = (e.runFeature contexts text).events
        ++ [.finished (summaryOfText (e.runText contexts text).result)] := by
  rw [summaryOfText_runText]
  rfl

/-- What is run of texts is the run of one of them, after some contexts. -/
theorem exists_of_mem_runTexts (e : Executor W) {texts : List Text} {contexts : Nat}
    {single : Ran W RunFault Report} (h : single ∈ e.runTexts contexts texts) :
    ∃ earlier text, single = e.runText earlier text := by
  obtain ⟨i, hi⟩ := List.mem_iff_getElem?.mp h
  have hsingle := e.getElem?_runTexts contexts texts i
  dsimp only at hsingle
  rw [hi] at hsingle
  obtain ⟨text, -, hrun⟩ := Option.map_eq_some_iff.mp hsingle.symm
  exact ⟨_, text, hrun.symm⟩

/-- The summary of a text is told last. -/
theorem events_of_mem_runTexts (e : Executor W) {texts : List Text} {contexts : Nat} :
    ∀ single ∈ e.runTexts contexts texts,
      single.events = single.events.dropLast ++ [.finished (summaryOfText single.result)] := by
  intro single hsingle
  obtain ⟨earlier, text, rfl⟩ := e.exists_of_mem_runTexts hsingle
  rw [events_runText, List.dropLast_concat]

/-- No other summary is told of texts. -/
theorem summary?_runTexts (e : Executor W) (contexts : Nat) (texts : List Text) :
    ((e.runTexts contexts texts).flatMap (·.events.dropLast)).filterMap Event.summary? = [] := by
  rw [List.filterMap_flatMap, List.flatMap_eq_nil_iff]
  intro single hsingle
  obtain ⟨earlier, text, rfl⟩ := e.exists_of_mem_runTexts hsingle
  obtain ⟨created, -, haccounts⟩ := e.accounts_runFeature earlier text
  rw [events_runText, List.dropLast_concat]
  exact haccounts.unfinished

/-- **Files that can be read are run as their texts**, without the summaries of these. -/
theorem runFiles_append (e : Executor W) {files : FileSystem} {paths : List Text}
    {texts : List Text} (h : List.Forall₂ (fun path text => files.read path = .ok text) paths texts)
    (contexts : Nat) (rest : List Text) :
    let singles := e.runTexts contexts texts
    let later :=
      e.runFiles files (contexts + Event.created (singles.flatMap (·.events))) rest
    e.runFiles files contexts (paths ++ rest)
      = { events := singles.flatMap (·.events.dropLast) ++ later.events
          contexts := later.contexts
          result := later.result.map
            ((singles.map fun single => summaryOfText single.result).sum + ·) } := by
  induction h generalizing contexts with
  | nil =>
    have hzero (result : Except RunFault Summary) : result.map (0 + ·) = result := by
      cases result with
      | error fault => rfl
      | ok total => exact congrArg Except.ok (zero_add total)
    show _ = Ran.mk _ _ ((e.runFiles files contexts rest).result.map (0 + ·))
    rw [hzero]
    rfl
  | @cons path text paths texts hread _ ih =>
    have hevents : (e.runText contexts text).events.dropLast
        = (e.runFeature contexts text).events := by
      rw [events_runText, List.dropLast_concat]
    have hcontexts (singles : List (Ran W RunFault Report)) :
        contexts + Event.created ((e.runText contexts text :: singles).flatMap (·.events))
          = (e.runText contexts text).contexts + Event.created (singles.flatMap (·.events)) := by
      rw [List.flatMap_cons, Event.created_append, ← Nat.add_assoc, ← contexts_runText]
    have hadd (a b : Summary) (result : Except RunFault Summary) :
        (result.map (b + ·)).map (a + ·) = result.map (a + b + ·) := by
      cases result with
      | error fault => rfl
      | ok total => exact congrArg Except.ok (add_assoc a b total).symm
    have hrest := ih (e.runText contexts text).contexts
    dsimp only at hrest ⊢
    rw [runTexts, hcontexts, List.flatMap_cons, hevents, List.map_cons, List.sum_cons,
      summaryOfText_runText, ← hadd, List.append_assoc, List.cons_append, runFiles, hread]
    exact congrArg (fun later : Ran W RunFault Summary =>
      { events := (e.runFeature contexts text).events ++ later.events
        contexts := later.contexts
        result := later.result.map (summaryOf (e.runFeature contexts text).result + ·) :
          Ran W RunFault Summary }) hrest

/-- The features of a folder are those with the names of features, in the order of their bytes. -/
theorem featurePaths_eq {files : FileSystem} {folder : Text} {listed names : List Text}
    (hlisted : files.names folder = .ok listed)
    (hnames : names.Perm (listed.filter isFeatureName))
    (hsorted : names.Pairwise fun a b => a.utf8 ≤ b.utf8) :
    featurePaths files folder
      = if names = [] then .error (.noFeatures folder)
        else .ok (names.map (pathIn folder)) := by
  have hle : names.Pairwise fun a b => Text.le a b = true :=
    hsorted.imp fun {a b} hab => (Text.le_iff_utf8_le a b).mpr hab
  have hsort : (listed.filter isFeatureName).mergeSort Text.le = names :=
    LinearOn.text.mergeSort_eq_of_pairwise hnames hle
  unfold featurePaths
  rw [hlisted]
  dsimp only
  rw [hsort]
  cases names with
  | nil => rfl
  | cons name rest => rfl

/-! ## A rejected text among others -/

/-- A text that is rejected can be left out, and all others are run as before. -/
theorem runTexts_eraseIdx (e : Executor W) {texts : List Text} {i : Nat} {text : Text}
    {r : Rejection} (hi : texts[i]? = some text)
    (hread : Feature.read e.registry text = .error r) (contexts : Nat) :
    e.runTexts contexts (texts.eraseIdx i) = (e.runTexts contexts texts).eraseIdx i := by
  induction texts generalizing i contexts with
  | nil => rfl
  | cons first rest ih =>
    cases i with
    | zero =>
      obtain rfl : first = text := Option.some.inj hi
      have hcontexts : (e.runText contexts first).contexts = contexts := by
        show (e.runFeature contexts first).contexts = contexts
        rw [runFeature_of_rejected hread]
      rw [runTexts, hcontexts]
      rfl
    | succ i =>
      rw [List.eraseIdx_cons_succ, runTexts, runTexts, List.eraseIdx_cons_succ, ih hi]

/-- Seen through a view of which the contexts all look the same, every text tells what it tells
alone. -/
theorem events_runTexts_view {V : Type} (e : Executor W) {view : W → V}
    (hsees : e.registry.SeesOnly view) (hfresh : ∀ n n', view (e.fresh n) = view (e.fresh n'))
    (contexts : Nat) (texts : List Text) :
    (e.runTexts contexts texts).map (fun single => single.events.map (Event.view view))
      = texts.map fun text => (e.runText 0 text).events.map (Event.view view) := by
  have hlooks (contexts n : Nat) : view (e.fresh (contexts + n)) = view (e.fresh n) := hfresh _ n
  induction texts generalizing contexts with
  | nil => rfl
  | cons text rest ih =>
    have htext := congrArg Ran.events (e.runText_view hsees (hlooks contexts) 0 text)
    rw [runTexts, List.map_cons, List.map_cons, ih]
    exact congrArg (· :: _) htext

/-! ## A folder -/

section Folder

variable (e : Executor W) {files : FileSystem} {folder : Text}

/-- A folder of files that can all be read tells what their texts tell, and their sum. -/
theorem runFolder_of_holds {names texts : List Text}
    (hpaths : featurePaths files folder = .ok (names.map (pathIn folder)))
    (hholds : files.Holds folder names texts) (contexts : Nat) :
    let singles := e.runTexts contexts texts
    let total := (singles.map fun single => summaryOfText single.result).sum
    e.runFolder files contexts folder
      = { events := singles.flatMap (·.events.dropLast) ++ [.finished total]
          contexts := contexts + Event.created (singles.flatMap (·.events))
          result := .ok total } := by
  have hfiles := e.runFiles_append (List.forall₂_map_left_iff.mpr hholds) contexts []
  have hnothing (contexts : Nat) : e.runFiles files contexts []
      = { events := [], contexts, result := .ok 0 } := rfl
  intro singles total
  dsimp only at hfiles
  rw [List.append_nil, hnothing] at hfiles
  dsimp only [Except.map] at hfiles
  rw [List.append_nil, add_zero] at hfiles
  unfold runFolder
  rw [hpaths]
  dsimp only
  rw [hfiles]

/-- A folder tells what the files tell that come before the first one that cannot be read. -/
theorem runFolder_of_unreadable {before after texts : List Text} {name : Text} {error : FileFault}
    (hpaths : featurePaths files folder = .ok ((before ++ name :: after).map (pathIn folder)))
    (hholds : files.Holds folder before texts)
    (hread : files.read (pathIn folder name) = .error error) (contexts : Nat) :
    let singles := e.runTexts contexts texts
    e.runFolder files contexts folder
      = { events := singles.flatMap (·.events.dropLast)
          contexts := contexts + Event.created (singles.flatMap (·.events))
          result := .error (.read (pathIn folder name) error) } := by
  have hfiles := e.runFiles_append (List.forall₂_map_left_iff.mpr hholds) contexts
    (pathIn folder name :: after.map (pathIn folder))
  have hstops (contexts : Nat) :
      e.runFiles files contexts (pathIn folder name :: after.map (pathIn folder))
        = { events := [], contexts, result := .error (.read (pathIn folder name) error) } := by
    rw [runFiles, hread]
  intro singles
  dsimp only at hfiles
  rw [hstops] at hfiles
  dsimp only [Except.map] at hfiles
  rw [List.append_nil] at hfiles
  unfold runFolder
  rw [hpaths]
  dsimp only
  rw [List.map_append, List.map_cons, hfiles]

end Folder

/-- **A folder is the ordered sum of its features.** The names of its features are taken in the
order of their bytes, in whatever order they are listed. If there are any, and all files can be
read, the folder tells what their texts tell that are run one after another, but for the summaries
of these, and then their sum, which it comes to.

A text that is rejected counts in the sum, and leaves all others as they are without it. The events
of each text look like those of the text alone, whatever the others are, if handlers make nothing of
what tells contexts apart.

If there is no feature, nothing is told. If a file cannot be read, what the files before it tell is
told, no summary, and the fault is that of the file. -/
theorem runFolder_eq_sum (e : Executor W) {files : FileSystem} {folder : Text}
    {listed names : List Text} (hlisted : files.names folder = .ok listed)
    (hnames : names.Perm (listed.filter isFeatureName))
    (hsorted : names.Pairwise fun a b => a.utf8 ≤ b.utf8) (contexts : Nat) :
    let ran := e.runFolder files contexts folder
    (names = [] → ran.events = [] ∧ ran.result = .error (.noFeatures folder)) ∧
    (∀ texts, names ≠ [] → files.Holds folder names texts →
      let singles := e.runTexts contexts texts
      let total := (singles.map fun single => summaryOfText single.result).sum
      ran.events = singles.flatMap (·.events.dropLast) ++ [.finished total] ∧
      ran.events.filterMap Event.summary? = [total] ∧
      ran.result = .ok total ∧
      (∀ single ∈ singles,
        single.events = single.events.dropLast ++ [.finished (summaryOfText single.result)]) ∧
      (∀ i text r, texts[i]? = some text → Feature.read e.registry text = .error r →
        e.runTexts contexts (texts.eraseIdx i) = singles.eraseIdx i) ∧
      ∀ (V : Type) (view : W → V), e.registry.SeesOnly view →
        (∀ n n', view (e.fresh n) = view (e.fresh n')) →
        singles.map (fun single => single.events.map (Event.view view))
          = texts.map fun text => (e.runText 0 text).events.map (Event.view view)) ∧
    ∀ before name after texts error, names = before ++ name :: after →
      files.Holds folder before texts → files.read (pathIn folder name) = .error error →
      ran.events = (e.runTexts contexts texts).flatMap (·.events.dropLast) ∧
      ran.events.filterMap Event.summary? = [] ∧
      ran.result = .error (.read (pathIn folder name) error) := by
  have hpaths := featurePaths_eq hlisted hnames hsorted
  intro ran
  refine ⟨?empty, ?readable, ?unreadable⟩
  case empty =>
    intro hempty
    rw [if_pos hempty] at hpaths
    have hran : ran = { events := [], contexts, result := .error (.noFeatures folder) } := by
      show e.runFolder files contexts folder = _
      unfold runFolder
      rw [hpaths]
    rw [hran]
    exact ⟨rfl, rfl⟩
  case readable =>
    intro texts hsome hholds singles total
    rw [if_neg hsome] at hpaths
    have hran : ran = _ := e.runFolder_of_holds hpaths hholds contexts
    rw [hran]
    refine ⟨rfl, ?_, rfl, e.events_of_mem_runTexts, ?_, ?_⟩
    · rw [List.filterMap_append, summary?_runTexts]
      rfl
    · intro i text r hi hrejected
      exact e.runTexts_eraseIdx hi hrejected contexts
    · intro V view hsees hfresh
      exact e.events_runTexts_view hsees hfresh contexts texts
  case unreadable =>
    intro before name after texts error hsplit hholds hread
    have hsome : names ≠ [] := by
      rw [hsplit]
      simp
    rw [if_neg hsome, hsplit] at hpaths
    have hran : ran = _ := e.runFolder_of_unreadable hpaths hholds hread contexts
    rw [hran]
    exact ⟨rfl, e.summary?_runTexts contexts texts, rfl⟩

/-- The sample folder with its names listed in another order: the second text is rejected, and the
first one is run as it is without it. -/
theorem runFolder_eq_sum_sample :
    let files : FileSystem :=
      { Sample.folder with
        names := fun _ => .ok ["b.feature".toList, "notes".toList, "a.feature".toList] }
    let ran := Sample.executor.runFolder files 0 []
    let singles := Sample.executor.runTexts 0 [Sample.text, "Oops".toList]
    ∃ total, ran.result = .ok total ∧ total.features = 2 ∧ total.parsingErrors = 1 ∧
      ran.events = singles.flatMap (·.events.dropLast) ++ [.finished total] ∧
      Sample.executor.runTexts 0 [Sample.text] = singles.eraseIdx 1 := by
  intro files ran singles
  have hnames : ["a.feature".toList, "b.feature".toList].Perm
      (["b.feature".toList, "notes".toList, "a.feature".toList].filter isFeatureName) := by
    decide +kernel
  have hsorted : ["a.feature".toList, "b.feature".toList].Pairwise
      fun a b => Text.utf8 a ≤ Text.utf8 b := by
    decide +kernel
  have hholds : files.Holds [] ["a.feature".toList, "b.feature".toList]
      [Sample.text, "Oops".toList] := .cons rfl (.cons rfl .nil)
  have hlisted : files.names []
      = .ok ["b.feature".toList, "notes".toList, "a.feature".toList] := rfl
  obtain ⟨-, hreadable, -⟩ := runFolder_eq_sum Sample.executor hlisted hnames hsorted 0
  obtain ⟨hevents, -, hresult, -, hrejected, -⟩ := hreadable _ (by simp) hholds
  have hcounts : let total := (singles.map fun single => summaryOfText single.result).sum
      total.features = 2 ∧ total.parsingErrors = 1 := by
    decide +kernel
  have hread : (Feature.read Sample.executor.registry "Oops".toList).toOption = none := by
    decide +kernel
  obtain ⟨r, hr⟩ : ∃ r, Feature.read Sample.executor.registry "Oops".toList = .error r := by
    cases hoops : Feature.read Sample.executor.registry "Oops".toList with
    | ok f =>
      rw [hoops] at hread
      cases hread
    | error r => exact ⟨r, rfl⟩
  exact ⟨_, hresult, hcounts.1, hcounts.2, hevents, hrejected 1 "Oops".toList r rfl hr⟩

/-- A folder without features tells of no end. -/
theorem runFolder_without_features :
    let files : FileSystem := .ofEntries [(["f".toList], .folder)]
    files.isFolder "f".toList = true ∧ files.names "f".toList = .ok [] ∧
      files.Holds "f".toList [] [] ∧
      ¬∃ total,
        (Sample.executor.runFolder files 0 "f".toList).events
          = (Sample.executor.runTexts 0 []).flatMap (·.events.dropLast) ++ [.finished total] ∧
        (Sample.executor.runFolder files 0 "f".toList).result = .ok total := by
  intro files
  have hnames : files.names "f".toList = .ok [] := rfl
  refine ⟨by decide, hnames, .nil, ?_⟩
  rintro ⟨total, hevents, -⟩
  have hran : Sample.executor.runFolder files 0 "f".toList
      = { events := [], contexts := 0, result := .error (.noFeatures "f".toList) } := by
    have hpaths := featurePaths_eq hnames (List.Perm.refl []) List.Pairwise.nil
    unfold runFolder
    rw [hpaths]
    rfl
  rw [hran] at hevents
  cases hevents

end Executor

end Gherkin
