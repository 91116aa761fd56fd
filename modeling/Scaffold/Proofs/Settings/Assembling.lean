import Scaffold.Proofs.Files.Lookup
import Scaffold.Proofs.Generator.Reading
import Scaffold.Proofs.Settings.Fields
import Scaffold.Settings.Source

/-!
# Settings from several sources

Settings are put together from the defaults, a configuration file, the project root and explicit
overrides. Field by field the latest source that says something counts, and only what counts is checked.

* `chosen`: the value that counts for a field.
* `get?_merged`, `mem_keys_merged`: what is merged says this of each field, and has these keys.
* `source`, `Says`, `Unusable`: the configuration file, its entries, and why it has none.
* `Assembled`: what the sources come to once the entries of the file are there.
* `Built`, `assemble_built`: what is put together from a workspace.
-/
namespace Scaffold

/-! ## Mappings with text keys -/

theorem sameKey_text_iff {k : Value} {name : String} :
    k.sameKey (.text name) = true ↔ k = .text name := by
  cases k <;> simp [Value.sameKey, Value.asInt?]

namespace Entries

variable {entries : Entries} {name other : String} {v : Value}

theorem get?_cons (k v : Value) (rest : Entries) (name : String) :
    get? ((k, v) :: rest) name = if k.sameKey (.text name) then some v else get? rest name := by
  unfold get? at?
  rw [List.find?_cons]
  cases k.sameKey (.text name) <;> rfl

theorem get?_insert (entries : Entries) (name : String) (v : Value) (other : String) :
    get? (insert (.text name) v entries) other = if other = name then some v else get? entries other := by
  have hnew : (Value.text name).sameKey (.text other) = true ↔ other = name := by
    rw [sameKey_text_iff, Value.text.injEq]
    exact eq_comm
  induction entries with
  | nil =>
    rw [insert, get?_cons]
    simp only [hnew]
  | cons entry rest ih =>
    obtain ⟨k, held⟩ := entry
    rw [insert]
    cases hk : k.sameKey (.text name) with
    | true =>
      rw [if_pos rfl, get?_cons, get?_cons, sameKey_text_iff.mp hk]
      by_cases hother : other = name
      · rw [if_pos (hnew.mpr hother), if_pos hother]
      · rw [if_neg fun h => hother (hnew.mp h), if_neg hother, if_neg fun h => hother (hnew.mp h)]
    | false =>
      rw [if_neg Bool.false_ne_true, get?_cons, get?_cons, ih]
      by_cases hother : other = name
      · simp only [hother, hk, Bool.false_eq_true, if_false, if_true]
      · rw [if_neg hother, if_neg hother]

theorem mem_keys_insert {entries : Entries} {name : String} {v key : Value} :
    key ∈ (insert (.text name) v entries).map Prod.fst ↔
      key = .text name ∨ key ∈ entries.map Prod.fst := by
  induction entries with
  | nil => simp [insert]
  | cons entry rest ih =>
    obtain ⟨k, held⟩ := entry
    rw [insert]
    by_cases hk : k = .text name
    · rw [if_pos (sameKey_text_iff.mpr hk)]
      simp [hk]
    · rw [if_neg fun h => hk (sameKey_text_iff.mp h)]
      simp only [List.map_cons, List.mem_cons, ih]
      exact or_left_comm

end Entries

namespace Settings

open Files (Path)
open Validation

/-! ## The value that counts -/

/-- Overrides as entries. -/
def asEntries (overrides : List (String × Value)) : Entries :=
  overrides.map fun change => (.text change.1, change.2)

/-- What the overrides say of a field; a null says nothing. -/
def overriding (overrides : List (String × Value)) (field : String) : Option Value :=
  (overrides.lookup field).filter fun v => !v.isNull

/-- The value that counts for a field: that of an override, else the given project root, else that of the
file. -/
def chosen (root : Path) (entries : Entries) (overrides : List (String × Value)) (field : String) :
    Option Value :=
  match overriding overrides field with
  | some v => some v
  | none => if field = "project_root" then some (.text root.text) else Entries.get? entries field

/-- The keys that the file or the overrides that count speak of. -/
def Mentions (entries : Entries) (overrides : List (String × Value)) (key : Value) : Prop :=
  key ∈ entries.map Prod.fst ∨ ∃ change ∈ overrides, change.2.isNull = false ∧ key = .text change.1

theorem get?_override {overrides : List (String × Value)} (hnames : (overrides.map Prod.fst).Nodup)
    (entries : Entries) (field : String) :
    Entries.get? (override entries (asEntries overrides)) field =
      match overriding overrides field with
      | some v => some v
      | none => Entries.get? entries field := by
  induction overrides generalizing entries with
  | nil => rfl
  | cons change rest ih =>
    obtain ⟨name, v⟩ := change
    obtain ⟨hname, hnames⟩ := List.nodup_cons.mp hnames
    have hstep : override entries (asEntries ((name, v) :: rest)) =
        override (if v.isNull then entries else Entries.insert (.text name) v entries)
          (asEntries rest) := rfl
    -- The later overrides have other names, so they say nothing of this one's field.
    rw [hstep, ih hnames]
    unfold overriding
    rw [lookup_cons_eq_ite]
    by_cases hfield : field = name
    · subst hfield
      rw [lookup_of_not_mem hname]
      cases hv : v.isNull <;> simp [hv, Entries.get?_insert, Option.filter]
    · cases hv : v.isNull <;> simp [hfield, Entries.get?_insert]

theorem mem_keys_override {overrides : List (String × Value)} {entries : Entries} {key : Value} :
    key ∈ (override entries (asEntries overrides)).map Prod.fst ↔ Mentions entries overrides key := by
  unfold Mentions
  induction overrides generalizing entries with
  | nil => simp [override, asEntries]
  | cons change rest ih =>
    obtain ⟨name, v⟩ := change
    have hstep : override entries (asEntries ((name, v) :: rest)) =
        override (if v.isNull then entries else Entries.insert (.text name) v entries)
          (asEntries rest) := rfl
    rw [hstep, ih]
    cases hv : v.isNull with
    | true => simp [hv]
    | false =>
      simp only [Bool.false_eq_true, if_false, Entries.mem_keys_insert, List.mem_cons,
        exists_eq_or_imp, hv, true_and]
      rw [or_assoc, or_left_comm]

/-- What is merged says of each field what counts. -/
theorem get?_merged {overrides : List (String × Value)} (hnames : (overrides.map Prod.fst).Nodup)
    (root : Path) (entries : Entries) (field : String) :
    Entries.get? (merged root entries (asEntries overrides)) field =
      chosen root entries overrides field := by
  unfold merged chosen Entries.put
  rw [get?_override hnames, Entries.get?_insert]

theorem mem_keys_merged {overrides : List (String × Value)} {root : Path} {entries : Entries}
    {key : Value} :
    key ∈ (merged root entries (asEntries overrides)).map Prod.fst ↔
      key = .text "project_root" ∨ Mentions entries overrides key := by
  unfold merged Entries.put
  rw [mem_keys_override]
  unfold Mentions
  rw [Entries.mem_keys_insert, or_assoc]

/-- The entries of what is merged are told by their keys; the project root always has one. -/
theorem exists_merged_iff {overrides : List (String × Value)} {root : Path} {entries : Entries}
    {P : Value → Prop} (hroot : ¬ P (.text "project_root")) :
    (∃ entry ∈ merged root entries (asEntries overrides), P entry.1) ↔
      ∃ key, Mentions entries overrides key ∧ P key := by
  constructor
  · rintro ⟨entry, hentry, hP⟩
    rcases mem_keys_merged.mp (List.mem_map_of_mem (f := Prod.fst) hentry) with hkey | hkey
    · exact absurd (hkey ▸ hP) hroot
    · exact ⟨entry.1, hkey, hP⟩
  · rintro ⟨key, hkey, hP⟩
    obtain ⟨entry, hentry, rfl⟩ := List.mem_map.mp (mem_keys_merged.mpr (.inr hkey))
    exact ⟨entry, hentry, hP⟩

/-- Nulls among the overrides change nothing. -/
theorem override_filter (entries : Entries) (overrides : List (String × Value)) :
    override entries (asEntries (overrides.filter fun change => !change.2.isNull)) =
      override entries (asEntries overrides) := by
  unfold override asEntries
  rw [List.foldl_map, List.foldl_map, List.foldl_filter]
  congr 1
  funext entries change
  cases change.2.isNull <;> rfl

/-! ## From entries to settings -/

/-- What is wrong with a key that is not the name of a field. -/
def keyIssue? (key : Value) : Option Issue := entryIssue? fields (key, .null)

/-- What the sources come to: settings that take what counts for each field, if all of it passes and no
key is unknown, and else what is wrong with it. What does not count is not looked at. -/
structure Assembled (root : Path) (entries : Entries) (overrides : List (String × Value))
    (outcome : Except Fault Settings) : Prop where
  accepted_iff : ∀ s, outcome = .ok s ↔
    (∀ key, Mentions entries overrides key → keyIssue? key = none) ∧
      ∀ field ∈ fields, s.Takes field (chosen root entries overrides field)
  refused : (∀ s, outcome ≠ .ok s) →
    ∃ issues, outcome = .error (.config (.invalid ⟨record, issues⟩)) ∧
      ∀ issue, issue ∈ issues ↔
        (∃ field ∈ fields, issue ∈ faults field (chosen root entries overrides field)) ∨
          ∃ key, Mentions entries overrides key ∧ keyIssue? key = some issue

/-- The settings from the entries of a file. -/
def settingsOf (root : Path) (entries overrides : Entries) : Except Fault Settings :=
  (ofValue (.mapping (merged root entries overrides))).mapError fun rejection =>
    .config (.invalid rejection)

theorem settingsOf_assembled {overrides : List (String × Value)}
    (hnames : (overrides.map Prod.fst).Nodup) (root : Path) (entries : Entries) :
    Assembled root entries overrides (settingsOf root entries (asEntries overrides)) where
  accepted_iff s := by
    unfold settingsOf
    rw [mapError_eq_ok, ofValue_mapping_eq_ok_iff]
    simp only [get?_merged hnames]
    refine and_congr_left fun _ => ?_
    have hunknown : (∃ entry ∈ merged root entries (asEntries overrides), keyIssue? entry.1 ≠ none) ↔
        ∃ key, Mentions entries overrides key ∧ keyIssue? key ≠ none :=
      exists_merged_iff (P := fun key => keyIssue? key ≠ none) fun h => h rfl
    have hknown := not_congr hunknown
    simp only [not_exists, not_and, ne_eq, Classical.not_not] at hknown
    exact hknown
  refused h := by
    unfold settingsOf at h ⊢
    cases hr : ofValue (.mapping (merged root entries (asEntries overrides))) with
    | ok s => exact absurd (by rw [hr]; rfl) (h s)
    | error r =>
      refine ⟨_, by rw [ofValue_mapping_error hr]; rfl, fun issue => ?_⟩
      rw [List.mem_append, List.mem_flatMap, List.mem_filterMap]
      simp only [get?_merged hnames]
      exact or_congr_right (exists_merged_iff (P := fun key => keyIssue? key = some issue) nofun)

/-! ## The configuration file -/

/-- Whether there is a file at a path as things are now. -/
def isFileAt (w : Workspace) (p : Path) : Bool := (w.files.isFile w.directory p).toOption == some true

/-- The paths at which a configuration file is looked for. -/
def candidates (root : Path) : Option Path → List Path
  | some p => [p]
  | none => fileNames.map root.join

/-- The configuration file that is read: the given one, or the first that is there. -/
def source (w : Workspace) (root : Path) : Option Path → Option Path
  | some p => some p
  | none => (fileNames.map root.join).find? (isFileAt w)

/-- A configuration file with these entries; an empty document has none. -/
def Says (w : Workspace) (p : Path) (entries : Entries) : Prop :=
  isFileAt w p = true ∧ ∃ text, Workspace.textAt w.files w.directory p = .ok text ∧
    (readFormat (formatOf p) text.toList = .ok (.mapping entries) ∨
      readFormat (formatOf p) text.toList = .ok .null ∧ entries = [])

/-- Why a configuration file has no entries. -/
inductive Unusable (w : Workspace) (p : Path) : ConfigError → Prop where
  | missing : isFileAt w p = false → Unusable w p (.notFound p.text)
  | unreadable {failure : ReadFailure} : isFileAt w p = true →
      Workspace.textAt w.files w.directory p = .error failure →
      Unusable w p (.unreadable p.text failure)
  | malformed {text detail : String} : isFileAt w p = true →
      Workspace.textAt w.files w.directory p = .ok text →
      readFormat (formatOf p) text.toList = .error (.malformed detail) →
      Unusable w p (.malformed (formatOf p) p.text detail)
  | notMapping {text : String} {value : Value} : isFileAt w p = true →
      Workspace.textAt w.files w.directory p = .ok text →
      readFormat (formatOf p) text.toList = .ok value → value.isNull = false →
      (∀ entries, value ≠ .mapping entries) →
      Unusable w p (.notMapping (formatOf p) p.text value.kindName)

/-- The entries of a configuration file as it is now. -/
def entriesAt (w : Workspace) (p : Path) : Except Fault Entries := do
  let there ← (w.files.isFile w.directory p).mapError Fault.file
  if there then
    let text ← (Workspace.textAt w.files w.directory p).mapError fun failure =>
      Fault.config (.unreadable p.text failure)
    entriesOf (formatOf p) p.text text
  else .error (.config (.notFound p.text))

theorem loadFile_answers (w : Workspace) (p : Path) :
    Action.Answers (Told w) (loadFile p) (entriesAt w p) := by
  unfold loadFile entriesAt
  refine (isFile_answers w p).bind fun there _ => ?_
  cases there with
  | false => exact (Action.Answers.fail _).bind_error
  | true =>
    simp only [Bool.not_true, Bool.false_eq_true, if_false, if_true]
    refine (readText_answers w p).bind_ok ?_
    cases Workspace.textAt w.files w.directory p with
    | error failure => exact Action.Answers.fail _
    | ok text => exact Action.Answers.lift _

theorem isFileAt_iff {w : Workspace} {p : Path} (h : ¬ w.files.TooLong w.directory p) {there : Bool} :
    isFileAt w p = there ↔ w.files.isFile w.directory p = .ok there := by
  unfold isFileAt
  cases hfile : w.files.isFile w.directory p with
  | error failure => exact absurd (Files.Tree.leadsTo_error_iff.mp hfile).1 h
  | ok found => cases found <;> cases there <;> simp [Except.toOption]

theorem firstFile_cons (root : Path) (name : String) (rest : List String) :
    firstFile root (name :: rest) = (Workspace.isFile (root.join name) >>= fun there =>
      if there then pure (some (root.join name)) else firstFile root rest) := by
  rfl

/-- Looking for the first file finds the first that is there, unless a path is refused. -/
theorem firstFile_answers {w : Workspace} {root : Path} {names : List String}
    (hshort : ∀ p ∈ names.map root.join, ¬ w.files.TooLong w.directory p) :
    Action.Answers (Told w) (firstFile root names)
      (.ok ((names.map root.join).find? (isFileAt w))) := by
  induction names with
  | nil => exact Action.Answers.pure none
  | cons name rest ih =>
    rw [List.map_cons, List.forall_mem_cons] at hshort
    obtain ⟨hname, hrest⟩ := hshort
    have hfile := isFile_answers w (root.join name)
    rw [(isFileAt_iff hname).mp rfl] at hfile
    rw [firstFile_cons, List.map_cons, List.find?_cons]
    refine hfile.bind_ok ?_
    cases isFileAt w (root.join name) with
    | true => exact Action.Answers.pure _
    | false => exact ih hrest

theorem fileEntries_answers {w : Workspace} {root : Path} {file : Option Path}
    (hshort : ∀ p ∈ candidates root file, ¬ w.files.TooLong w.directory p) :
    Action.Answers (Told w) (fileEntries root file)
      (match source w root file with
      | none => .ok []
      | some p => entriesAt w p) := by
  have hloaded : ∀ p, Action.Answers (Told w)
      (loadFile p >>= fun entries =>
        note .info .generator
          ("Loaded configuration from " ++ p.text ++ " (" ++ toString entries.length ++ " keys).") >>=
        fun _ => pure entries) (entriesAt w p) := by
    intro p
    rw [← bind_pure (entriesAt w p)]
    refine (loadFile_answers w p).bind fun entries _ => ?_
    exact (told_note w _ _ _).bind_ok (Action.Answers.pure entries)
  -- The note behind the loading tells of the entries and changes none.
  unfold fileEntries
  cases file with
  | some p => exact (Action.Answers.pure (some p)).bind_ok (hloaded p)
  | none =>
    refine (firstFile_answers hshort).bind_ok ?_
    unfold source
    simp only
    cases (fileNames.map root.join).find? (isFileAt w) with
    | none => exact Action.Answers.pure []
    | some p => exact hloaded p

theorem assemble_answers {w : Workspace} {root : Path} {file : Option Path}
    (hshort : ∀ p ∈ candidates root file, ¬ w.files.TooLong w.directory p) (overrides : Entries) :
    Action.Answers (Told w) (assemble root file overrides)
      ((match source w root file with
      | none => .ok []
      | some p => entriesAt w p) >>= fun entries => settingsOf root entries overrides) := by
  unfold assemble
  refine (fileEntries_answers hshort).bind fun entries _ => ?_
  unfold settingsOf
  cases ofValue (.mapping (merged root entries overrides)) with
  | ok s => exact Action.Answers.pure s
  | error r => exact Action.Answers.fail _

section Entries

variable {w : Workspace} {p : Path} {entries : Entries} {error : ConfigError}

theorem entriesAt_of_text {text : String} (hshort : ¬ w.files.TooLong w.directory p)
    (hfile : isFileAt w p = true) (htext : Workspace.textAt w.files w.directory p = .ok text) :
    entriesAt w p = entriesOf (formatOf p) p.text text := by
  unfold entriesAt
  rw [(isFileAt_iff hshort).mp hfile, htext]
  rfl

theorem entriesAt_eq_ok (hshort : ¬ w.files.TooLong w.directory p) (h : Says w p entries) :
    entriesAt w p = .ok entries := by
  obtain ⟨hfile, text, htext, hread⟩ := h
  rw [entriesAt_of_text hshort hfile htext]
  unfold entriesOf
  rcases hread with hread | ⟨hread, rfl⟩ <;> rw [hread]

theorem entriesAt_eq_error (hshort : ¬ w.files.TooLong w.directory p) (h : Unusable w p error) :
    entriesAt w p = .error (.config error) := by
  cases h with
  | missing hfile =>
    unfold entriesAt
    rw [(isFileAt_iff hshort).mp hfile]
    rfl
  | unreadable hfile htext =>
    unfold entriesAt
    rw [(isFileAt_iff hshort).mp hfile, htext]
    rfl
  | malformed hfile htext hread =>
    rw [entriesAt_of_text hshort hfile htext]
    unfold entriesOf
    rw [hread]
  | @notMapping text value hfile htext hread hnull hmapping =>
    rw [entriesAt_of_text hshort hfile htext]
    unfold entriesOf
    rw [hread]
    cases value with
    | null => cases hnull
    | mapping entries => exact absurd rfl (hmapping entries)
    | _ => rfl

/-- A configuration file has entries, or there is a reason why it has none, if its text is read or refused
as malformed. -/
theorem says_or_unusable
    (hparse : ∀ text flaw, Workspace.textAt w.files w.directory p = .ok text →
      readFormat (formatOf p) text.toList ≠ .error (.unreadable flaw)) :
    (∃ entries, Says w p entries) ∨ ∃ error, Unusable w p error := by
  cases hfile : isFileAt w p with
  | false => exact .inr ⟨_, .missing hfile⟩
  | true =>
    cases htext : Workspace.textAt w.files w.directory p with
    | error failure => exact .inr ⟨_, .unreadable hfile htext⟩
    | ok text =>
      cases hread : readFormat (formatOf p) text.toList with
      | error fault =>
        cases fault with
        | malformed detail => exact .inr ⟨_, .malformed hfile htext hread⟩
        | unreadable flaw => exact absurd hread (hparse text flaw htext)
      | ok value =>
        cases hnull : value.isNull with
        | true =>
          have hvalue : value = .null := by cases value <;> first | rfl | cases hnull
          subst hvalue
          exact .inl ⟨[], hfile, text, htext, .inr ⟨hread, rfl⟩⟩
        | false =>
          by_cases hmapping : ∃ entries, value = .mapping entries
          · obtain ⟨entries, rfl⟩ := hmapping
            exact .inl ⟨entries, hfile, text, htext, .inl hread⟩
          · exact .inr ⟨_, .notMapping hfile htext hread hnull (not_exists.mp hmapping)⟩

end Entries

/-! ## What is put together -/

/-- What is put together from a workspace. -/
structure Built (w : Workspace) (root : Path) (file : Option Path) (overrides : List (String × Value))
    (outcome : Except Fault Settings) : Prop where
  /-- Without a configuration file there are no entries. -/
  noFile : source w root file = none → Assembled root [] overrides outcome
  /-- The entries of a file are put below the project root and the overrides. -/
  usable : ∀ p entries, source w root file = some p → Says w p entries →
    Assembled root entries overrides outcome
  /-- A file without entries ends it with the reason. -/
  unusable : ∀ p error, source w root file = some p → Unusable w p error →
    outcome = .error (.config error)
  /-- There is no third kind of file. -/
  either : ∀ p, source w root file = some p →
    (∃ entries, Says w p entries) ∨ ∃ error, Unusable w p error
  /-- An override with null is none. -/
  nulls : assemble root file (asEntries (overrides.filter fun change => !change.2.isNull)) =
    assemble root file (asEntries overrides)

theorem source_mem_candidates {w : Workspace} {root : Path} {file : Option Path} {p : Path}
    (h : source w root file = some p) : p ∈ candidates root file := by
  cases file with
  | some given => cases h; exact List.mem_singleton.mpr rfl
  | none => exact List.mem_of_find?_eq_some h

/-- Settings are put together as they should be, and nothing but the journal changes, if no path that is
looked at is refused and the text of the file is one that its format can judge. -/
theorem assemble_built (root : Path) (file : Option Path) {overrides : List (String × Value)}
    (hnames : (overrides.map Prod.fst).Nodup) {w : Workspace}
    (hshort : ∀ p ∈ candidates root file, ¬ w.files.TooLong w.directory p)
    (hparse : ∀ p text flaw, source w root file = some p →
      Workspace.textAt w.files w.directory p = .ok text →
      readFormat (formatOf p) text.toList ≠ .error (.unreadable flaw)) :
    Built w root file overrides ((assemble root file (asEntries overrides)).run w).1 ∧
      Told w ((assemble root file (asEntries overrides)).run w).2 := by
  obtain ⟨w', hr, htold⟩ := assemble_answers hshort (asEntries overrides) w (Told.refl w)
  rw [hr]
  refine ⟨?_, htold⟩
  exact {
    noFile := by
      intro hnone
      rw [hnone]
      exact settingsOf_assembled hnames root []
    usable := by
      intro p entries hsome hsays
      rw [hsome]
      simp only
      rw [entriesAt_eq_ok (hshort p (source_mem_candidates hsome)) hsays]
      exact settingsOf_assembled hnames root entries
    unusable := by
      intro p error hsome hunusable
      rw [hsome]
      simp only
      rw [entriesAt_eq_error (hshort p (source_mem_candidates hsome)) hunusable]
      rfl
    either := fun p hsome => says_or_unusable fun text flaw => hparse p text flaw hsome
    nulls := by
      unfold assemble merged
      simp only [override_filter] }

/-! ## Two small projects -/

/-- The root of a project. -/
def smallRoot : Path := .ofLocation ["p"]

/-- A project that has nothing but a configuration file with this text. -/
def smallProject (text : String) : Workspace :=
  { files := ⟨[(["p"], .directory), (["p", "crudgen.yaml"], .file 0o644 text.toUTF8)]⟩ }

theorem smallProject_short (text : String) :
    ∀ p ∈ candidates smallRoot none,
      ¬ (smallProject text).files.TooLong (smallProject text).directory p := by
  intro p hp
  simp only [candidates, fileNames, List.map_cons, List.map_nil, List.mem_cons, List.not_mem_nil,
    or_false] at hp
  rcases hp with rfl | rfl | rfl
  all_goals exact Files.Tree.not_tooLong_of_isFile rfl

/-- A configuration file whose first value is refused by its field. -/
def hiddenText : String := "models_dir: 5\nnamespace: Shop\n"

/-- Overrides that hide the refused value, and a null that hides nothing. -/
def smallOverrides : List (String × Value) := [("models_dir", .text "lib/"), ("namespace", .null)]

theorem hiddenText_judged (p : Path) (text : String) (flaw : Markup.Unreadable)
    (hsource : source (smallProject hiddenText) smallRoot none = some p)
    (htext : Workspace.textAt (smallProject hiddenText).files (smallProject hiddenText).directory p =
      .ok text) :
    readFormat (formatOf p) text.toList ≠ .error (.unreadable flaw) := by
  have hp : smallRoot.join "crudgen.yaml" = p := Option.some.inj (Eq.trans rfl hsource)
  subst hp
  have hread : (Workspace.textAt (smallProject hiddenText).files [] (smallRoot.join "crudgen.yaml")).toOption.map
      (fun text => (readFormat (formatOf (smallRoot.join "crudgen.yaml")) text.toList).isOk) =
        some true := by
    decide +kernel
  intro hflaw
  rw [show Workspace.textAt _ [] _ = _ from htext] at hread
  simp [Except.toOption, hflaw, Except.isOk, Except.toBool] at hread

/-- Settings are built although the file has a refused value, for it is hidden. -/
theorem hidden_value_built :
    (smallOverrides.map Prod.fst).Nodup ∧
      Built (smallProject hiddenText) smallRoot none smallOverrides
        ((assemble smallRoot none (asEntries smallOverrides)).run (smallProject hiddenText)).1 ∧
      ((assemble smallRoot none (asEntries smallOverrides)).run (smallProject hiddenText)).1 =
        .ok { projectRoot := "/p", modelsDir := "lib", rootNamespace := "Shop" } :=
  ⟨by decide, (assemble_built smallRoot none (by decide) (smallProject_short _) hiddenText_judged).1,
    toOption_eq_some.mp (by decide +kernel)⟩

/-- An empty document is no mapping, and yet settings are made from it, all of them defaults. -/
theorem empty_document_accepted :
    (∃ value, readFormat (formatOf (smallRoot.join "crudgen.yaml")) [] = .ok value ∧
      ∀ entries, value ≠ .mapping entries) ∧
    ((assemble smallRoot none []).run (smallProject "")).1 = .ok { projectRoot := "/p" } := by
  constructor
  · have hnull : (readFormat (formatOf (smallRoot.join "crudgen.yaml")) []).toOption.map Value.isNull =
        some true := by
      decide +kernel
    obtain ⟨value, hvalue, hnull⟩ := Option.map_eq_some_iff.mp hnull
    refine ⟨value, toOption_eq_some.mp hvalue, ?_⟩
    rintro entries rfl
    cases hnull
  · exact toOption_eq_some.mp (by decide +kernel)

end Settings

end Scaffold
