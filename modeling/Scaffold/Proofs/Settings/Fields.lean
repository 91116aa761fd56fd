import Scaffold.Proofs.Validation
import Scaffold.Settings.Basic

/-!
# Settings, field by field

Settings have ten fields, each with a check of its own. Making settings from data and changing one of
them both come down to these checks.

* `columns`, `stored`: what settings hold, as data under the names of their fields.
* `form`: the form in which a field takes a value, or what is wrong with the value.
* `form_default`: every default passes its own check.
* `set_field`, `stored_set`: what changing a field comes to.
* `Takes`, `ofValue_mapping_eq_ok_iff`, `ofValue_mapping_error`: what data comes to.
-/
namespace Scaffold.Settings

open Validation

/-! ## What settings hold -/

/-- A setup mode or none, as data. -/
def modeText (mode : Option SetupMode) : Value := .optionalText (mode.map SetupMode.name)

/-- What settings hold, as data under the names of their fields. -/
def columns (s : Settings) : List (String × Value) :=
  [("project_root", .text s.projectRoot), ("stubs_dir", .optionalText s.stubsDir),
    ("models_dir", .text s.modelsDir), ("repositories_dir", .text s.repositoriesDir),
    ("controllers_dir", .text s.controllersDir), ("namespace", .text s.rootNamespace),
    ("with_controller", .bool s.withController), ("setup_mode", modeText s.setupMode),
    ("install_dependencies", .bool s.installDependencies), ("dry_run", .bool s.dryRun)]

/-- This is how settings are shown. -/
theorem toValue_eq (s : Settings) : s.toValue = .record s.columns := rfl

/-- What a field holds. -/
def stored (s : Settings) (field : String) : Value := (s.columns.lookup field).getD .null

theorem text_injective : Function.Injective Value.text := fun _ _ h => Value.text.inj h

theorem bool_injective : Function.Injective Value.bool := fun _ _ h => Value.bool.inj h

theorem optionalText_injective : Function.Injective Value.optionalText := by
  intro a b h
  cases a <;> cases b <;> simp_all [Value.optionalText]

theorem name_injective : Function.Injective SetupMode.name := by
  intro a b h
  cases a <;> cases b <;> first | rfl | exact absurd h (by decide)

theorem modeText_injective : Function.Injective modeText :=
  optionalText_injective.comp (Option.map_injective name_injective)

theorem columns_eq (s : Settings) : s.columns = fields.map fun field => (field, s.stored field) := rfl

/-- Settings are what their fields hold. -/
theorem eq_of_stored {s t : Settings} (h : ∀ field ∈ fields, s.stored field = t.stored field) : s = t := by
  have hcolumns : s.columns = t.columns := by
    rw [columns_eq, columns_eq]
    exact List.map_congr_left fun field hfield => by rw [h field hfield]
  simp only [columns, List.cons.injEq, Prod.mk.injEq, text_injective.eq_iff, bool_injective.eq_iff,
    optionalText_injective.eq_iff, modeText_injective.eq_iff, true_and, and_true] at hcolumns
  cases s
  cases t
  simp_all

/-! ## The checks of the fields -/

/-- The checks of the fields; what passes is shown as data. -/
def forms : List (String × Check Value) :=
  [("project_root", fun v => (text v).map .text),
    ("stubs_dir", fun v => (optional text v).map .optionalText),
    ("models_dir", fun v => (checkDirectory v).map .text),
    ("repositories_dir", fun v => (checkDirectory v).map .text),
    ("controllers_dir", fun v => (checkDirectory v).map .text),
    ("namespace", fun v => (checkNamespace v).map .text),
    ("with_controller", fun v => (bool v).map .bool),
    ("setup_mode", fun v => (optional checkSetupMode v).map modeText),
    ("install_dependencies", fun v => (bool v).map .bool),
    ("dry_run", fun v => (bool v).map .bool)]

/-- The form in which a field takes a value, or what is wrong with the value. -/
def form (field : String) : Check Value :=
  (forms.lookup field).getD fun _ => .flawed (.noSuchField field)

/-- What holds of the checks of all fields. -/
theorem forall_fields {P : String → Prop} :
    (∀ field ∈ fields, P field) ↔
      P "project_root" ∧ P "stubs_dir" ∧ P "models_dir" ∧ P "repositories_dir" ∧ P "controllers_dir" ∧
        P "namespace" ∧ P "with_controller" ∧ P "setup_mode" ∧ P "install_dependencies" ∧
        P "dry_run" := by
  simp only [fields, List.forall_mem_cons, List.not_mem_nil, false_imp_iff, implies_true, and_true]

/-- Every default passes its own check. -/
theorem form_default : ∀ field ∈ fields, form field (stored {} field) = .ok (stored {} field) := by
  rw [forall_fields]
  exact ⟨rfl, rfl, rfl, rfl, rfl, rfl, rfl, rfl, rfl, rfl⟩

/-! ## Changing a field -/

/-- The columns with another value in one of them. -/
def put (columns : List (String × Value)) (field : String) (v : Value) : List (String × Value) :=
  columns.map fun column => if column.1 = field then (field, v) else column

theorem lookup_of_not_mem {β : Type} {l : List (String × β)} {field : String}
    (h : field ∉ l.map Prod.fst) : l.lookup field = none := by
  rw [List.lookup_eq_none_iff]
  intro entry hentry
  exact bne_iff_ne.mpr fun heq => h (heq ▸ List.mem_map_of_mem hentry)

theorem lookup_cons_eq_ite (column : String × Value) (rest : List (String × Value)) (field : String) :
    (column :: rest).lookup field = if field = column.1 then some column.2 else rest.lookup field := by
  rw [List.lookup_cons]
  by_cases h : field = column.1
  · simp [h]
  · simp [h, beq_false_of_ne h]

theorem lookup_put (columns : List (String × Value)) (field : String) (v : Value) (other : String) :
    (put columns field v).lookup other =
      if other = field then (columns.lookup field).map fun _ => v else columns.lookup other := by
  induction columns with
  | nil => simp [put]
  | cons column rest ih =>
    unfold put at ih ⊢
    rw [List.map_cons, lookup_cons_eq_ite, lookup_cons_eq_ite, lookup_cons_eq_ite, ih]
    by_cases hname : column.1 = field
    · by_cases hother : other = field <;> simp [hname, hother]
    · by_cases hother : other = column.1
      · simp [hname, hother]
      · by_cases hfield : other = field <;> simp [hname, hother, hfield, Ne.symm hname]

/-- What changing a field comes to, by the form of the value. -/
def Changed (s : Settings) (field : String) (outcome : Except Refusal Settings) :
    Checked Value → Prop
  | .ok x => ∃ s', outcome = .ok s' ∧ s'.columns = put s.columns field x
  | .bad issues => outcome = .error (.rejected ⟨record, issues.map (.within (.field field))⟩)

theorem changed_setField {α : Type} {s : Settings} {field : String} {check : Checked α}
    {shown : α → Value} {update : α → Settings}
    (h : ∀ a, (update a).columns = put s.columns field (shown a)) :
    Changed s field (setField record field check update) (check.map shown) := by
  cases check with
  | ok a => exact ⟨update a, rfl, h a⟩
  | bad issues => rfl

/-- A field is changed to the form of the value, or not at all. -/
theorem set_field (s : Settings) (v : Value) :
    ∀ field ∈ fields, Changed s field (s.set field v) (form field v) := by
  rw [forall_fields]
  refine ⟨?_, ?_, ?_, ?_, ?_, ?_, ?_, ?_, ?_, ?_⟩
  all_goals exact changed_setField fun a => rfl

variable {s s' : Settings} {field : String} {v : Value}

theorem form_of_not_mem (h : field ∉ fields) (v : Value) : form field v = .flawed (.noSuchField field) := by
  unfold form
  rw [lookup_of_not_mem (l := forms) h]
  rfl

/-- What is not a field of settings changes nothing. -/
theorem set_of_not_mem (h : field ∉ fields) (hset : s.set field v = .ok s') : s' = s := by
  unfold set at hset
  split at hset
  case h_11 => exact setOther_eq_ok hset
  all_goals exact absurd (by decide) h

theorem lookup_columns_isSome (s : Settings) :
    ∀ field ∈ fields, (s.columns.lookup field).isSome = true := by
  rw [forall_fields]
  exact ⟨rfl, rfl, rfl, rfl, rfl, rfl, rfl, rfl, rfl, rfl⟩

/-- After a change the field holds the form of the value if it has one, and everything else is as it
was. -/
theorem stored_set (hset : s.set field v = .ok s') (other : String) :
    s'.stored other =
      match form field v with
      | .ok x => if other = field then x else s.stored other
      | .bad _ => s.stored other := by
  by_cases hfield : field ∈ fields
  · have hchanged := set_field s v field hfield
    rw [hset] at hchanged
    cases hform : form field v with
    | ok x =>
      rw [hform] at hchanged
      obtain ⟨_, ⟨⟩, hcolumns⟩ := hchanged
      obtain ⟨held, hheld⟩ := Option.isSome_iff_exists.mp (lookup_columns_isSome s field hfield)
      unfold stored
      rw [hcolumns, lookup_put, hheld]
      split <;> rfl
    | bad issues =>
      rw [hform] at hchanged
      cases hchanged
  · rw [form_of_not_mem hfield, set_of_not_mem hfield hset]
    rfl

/-- A value that has a form is not refused. -/
theorem form_of_set_error {refusal : Refusal} (hset : s.set field v = .error refusal) :
    ∃ issues, form field v = .bad issues := by
  by_cases hfield : field ∈ fields
  · have hchanged := set_field s v field hfield
    rw [hset] at hchanged
    cases hform : form field v with
    | ok x =>
      rw [hform] at hchanged
      obtain ⟨_, ⟨⟩, -⟩ := hchanged
    | bad issues => exact ⟨issues, rfl⟩
  · exact ⟨_, form_of_not_mem hfield v⟩

/-! ## Data for settings -/

/-- What data says of a field, given or not, is what settings hold in it. -/
def Takes (s : Settings) (field : String) : Option Value → Prop
  | some v => form field v = .ok (s.stored field)
  | none => s.stored field = stored {} field

/-- What is wrong with what data says of a field. -/
def faults (field : String) : Option Value → List Issue
  | some v => (form field v).issues.map (.within (.field field))
  | none => []

section Given

variable {α : Type} {shown : α → Value} {name : String} {check : Check α}

/-- A field with a default comes to what settings hold in it exactly if they take it. -/
theorem given_iff_takes (hshown : Function.Injective shown)
    (hform : form name = fun v => (check v).map shown) {s : Settings} {default a : α}
    (hstored : s.stored name = shown a) (hdefault : stored {} name = shown default)
    {entries : Entries} :
    given name default check entries = .ok a ↔ s.Takes name (Entries.get? entries name) := by
  unfold given Takes
  rw [hform, hstored, hdefault]
  cases Entries.get? entries name with
  | none =>
    simp only [Checked.ok.injEq, hshown.eq_iff]
    exact eq_comm
  | some v => simp [Checked.within_eq_ok, Checked.map_eq_ok, hshown.eq_iff]

theorem issues_given (shown : α → Value) (hform : form name = fun v => (check v).map shown)
    (default : α) (entries : Entries) :
    (given name default check entries).issues = faults name (Entries.get? entries name) := by
  unfold given faults
  rw [hform]
  cases Entries.get? entries name with
  | none => rfl
  | some v => simp only [Checked.issues_within, Checked.issues_map]

end Given

/-- Data comes to these settings exactly if each field takes what the data says of it, and the data says
nothing else. -/
theorem ofValue_mapping_eq_ok_iff {entries : Entries} {s : Settings} :
    ofValue (.mapping entries) = .ok s ↔
      (∀ entry ∈ entries, entryIssue? fields entry = none) ∧
        ∀ field ∈ fields, s.Takes field (Entries.get? entries field) := by
  have hparts : (∀ field ∈ fields, s.Takes field (Entries.get? entries field)) ↔
      given "project_root" "." text entries = .ok s.projectRoot ∧
      given "stubs_dir" none (optional text) entries = .ok s.stubsDir ∧
      given "models_dir" "src/Models" checkDirectory entries = .ok s.modelsDir ∧
      given "repositories_dir" "src/Repositories" checkDirectory entries = .ok s.repositoriesDir ∧
      given "controllers_dir" "src/Http/Controllers" checkDirectory entries = .ok s.controllersDir ∧
      given "namespace" "App" checkNamespace entries = .ok s.rootNamespace ∧
      given "with_controller" false bool entries = .ok s.withController ∧
      given "setup_mode" none (optional checkSetupMode) entries = .ok s.setupMode ∧
      given "install_dependencies" true bool entries = .ok s.installDependencies ∧
      given "dry_run" false bool entries = .ok s.dryRun := by
    rw [forall_fields, given_iff_takes text_injective rfl rfl rfl,
      given_iff_takes optionalText_injective rfl rfl rfl, given_iff_takes text_injective rfl rfl rfl,
      given_iff_takes text_injective rfl rfl rfl, given_iff_takes text_injective rfl rfl rfl,
      given_iff_takes text_injective rfl rfl rfl, given_iff_takes bool_injective rfl rfl rfl,
      given_iff_takes modeText_injective rfl rfl rfl, given_iff_takes bool_injective rfl rfl rfl,
      given_iff_takes bool_injective rfl rfl rfl]
  unfold ofValue check
  rw [Checked.toExcept_eq_ok, record_mapping_eq_ok_iff, hparts]
  refine and_congr_right fun _ => ?_
  simp only [Checked.and_eq_ok, Checked.ok.injEq]
  constructor
  · rintro ⟨-, dryRun, ⟨-, install, ⟨-, mode, ⟨-, controller, ⟨-, namespace', ⟨-, controllers, ⟨-,
      repositories, ⟨-, models, ⟨-, stubs, ⟨-, root, rfl, h₁, rfl⟩, h₂, rfl⟩, h₃, rfl⟩, h₄, rfl⟩, h₅,
      rfl⟩, h₆, rfl⟩, h₇, rfl⟩, h₈, rfl⟩, h₉, rfl⟩, h₁₀, rfl⟩
    exact ⟨h₁, h₂, h₃, h₄, h₅, h₆, h₇, h₈, h₉, h₁₀⟩
  · rintro ⟨h₁, h₂, h₃, h₄, h₅, h₆, h₇, h₈, h₉, h₁₀⟩
    exact ⟨_, _, ⟨_, _, ⟨_, _, ⟨_, _, ⟨_, _, ⟨_, _, ⟨_, _, ⟨_, _, ⟨_, _, ⟨_, _, rfl, h₁, rfl⟩, h₂, rfl⟩,
      h₃, rfl⟩, h₄, rfl⟩, h₅, rfl⟩, h₆, rfl⟩, h₇, rfl⟩, h₈, rfl⟩, h₉, rfl⟩, h₁₀, rfl⟩

/-- Data that is refused is refused for what is wrong with the fields, and for what belongs to none. -/
theorem ofValue_mapping_error {entries : Entries} {r : Rejection}
    (h : ofValue (.mapping entries) = .error r) :
    r = ⟨record, (fields.flatMap fun field => faults field (Entries.get? entries field)) ++
      entries.filterMap (entryIssue? fields)⟩ := by
  have hissues : (check (.mapping entries)).issues =
      (fields.flatMap fun field => faults field (Entries.get? entries field)) ++
        entries.filterMap (entryIssue? fields) := by
    unfold check
    rw [issues_record_mapping]
    simp only [Checked.issues_and]
    rw [issues_given .text rfl, issues_given .optionalText rfl, issues_given .text rfl,
      issues_given .text rfl, issues_given .text rfl, issues_given .text rfl, issues_given .bool rfl,
      issues_given modeText rfl, issues_given .bool rfl, issues_given .bool rfl]
    simp only [fields, List.flatMap_cons, List.flatMap_nil, Checked.issues, List.nil_append,
      List.append_nil, List.append_assoc]
  unfold ofValue at h
  rw [← hissues]
  cases hc : check (.mapping entries) with
  | ok s => rw [hc] at h; cases h
  | bad issues => rw [hc] at h; cases h; rfl

end Scaffold.Settings
