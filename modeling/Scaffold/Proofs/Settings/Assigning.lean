import Scaffold.Proofs.Settings
import Scaffold.Proofs.Settings.Fields

/-!
# Settings that are changed again and again

Settings come from accepted data, and then their fields are assigned one after the other, some values
being refused. The generated namespaces and paths are built on what they hold in the end.

* `assign`, `after`: one attempt to change a field, and a whole history of attempts.
* `form_form`: a form given to its field again has the same form, if it is taken at all.
* `Formed.after`: the fields hold forms after every history.
* `Settled`, `Assigns`: what settings hold, and what an attempt does to them.
* `after_settled`: so it is after every history.
-/
namespace Scaffold.Settings

open Validation

variable {s : Settings} {field : String} {v x y : Value}

/-- An attempt to change a field. Settings that refuse the value stay as they are. -/
def assign (s : Settings) (change : String × Value) : Settings :=
  match s.set change.1 change.2 with
  | .ok s' => s'
  | .error _ => s

/-- Settings after a history of attempts. -/
def after (s : Settings) (changes : List (String × Value)) : Settings := changes.foldl assign s

/-- After an attempt the field holds the form of the value if it has one, and everything else is as it
was. -/
theorem stored_assign (s : Settings) (field : String) (v : Value) (other : String) :
    (s.assign (field, v)).stored other =
      match form field v with
      | .ok x => if other = field then x else s.stored other
      | .bad _ => s.stored other := by
  unfold assign
  cases hset : s.set field v with
  | ok s' => exact stored_set hset other
  | error refusal =>
    obtain ⟨issues, hform⟩ := form_of_set_error hset
    rw [hform]

/-! ## Forms -/

theorem checkNamespace_eq_ok {ns : String} :
    checkNamespace v = .ok ns ↔
      ∃ s, filledText v = .ok s ∧ trimChar '\\' s = ns ∧ ns ≠ "" := by
  unfold checkNamespace
  cases filledText v with
  | bad issues => simp [Checked.then]
  | ok s =>
    simp only [Checked.then, Checked.ok.injEq, exists_eq_left', String.isEmpty_iff]
    constructor
    · intro h
      split at h
      · cases h
      · rename_i hne
        cases h
        exact ⟨rfl, hne⟩
    · rintro ⟨rfl, hne⟩
      rw [if_neg hne]

theorem filledText_text {s t : String} (h : filledText (.text s) = .ok t) : t = s := by
  unfold filledText text at h
  simp only [Checked.then] at h
  split at h <;> cases h
  rfl

/-- What a check makes of a value it makes of its own result, if it takes it at all. -/
def Stable {α : Type} (shown : α → Value) (check : Check α) : Prop :=
  ∀ v a b, check v = .ok a → check (shown a) = .ok b → b = a

theorem stable_text : Stable .text text := fun _ _ _ _ h => (Checked.ok.inj h).symm

theorem stable_optionalText : Stable .optionalText (optional text) := fun _ a b _ h => by
  rw [optional_text_ok a] at h
  exact (Checked.ok.inj h).symm

theorem stable_directory : Stable .text checkDirectory := by
  intro v a b ha hb
  obtain ⟨s, -, rfl⟩ := checkDirectory_eq_ok.mp ha
  obtain ⟨t, ht, rfl⟩ := checkDirectory_eq_ok.mp hb
  rw [filledText_text ht]
  exact (trimmedBy_trimChar '/' s).trimChar_eq

theorem stable_namespace : Stable .text checkNamespace := by
  intro v a b ha hb
  obtain ⟨s, -, rfl, -⟩ := checkNamespace_eq_ok.mp ha
  obtain ⟨t, ht, rfl, -⟩ := checkNamespace_eq_ok.mp hb
  rw [filledText_text ht]
  exact (trimmedBy_trimChar _ s).trimChar_eq

theorem stable_bool : Stable .bool bool := fun _ _ _ _ h => (Checked.ok.inj h).symm

theorem stable_mode : Stable modeText (optional checkSetupMode) := by
  intro v a b _ hb
  have hsame : optional checkSetupMode (modeText a) = .ok a := by
    rcases a with _ | mode
    · rfl
    · cases mode <;> rfl
  rw [hsame] at hb
  exact (Checked.ok.inj hb).symm

theorem Stable.map {α : Type} {shown : α → Value} {check : Check α} (h : Stable shown check)
    (hx : (check v).map shown = .ok x) (hy : (check x).map shown = .ok y) : y = x := by
  obtain ⟨a, ha, rfl⟩ := Checked.map_eq_ok.mp hx
  obtain ⟨b, hb, rfl⟩ := Checked.map_eq_ok.mp hy
  rw [h v a b ha hb]

/-- A form given to its field again has the same form, if it is taken at all. -/
theorem form_form : ∀ field ∈ fields, ∀ {v x y}, form field v = .ok x → form field x = .ok y → y = x := by
  rw [forall_fields]
  exact ⟨stable_text.map, stable_optionalText.map, stable_directory.map, stable_directory.map,
    stable_directory.map, stable_namespace.map, stable_bool.map, stable_mode.map, stable_bool.map,
    stable_bool.map⟩

theorem Formed.assign (h : s.Formed) (change : String × Value) : (s.assign change).Formed := by
  unfold Settings.assign
  split
  · rename_i s' hset
    exact h.set hset
  · exact h

theorem Formed.after (h : s.Formed) (changes : List (String × Value)) : (s.after changes).Formed := by
  induction changes generalizing s with
  | nil => exact h
  | cons change rest ih => exact ih (h.assign change)

/-! ## What settings hold after a history -/

/-- The namespace and the directories as every history leaves them: trimmed, and left alone by the checks
they have passed. -/
structure Settled (s : Settings) : Prop where
  namespace_ne : s.rootNamespace ≠ ""
  namespace_trimmed : TrimmedBy '\\' s.rootNamespace
  models_trimmed : TrimmedBy '/' s.modelsDir
  repositories_trimmed : TrimmedBy '/' s.repositoriesDir
  controllers_trimmed : TrimmedBy '/' s.controllersDir
  namespace_fixed : checkNamespace (.text s.rootNamespace) = .ok s.rootNamespace
  models_fixed : trimChar '/' s.modelsDir = s.modelsDir
  repositories_fixed : trimChar '/' s.repositoriesDir = s.repositoriesDir
  controllers_fixed : trimChar '/' s.controllersDir = s.controllersDir
  /-- A field that is assigned what it holds changes nothing, whether it takes the value or not. -/
  again : ∀ field, s.assign (field, s.stored field) = s

/-- What an attempt to change a field does. -/
structure Assigns (s : Settings) (field : String) (v : Value) : Prop where
  accepted_iff : field ∈ fields → ((∃ s', s.set field v = .ok s') ↔ ∃ x, form field v = .ok x)
  refused : ∀ refusal, s.set field v = .error refusal → s.assign (field, v) = s
  stored : ∀ other, (s.assign (field, v)).stored other =
    match form field v with
    | .ok x => if other = field then x else s.stored other
    | .bad _ => s.stored other

theorem namespace_of_form {ns : String}
    (h : ∃ v, (checkNamespace v).map Value.text = .ok (.text ns)) :
    ns ≠ "" ∧ TrimmedBy '\\' ns := by
  obtain ⟨v, hv⟩ := h
  obtain ⟨a, ha, heq⟩ := Checked.map_eq_ok.mp hv
  cases heq
  obtain ⟨s, -, rfl, hne⟩ := checkNamespace_eq_ok.mp ha
  exact ⟨hne, trimmedBy_trimChar _ s⟩

/-- A namespace that is trimmed and not empty passes its check unchanged. -/
theorem checkNamespace_fixed {ns : String} (hne : ns ≠ "")
    (htrimmed : TrimmedBy '\\' ns) : checkNamespace (.text ns) = .ok ns := by
  have hfilled : filledText (.text ns) = .ok ns :=
    filledText_ok (Bool.eq_false_iff.mpr fun h => hne (String.isEmpty_iff.mp h))
  exact checkNamespace_eq_ok.mpr ⟨ns, hfilled, htrimmed.trimChar_eq, hne⟩

theorem Formed.again (h : s.Formed) (field : String) : s.assign (field, s.stored field) = s := by
  -- Either the field takes what it holds, which then is its own form, or nothing changes.
  refine eq_of_stored fun other _ => ?_
  rw [stored_assign]
  by_cases hfield : field ∈ fields
  · obtain ⟨v, hv⟩ := h field hfield
    split
    · rename_i x hx
      split
      · rename_i heq
        rw [heq]
        exact form_form field hfield hv hx
      · rfl
    · rfl
  · rw [form_of_not_mem hfield]
    rfl

theorem Formed.settled (h : s.Formed) : s.Settled := by
  obtain ⟨-, -, hmodels, hrepositories, hcontrollers, hnamespace, -⟩ := forall_fields.mp h
  obtain ⟨hne, htrimmed⟩ := namespace_of_form hnamespace
  have hmodels := trimmedBy_of_form hmodels
  have hrepositories := trimmedBy_of_form hrepositories
  have hcontrollers := trimmedBy_of_form hcontrollers
  exact {
    namespace_ne := hne
    namespace_trimmed := htrimmed
    models_trimmed := hmodels
    repositories_trimmed := hrepositories
    controllers_trimmed := hcontrollers
    namespace_fixed := checkNamespace_fixed hne htrimmed
    models_fixed := hmodels.trimChar_eq
    repositories_fixed := hrepositories.trimChar_eq
    controllers_fixed := hcontrollers.trimChar_eq
    again := h.again }

theorem assigns (s : Settings) (field : String) (v : Value) : Assigns s field v where
  accepted_iff hfield := by
    have hset := set_field s v field hfield
    cases hform : form field v with
    | ok x =>
      rw [hform] at hset
      obtain ⟨s', hset, -⟩ := hset
      exact iff_of_true ⟨s', hset⟩ ⟨x, rfl⟩
    | bad issues =>
      rw [hform] at hset
      rw [show s.set field v = _ from hset]
      simp
  refused refusal h := by
    unfold assign
    simp only [h]
  stored := stored_assign s field v

/-- Settings from accepted data stay settled under every history of attempts, and each attempt changes its
own field to the form of the value, or nothing. -/
theorem after_settled (h : ofValue v = .ok s) (changes : List (String × Value)) :
    Settled (s.after changes) ∧ ∀ field value, Assigns (s.after changes) field value :=
  ⟨((formed_of_ofValue h).after changes).settled, fun field value => assigns _ field value⟩

/-- Settings of which a directory is nothing but a slash, under a history with two refused attempts. -/
theorem slashes_settled :
    ofValue (.record [("namespace", .text "\\Shop\\"), ("models_dir", .text "/")]) =
        .ok { rootNamespace := "Shop", modelsDir := "" } ∧
      Settled (({ rootNamespace := "Shop", modelsDir := "" } : Settings).after
        [("namespace", .text "\\\\"), ("controllers_dir", .text "//web//"), ("models_dir", .null)]) := by
  have hdata : ofValue (.record [("namespace", .text "\\Shop\\"), ("models_dir", .text "/")]) =
      .ok { rootNamespace := "Shop", modelsDir := "" } := by decide +kernel
  exact ⟨hdata, (after_settled hdata _).1⟩

/-- The second attempt of three is the one that is taken. -/
example : (({ rootNamespace := "Shop", modelsDir := "" } : Settings).after
    [("namespace", .text "\\\\"), ("controllers_dir", .text "//web//"), ("models_dir", .null)]) =
      { rootNamespace := "Shop", modelsDir := "", controllersDir := "web" } := by
  decide +kernel

end Scaffold.Settings
