import Scaffold.Validation.Field

/-!
# What an accepted value says

A check that ends well has gone well in each of its parts, and one that fails tells the issues of all of
them.

* `Checked.and_eq_ok`: checks side by side.
* `record_eq_ok`: a record comes from a mapping.
* `setOther_eq_ok`: what is not a field is not set.
* `Checked.issues`, `record_mapping_eq_ok_iff`, `issues_record_mapping`: what is found wrong, and a record
  told by its fields and its other entries.
* `listOf_ok`, `required_ok`, `record_eq`: data whose parts are accepted is accepted.
* `filled`: a record of which only texts can be refused, for being empty.
-/
namespace Scaffold.Validation

variable {α β : Type}

theorem Checked.and_eq_ok {f : Checked (α → β)} {x : Checked α} {b : β} :
    f.and x = .ok b ↔ ∃ g a, f = .ok g ∧ x = .ok a ∧ g a = b := by
  cases f <;> cases x <;> simp [Checked.and]

theorem Checked.map_eq_ok {f : α → β} {x : Checked α} {b : β} :
    x.map f = .ok b ↔ ∃ a, x = .ok a ∧ f a = b := by
  cases x <;> simp [Checked.map]

theorem Checked.within_eq_ok {place : Place} {x : Checked α} {a : α} :
    x.within place = .ok a ↔ x = .ok a := by
  cases x <;> simp [Checked.within]

theorem Checked.toExcept_eq_ok {name : String} {x : Checked α} {a : α} :
    x.toExcept name = .ok a ↔ x = .ok a := by
  cases x <;> simp [Checked.toExcept]

/-- A record comes from a mapping whose fields are checked. -/
theorem record_eq_ok {name : String} {fields : List String} {check : Entries → Checked α} {v : Value}
    {a : α} (h : record name fields check v = .ok a) :
    ∃ entries, v = .mapping entries ∧ check entries = .ok a := by
  unfold record at h
  split at h
  · rename_i entries
    obtain ⟨g, u, hg, -, rfl⟩ := Checked.and_eq_ok.mp h
    obtain ⟨b, hb, rfl⟩ := Checked.map_eq_ok.mp hg
    exact ⟨entries, rfl, hb⟩
  · cases h

/-- What is not a field is not set. -/
theorem setOther_eq_ok {name field : String} {derived : List String} {state b : β}
    (h : setOther name derived state field = .ok b) : b = state := by
  unfold setOther at h
  split at h
  · cases h
  · split at h
    · cases h
      rfl
    · cases h

/-! ## Issues -/

/-- What a check found wrong. -/
def Checked.issues : Checked α → List Issue
  | .ok _ => []
  | .bad issues => issues

@[simp] theorem Checked.issues_and (f : Checked (α → β)) (x : Checked α) :
    (f.and x).issues = f.issues ++ x.issues := by
  cases f <;> cases x <;> simp [Checked.and, Checked.issues]

@[simp] theorem Checked.issues_map (f : α → β) (x : Checked α) : (x.map f).issues = x.issues := by
  cases x <;> rfl

@[simp] theorem Checked.issues_within (place : Place) (x : Checked α) :
    (x.within place).issues = x.issues.map (Issue.within place) := by
  cases x <;> rfl

theorem issues_noStrangeEntries (fields : List String) (entries : Entries) :
    (noStrangeEntries fields entries).issues = entries.filterMap (entryIssue? fields) := by
  unfold noStrangeEntries
  cases entries.filterMap (entryIssue? fields) <;> rfl

theorem noStrangeEntries_eq_ok_iff (fields : List String) (entries : Entries) :
    noStrangeEntries fields entries = .ok () ↔ ∀ entry ∈ entries, entryIssue? fields entry = none := by
  rw [← List.filterMap_eq_nil_iff]
  unfold noStrangeEntries
  cases entries.filterMap (entryIssue? fields) <;> simp

section Record

variable {name : String} {fields : List String} {check : Entries → Checked α} {entries : Entries} {a : α}

/-- A mapping is accepted as a record if its fields are, and if it has no other entries. -/
theorem record_mapping_eq_ok_iff :
    record name fields check (.mapping entries) = .ok a ↔
      (∀ entry ∈ entries, entryIssue? fields entry = none) ∧ check entries = .ok a := by
  rw [← noStrangeEntries_eq_ok_iff]
  unfold record
  simp only [Checked.and_eq_ok]
  constructor
  · rintro ⟨g, ⟨⟩, hg, hstrange, rfl⟩
    obtain ⟨b, hb, rfl⟩ := Checked.map_eq_ok.mp hg
    exact ⟨hstrange, hb⟩
  · rintro ⟨hstrange, hcheck⟩
    exact ⟨_, (), Checked.map_eq_ok.mpr ⟨a, hcheck, rfl⟩, hstrange, rfl⟩

theorem issues_record_mapping :
    (record name fields check (.mapping entries)).issues =
      (check entries).issues ++ entries.filterMap (entryIssue? fields) := by
  unfold record
  simp only [Checked.issues_and, Checked.issues_map, issues_noStrangeEntries]

end Record

/-! ## Data that is accepted -/

theorem filledText_ok {s : String} (h : s.isEmpty = false) : filledText (.text s) = .ok s := by
  unfold filledText text
  simp only [Checked.then, h, Bool.false_eq_true, if_false]

theorem optional_text_ok (s : Option String) : optional text (.optionalText s) = .ok s := by
  cases s <;> rfl

theorem items_ok {check : Check α} {f : α → Value} {xs : List α}
    (h : ∀ x ∈ xs, check (f x) = .ok x) (i : Nat) : items check i (xs.map f) = .ok xs := by
  induction xs generalizing i with
  | nil => rfl
  | cons x xs ih =>
    obtain ⟨hx, hxs⟩ := List.forall_mem_cons.mp h
    rw [List.map_cons, items, hx, ih hxs]
    rfl

/-- A list is accepted if its items are. -/
theorem listOf_ok {check : Check α} {f : α → Value} {xs : List α}
    (h : ∀ x ∈ xs, check (f x) = .ok x) : listOf check (.list (xs.map f)) = .ok xs := items_ok h 0

theorem filledListOf_ok {check : Check α} {f : α → Value} {xs : List α} (hne : xs ≠ [])
    (h : ∀ x ∈ xs, check (f x) = .ok x) : filledListOf check (.list (xs.map f)) = .ok xs := by
  unfold filledListOf
  rw [listOf_ok h]
  simp only [Checked.then, List.isEmpty_iff, if_neg hne]

theorem texts_ok (xs : List String) : listOf text (.texts xs) = .ok xs := listOf_ok fun _ _ => rfl

theorem filledTexts_ok {xs : List String} (hne : xs ≠ []) : filledListOf text (.texts xs) = .ok xs :=
  filledListOf_ok hne fun _ _ => rfl

theorem get?_record (fields : List (String × Value)) (key : String) :
    Entries.get? (fields.map fun field => (.text field.1, field.2)) key =
      (fields.find? fun field => field.1 == key).map Prod.snd := by
  unfold Entries.get? Entries.at?
  rw [List.find?_map, Option.map_map]
  rfl

variable {fields : List (String × Value)} {name : String} {v : Value} {check : Check α} {a : α}

theorem required_ok (hget : (fields.find? fun field => field.1 == name).map Prod.snd = some v)
    (h : check v = .ok a) :
    required name check (fields.map fun field => (.text field.1, field.2)) = .ok a := by
  unfold required
  rw [get?_record, hget]
  exact Checked.within_eq_ok.mpr h

theorem given_ok {default : α}
    (hget : (fields.find? fun field => field.1 == name).map Prod.snd = some v) (h : check v = .ok a) :
    given name default check (fields.map fun field => (.text field.1, field.2)) = .ok a := by
  unfold given
  rw [get?_record, hget]
  exact Checked.within_eq_ok.mpr h

/-- Data with the fields of a record and no others comes to what its fields come to. -/
theorem record_eq {names : List String} {check : Entries → Checked α} {x : Checked α}
    (hv : v = .record fields) (hnames : names = fields.map Prod.fst)
    (h : check (fields.map fun field => (.text field.1, field.2)) = x) :
    record name names check v = x := by
  have hnone : (fields.map fun field => ((.text field.1, field.2) : Value × Value)).filterMap
      (entryIssue? (fields.map Prod.fst)) = [] := by
    rw [List.filterMap_eq_nil_iff]
    intro entry hentry
    obtain ⟨field, hfield, rfl⟩ := List.mem_map.mp hentry
    exact if_pos (List.contains_iff_mem.mpr (List.mem_map_of_mem hfield))
  rw [hv, hnames]
  unfold record Value.record noStrangeEntries
  dsimp only
  rw [hnone, h]
  cases x <;> rfl

/-! ## Texts that may be empty -/

/-- The issue of a text that is empty. -/
def emptyIssue (field : String) : Issue := { flaw := .emptyText, location := [.field field] }

/-- What checking gives where only these texts can be refused, each for being empty. -/
def filled (texts : List (String × String)) (a : α) : Checked α :=
  match texts.filter fun field => field.2.isEmpty with
  | [] => .ok a
  | empty => .bad (empty.map fun field => emptyIssue field.1)

/-- A further check that accepts. -/
theorem filled_and_ok {texts : List (String × String)} {f : α → β} {x : Checked α} (h : x = .ok a) :
    (filled texts f).and x = filled texts (f a) := by
  unfold filled
  rw [h]
  split <;> rfl

/-- A further text. -/
theorem filled_and_text {texts : List (String × String)} {f : String → β} {s : String}
    (hget : (fields.find? fun field => field.1 == name).map Prod.snd = some (.text s)) :
    (filled texts f).and
      (required name filledText (fields.map fun field => (.text field.1, field.2))) =
        filled (texts ++ [(name, s)]) (f s) := by
  have hrequired : required name filledText (fields.map fun field => (.text field.1, field.2)) =
      if s.isEmpty then .bad [emptyIssue name] else .ok s := by
    unfold required
    rw [get?_record, hget]
    cases hs : s.isEmpty <;> simp [filledText, text, Checked.then, hs] <;> rfl
  unfold filled
  rw [hrequired, List.filter_append]
  cases hs : s.isEmpty with
  | true =>
    rw [if_pos rfl, List.filter_cons_of_pos (by exact hs), List.filter_nil]
    cases texts.filter fun field => field.2.isEmpty with
    | nil => rfl
    | cons field rest => simp [Checked.and]
  | false =>
    rw [List.filter_cons_of_neg (by simp [hs]), List.filter_nil, List.append_nil]
    cases texts.filter fun field => field.2.isEmpty <;> rfl

end Scaffold.Validation
