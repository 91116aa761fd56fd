import Scaffold.Proofs.Settings.Fields
import Scaffold.Proofs.Text.Lines

/-!
# Settings that were accepted

Settings are accepted from data, and then changed one at a time; a refused change leaves them as they
are. What both ways keep to holds of all settings a generator ever works with.

* `TrimmedBy`: what trimming a text leaves.
* `Formed`: settings all of whose fields hold forms; data makes them so and every change keeps them so.
* `Accepted`: settings that come from data and any number of changes.
* `Accepted.tidy`: their directories neither begin nor end with a slash.
-/
namespace Scaffold.Settings

open Text (Outside isSlash)
open Validation

/-- A text that neither begins nor ends with a slash. -/
structure Trimmed (dir : String) : Prop where
  front : Outside isSlash dir.toList
  back : Outside isSlash dir.toList.reverse

/-- Settings whose directories neither begin nor end with a slash. -/
structure Tidy (s : Settings) : Prop where
  models : Trimmed s.modelsDir
  repositories : Trimmed s.repositoriesDir
  controllers : Trimmed s.controllersDir

/-- Settings that were accepted from data and then changed, each change being accepted. -/
inductive Accepted : Settings → Prop where
  | given {v : Value} {s : Settings} (h : ofValue v = .ok s) : Accepted s
  | changed {s s' : Settings} {field : String} {value : Value} (before : Accepted s)
      (h : s.set field value = .ok s') : Accepted s'

/-- A text that neither begins nor ends with a character. -/
structure TrimmedBy (c : Char) (s : String) : Prop where
  front : Outside (· == c) s.toList
  back : Outside (· == c) s.toList.reverse

theorem trimmedBy_trimChar (c : Char) (s : String) : TrimmedBy c (trimChar c s) := by
  unfold trimChar Text.stripWhile
  refine ⟨?_, ?_⟩
  · rw [String.toList_ofList]
    exact (Text.outside_dropWhile _ _).of_isPrefix (Text.dropRightWhile_isPrefix _ _)
  · rw [String.toList_ofList]
    unfold Text.dropRightWhile
    rw [List.reverse_reverse]
    exact Text.outside_dropWhile _ _

/-- There is nothing to take away from a trimmed text. -/
theorem TrimmedBy.trimChar_eq {c : Char} {s : String} (h : TrimmedBy c s) : trimChar c s = s := by
  unfold trimChar Text.stripWhile Text.dropRightWhile
  rw [Text.dropWhile_of_outside h.front, Text.dropWhile_of_outside h.back, List.reverse_reverse,
    String.ofList_toList]

theorem TrimmedBy.trimmed {dir : String} (h : TrimmedBy '/' dir) : Trimmed dir := ⟨h.front, h.back⟩

theorem checkDirectory_eq_ok {v : Value} {dir : String} :
    checkDirectory v = .ok dir ↔ ∃ s, filledText v = .ok s ∧ trimChar '/' s = dir := Checked.map_eq_ok

theorem trimmedBy_of_form {dir : String}
    (h : ∃ v, (checkDirectory v).map Value.text = .ok (.text dir)) : TrimmedBy '/' dir := by
  obtain ⟨v, hv⟩ := h
  obtain ⟨a, ha, heq⟩ := Checked.map_eq_ok.mp hv
  cases heq
  obtain ⟨s, -, rfl⟩ := checkDirectory_eq_ok.mp ha
  exact trimmedBy_trimChar '/' s

/-! ## Fields that hold forms -/

/-- Settings all of whose fields hold the form of some value. -/
def Formed (s : Settings) : Prop := ∀ field ∈ fields, ∃ v, form field v = .ok (s.stored field)

theorem formed_of_ofValue {v : Value} {s : Settings} (h : ofValue v = .ok s) : s.Formed := by
  obtain ⟨entries, rfl, -⟩ := record_eq_ok (Checked.toExcept_eq_ok.mp h)
  intro field hfield
  have htakes := (ofValue_mapping_eq_ok_iff.mp h).2 field hfield
  cases hget : Entries.get? entries field with
  | some given =>
    rw [hget] at htakes
    exact ⟨given, htakes⟩
  | none =>
    rw [hget] at htakes
    rw [show s.stored field = _ from htakes]
    exact ⟨_, form_default field hfield⟩

theorem Formed.set {s s' : Settings} {field : String} {v : Value} (h : s.Formed)
    (hset : s.set field v = .ok s') : s'.Formed := by
  intro other hother
  rw [stored_set hset]
  split
  · rename_i x hx
    split
    · rename_i heq
      exact ⟨v, heq ▸ hx⟩
    · exact h other hother
  · exact h other hother

theorem Formed.tidy {s : Settings} (h : s.Formed) : s.Tidy := by
  obtain ⟨-, -, hmodels, hrepositories, hcontrollers, -⟩ := forall_fields.mp h
  exact ⟨(trimmedBy_of_form hmodels).trimmed, (trimmedBy_of_form hrepositories).trimmed,
    (trimmedBy_of_form hcontrollers).trimmed⟩

theorem Accepted.formed {s : Settings} (h : s.Accepted) : s.Formed := by
  induction h with
  | given h => exact formed_of_ofValue h
  | changed before h ih => exact ih.set h

/-- The directories of accepted settings neither begin nor end with a slash. -/
theorem Accepted.tidy {s : Settings} (h : s.Accepted) : s.Tidy := h.formed.tidy

end Scaffold.Settings
