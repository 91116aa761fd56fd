import Scaffold.Text.Blank

/-!
# Texts over a class of characters

A text that is put together from parts has only characters of a class if its parts have.

* `Over`: all characters of a text are of a class.
* `over_join`, `over_concat`: texts put together from several.
-/
namespace Scaffold.Text

variable {ok ok' : Char → Prop} {s t : String} {c : Char}

/-- All characters of a text are of a class. -/
def Over (ok : Char → Prop) (s : String) : Prop := ∀ c ∈ s.toList, ok c

instance [DecidablePred ok] : Decidable (Over ok s) := List.decidableBAll _ s.toList

theorem Over.mono (h : Over ok s) (hsub : ∀ c, ok c → ok' c) : Over ok' s := fun c hc =>
  hsub c (h c hc)

theorem Over.not_mem (h : Over ok s) (hc : ¬ok c) : c ∉ s.toList := fun hmem => hc (h c hmem)

theorem over_ne : Over (· ≠ c) s ↔ c ∉ s.toList :=
  ⟨fun h hc => h c hc rfl, fun h _ hd heq => h (heq ▸ hd)⟩

theorem over_empty : Over ok "" := by
  intro c hc
  cases hc

/-- A text is checked by its letters, which saves taking it apart by computation. -/
theorem over_ofList {cs : List Char} (h : ∀ c ∈ cs, ok c) : Over ok (.ofList cs) := by
  unfold Over
  rwa [String.toList_ofList]

theorem over_append : Over ok (s ++ t) ↔ Over ok s ∧ Over ok t := by
  unfold Over
  rw [String.toList_append, List.forall_mem_append]

theorem Over.append (hs : Over ok s) (ht : Over ok t) : Over ok (s ++ t) := over_append.mpr ⟨hs, ht⟩

theorem over_join {separator : String} (hseparator : Over ok separator) {pieces : List String}
    (h : ∀ piece ∈ pieces, Over ok piece) : Over ok (join separator pieces) := by
  induction pieces with
  | nil => exact over_empty
  | cons piece rest ih =>
    obtain ⟨hpiece, hrest⟩ := List.forall_mem_cons.mp h
    cases rest with
    | nil => exact hpiece
    | cons next rest => exact (hpiece.append hseparator).append (ih hrest)

theorem over_concat {pieces : List String} (h : ∀ piece ∈ pieces, Over ok piece) :
    Over ok (String.join pieces) := by
  intro c hc
  rw [String.toList_join] at hc
  obtain ⟨piece, hpiece, hc⟩ := List.mem_flatMap.mp hc
  exact h piece hpiece c hc

end Scaffold.Text
