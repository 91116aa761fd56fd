import Mathlib.Data.List.TakeDrop
import Mathlib.Data.List.TakeWhile
import Scaffold.Text.Blank
import Scaffold.Text.Case
import Scaffold.Text.Word

/-!
# Blanks, words and letters

A text is cut by classes of characters: runs of blanks, words, and keywords whose case is ignored.
The classes do not meet where they must not, so each cut can be made in one way only.

* `isWord_of_isBlank`: no blank stands in a word.
* `isWord_of_foldChar`: what counts as an ASCII letter when case is ignored stands in words.
* `keyword?_eq_some_iff`, `word?_eq_some_iff`: what reading a keyword or a word says of the text.
* `Follows`: a reader that carries a change of the text over to what it answers.
-/
namespace Scaffold.Text

/-- The text does not start with a character of the class. -/
def Outside (p : Char → Bool) : List Char → Prop
  | [] => True
  | c :: _ => p c = false

@[simp] theorem outside_nil (p : Char → Bool) : Outside p [] := trivial

@[simp] theorem outside_cons {p : Char → Bool} {c : Char} {cs : List Char} :
    Outside p (c :: cs) ↔ p c = false := Iff.rfl

instance (p : Char → Bool) : (cs : List Char) → Decidable (Outside p cs)
  | [] => .isTrue trivial
  | c :: _ => inferInstanceAs (Decidable (p c = false))

theorem outside_dropWhile (p : Char → Bool) (cs : List Char) : Outside p (cs.dropWhile p) := by
  induction cs with
  | nil => exact outside_nil p
  | cons c cs ih =>
    cases hc : p c with
    | true => rw [List.dropWhile_cons_of_pos hc]; exact ih
    | false => rw [List.dropWhile_cons_of_neg (by simp [hc])]; exact hc

theorem dropWhile_of_outside {p : Char → Bool} {cs : List Char} (h : Outside p cs) :
    cs.dropWhile p = cs := by
  cases cs with
  | nil => rfl
  | cons c cs => exact List.dropWhile_cons_of_neg (by simp [outside_cons.mp h])

theorem takeWhile_of_outside {p : Char → Bool} {cs : List Char} (h : Outside p cs) :
    cs.takeWhile p = [] := by
  cases cs with
  | nil => rfl
  | cons c cs => exact List.takeWhile_cons_of_neg (by simp [outside_cons.mp h])

/-- A run of characters of a class ends where the text leaves the class. -/
theorem dropWhile_run {p : Char → Bool} {run rest : List Char} (hrun : ∀ c ∈ run, p c = true)
    (hrest : Outside p rest) : (run ++ rest).dropWhile p = rest := by
  rw [List.dropWhile_append_of_pos hrun, dropWhile_of_outside hrest]

theorem takeWhile_run {p : Char → Bool} {run rest : List Char} (hrun : ∀ c ∈ run, p c = true)
    (hrest : Outside p rest) : (run ++ rest).takeWhile p = run := by
  rw [List.takeWhile_append_of_pos hrun, takeWhile_of_outside hrest, List.append_nil]

/-- A text is left no later than where a character of another class stands. -/
theorem takeWhile_append_outside {p : Char → Bool} (part : List Char) {rest : List Char}
    (h : Outside p rest) : (part ++ rest).takeWhile p = part.takeWhile p := by
  rw [List.takeWhile_append]
  split
  · rename_i hall
    rw [takeWhile_of_outside h, List.append_nil]
    exact ((List.takeWhile_prefix p).eq_of_length hall).symm
  · rfl

theorem dropWhile_append_cons {p : Char → Bool} (part : List Char) {c : Char} (hc : p c = false)
    (rest : List Char) : (part ++ c :: rest).dropWhile p = part.dropWhile p ++ c :: rest := by
  rw [List.dropWhile_append]
  split
  · rename_i hnil
    rw [List.isEmpty_iff.mp hnil, dropWhile_of_outside (outside_cons.mpr hc), List.nil_append]
  · rfl

/-! ## The classes -/

/-- Whether a character is a slash. -/
def isSlash (c : Char) : Bool := c == '/'

/-- Classes whose ranges do not meet. -/
def Ranges.apart (r s : Ranges) : Bool :=
  r.all fun a => s.all fun b => Nat.blt a.2 b.1 || Nat.blt b.2 a.1

theorem Ranges.covers_of_apart {r s : Ranges} (h : r.apart s = true) {n : Nat}
    (hr : r.covers n = true) : s.covers n = false := by
  unfold Ranges.covers at hr ⊢
  unfold Ranges.apart at h
  rw [List.any_eq_true] at hr
  obtain ⟨a, ha, hn⟩ := hr
  rw [List.any_eq_false]
  intro b hb
  have hab := List.all_eq_true.mp (List.all_eq_true.mp h a ha) b hb
  simp only [Bool.and_eq_true, Bool.or_eq_true, decide_eq_true_eq, Nat.blt_eq] at hab hn ⊢
  omega

/-- What holds of every member of a closed list, told by running through the list. -/
theorem forall_mem_of_all {α : Type} {P : α → Prop} [DecidablePred P] {l : List α}
    (h : l.all (fun x => decide (P x)) = true) : ∀ x ∈ l, P x := fun x hx =>
  of_decide_eq_true (List.all_eq_true.mp h x hx)

/-- What holds of every code point of ASCII holds of every ASCII character. -/
theorem ascii_forall (P : Char → Prop) (h : ∀ n : Fin 128, P (Char.ofNat n)) {c : Char}
    (hc : c.toNat < 128) : P c := by
  have h' := h ⟨c.toNat, hc⟩
  simpa only [Char.ofNat_toNat] using h'

/-- What holds of every code point of some ranges holds of every character of the class. -/
theorem Ranges.forall_of_covers {r : Ranges} {P : Char → Prop}
    (h : ∀ range ∈ r, ∀ n ∈ List.range' range.1 (range.2 + 1 - range.1), P (Char.ofNat n)) {c : Char}
    (hc : r.covers c.toNat = true) : P c := by
  unfold Ranges.covers at hc
  obtain ⟨range, hrange, hn⟩ := List.any_eq_true.mp hc
  simp only [Bool.and_eq_true, decide_eq_true_eq] at hn
  have hmem : c.toNat ∈ List.range' range.1 (range.2 + 1 - range.1) :=
    List.mem_range'_1.mpr ⟨hn.1, by omega⟩
  have hchar := h range hrange c.toNat hmem
  rwa [Char.ofNat_toNat] at hchar

/-- No blank stands in a word. -/
theorem isWord_of_isBlank {c : Char} (h : isBlank c = true) : isWord c = false := by
  have hascii : ∀ n : Fin 33, isWord (Char.ofNat n) = false := by decide
  by_cases hc : c.toNat < 0x80
  · -- the blanks of ASCII are controls and the space
    have hsmall : c.toNat < 33 := by
      unfold isBlank blankRanges Ranges.covers at h
      simp only [List.any_cons, List.any_nil, Bool.or_eq_true, Bool.and_eq_true,
        decide_eq_true_eq, Bool.false_eq_true, or_false] at h
      omega
    have h' := hascii ⟨c.toNat, hsmall⟩
    simpa only [Char.ofNat_toNat] using h'
  · unfold isWord
    rw [if_neg hc]
    exact Ranges.covers_of_apart (r := blankRanges) (by decide +kernel) h

theorem isBlank_of_isWord {c : Char} (h : isWord c = true) : isBlank c = false := by
  cases hb : isBlank c with
  | false => rfl
  | true => rw [isWord_of_isBlank hb] at h; cases h

theorem toNat_of_toLower {c : Char} (h : c.toLower.isLower = true) : c.toNat < 128 := by
  unfold Char.toLower Char.isLower at h
  split at h
  · rename_i hu
    simp only [UInt32.le_iff_toNat_le, ge_iff_le] at hu
    exact Nat.lt_of_le_of_lt hu.2 (by decide)
  · simp only [UInt32.le_iff_toNat_le, ge_iff_le, Bool.and_eq_true, decide_eq_true_eq] at h
    exact Nat.lt_of_le_of_lt h.2 (by decide)

theorem isWord_of_toLower {c : Char} (h : c.toLower.isLower = true) : isWord c = true :=
  ascii_forall (fun c => c.toLower.isLower = true → isWord c = true) (by decide) (toNat_of_toLower h) h

theorem toNat_of_toUpper {c : Char} (h : c.toUpper.toNat < 128) : c.toNat < 128 := by
  unfold Char.toUpper at h
  split at h
  · rename_i hl
    simp only [UInt32.le_iff_toNat_le] at hl
    exact Nat.lt_of_le_of_lt hl.2 (by decide)
  · exact h

theorem toNat_of_isUpper {c : Char} (h : c.isUpper = true) : c.toNat < 128 := by
  unfold Char.isUpper at h
  simp only [UInt32.le_iff_toNat_le, ge_iff_le, decide_eq_true_eq] at h
  exact Nat.lt_of_le_of_lt h.2 (by decide)

theorem isWord_of_toUpper {c : Char} (h : c.toUpper.isUpper = true) : isWord c = true :=
  ascii_forall (fun c => c.toUpper.isUpper = true → isWord c = true) (by decide)
    (toNat_of_toUpper (toNat_of_isUpper h)) h

/-- What counts as an ASCII letter when case is ignored stands in words. -/
theorem isWord_of_foldChar {c : Char} (h : (foldChar c).isLower = true) : isWord c = true := by
  unfold foldChar at h
  cases hl : foldedLetters.lookup c with
  | none => rw [hl] at h; exact isWord_of_toLower h
  | some k =>
    have hfolded : ∀ entry ∈ foldedLetters, isWord entry.1 = true := by decide +kernel
    obtain ⟨before, after, heq, -⟩ := List.lookup_eq_some_iff.mp hl
    exact hfolded (c, k) (by rw [heq]; simp)

/-! ## Reading -/

/-- A reader follows a change of what it reads: it finds the same, and what it answers is changed along. -/
def Follows {α β : Type} (change : α → α) (after : β → β) (read? : α → Option β) : Prop :=
  ∀ a, read? (change a) = (read? a).map after

section Follows

variable {α β γ : Type} {change : α → α} {between : β → β} {after : γ → γ}

theorem Follows.bind {first? : α → Option β} {second? : β → Option γ}
    (hfirst : Follows change between first?) (hsecond : Follows between after second?) :
    Follows change after fun a => (first? a).bind second? := by
  intro a
  simp only [hfirst a]
  cases first? a with
  | none => rfl
  | some b => exact hsecond b

theorem Follows.or {first? second? : α → Option γ} (hfirst : Follows change after first?)
    (hsecond : Follows change after second?) :
    Follows change after fun a => (first? a).or (second? a) := by
  intro a
  simp only [hfirst a, hsecond a]
  cases first? a <;> rfl

end Follows

/-- A keyword is read off a text that begins with one of its spellings. -/
theorem keyword?_eq_some_iff {ks cs rest : List Char} :
    keyword? ks cs = some rest ↔
      ∃ letters, cs = letters ++ rest ∧ letters.map foldChar = ks.map Char.toLower := by
  induction ks generalizing cs with
  | nil => simp [keyword?, List.map_eq_nil_iff]
  | cons k ks ih =>
    cases cs with
    | nil => simp [keyword?]
    | cons c cs =>
      rw [keyword?]
      split
      · rename_i hc
        rw [ih]
        constructor
        · rintro ⟨letters, rfl, hl⟩
          exact ⟨c :: letters, rfl, by rw [List.map_cons, List.map_cons, hc, hl]⟩
        · rintro ⟨letters, hsplit, hl⟩
          obtain ⟨d, letters', rfl, -, hl'⟩ := List.map_eq_cons_iff.mp hl
          cases hsplit
          exact ⟨letters', rfl, hl'⟩
      · rename_i hc
        constructor
        · intro h; cases h
        · rintro ⟨letters, hsplit, hl⟩
          obtain ⟨d, letters', rfl, hd, -⟩ := List.map_eq_cons_iff.mp hl
          cases hsplit
          exact absurd hd hc

/-- A word is read up to where the text leaves the class. -/
theorem word?_eq_some_iff {cs word rest : List Char} :
    word? cs = some (word, rest) ↔
      cs = word ++ rest ∧ word ≠ [] ∧ (∀ c ∈ word, isWord c = true) ∧ Outside isWord rest := by
  unfold word? splitWord
  rw [List.span_eq_takeWhile_dropWhile]
  constructor
  · intro h
    have hall : ∀ c ∈ cs.takeWhile isWord, isWord c = true := fun c hc =>
      List.mem_takeWhile_imp hc
    have hsplit := (List.takeWhile_append_dropWhile (p := isWord) (l := cs)).symm
    split at h
    · cases h
    · rename_i word' rest' hne heq
      cases h
      cases heq
      exact ⟨hsplit, hne, hall, outside_dropWhile isWord cs⟩
  · rintro ⟨rfl, hne, hall, hrest⟩
    rw [takeWhile_run hall hrest, dropWhile_run hall hrest]
    cases word with
    | nil => exact absurd rfl hne
    | cons c word => rfl

end Scaffold.Text
