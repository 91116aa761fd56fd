import Scaffold.Naming
import Scaffold.Proofs.Text.Classes

/-!
# The letters of names

A class, property or relation name keeps every letter of the name it is made from and drops the
characters between words. So it is empty for a name that has nothing else, such as `_`; and what a change
of case brings in are letters only, never a blank.

* `upperChar_ne_nil`, `lowerChar_ne_nil`: a change of case never drops a character.
* `Nameless`, `studly_isEmpty_iff`, `camel_isEmpty_iff`: the names that leave nothing.
* `mem_modelName`, `mem_relationName`, `mem_camel`: the letters of a name made from another one.
* `isLower_of_head_modelName`: a class does not begin with a small letter of ASCII.
* `slash_mem_modelName`: a class has no slash in its name that its table has not.
-/
namespace Scaffold

namespace Text

theorem mapCase_ne_nil {expansions : List (Nat × List Nat)} {runs : List CaseRun}
    (h : ∀ e ∈ expansions, e.2 ≠ []) (c : Char) : mapCase expansions runs c ≠ [] := by
  unfold mapCase
  split
  · rename_i letters hl
    obtain ⟨before, after, rfl, -⟩ := List.lookup_eq_some_iff.mp hl
    have hletters := h (c.toNat, letters) (by simp)
    simpa using hletters
  · split <;> simp

theorem upperChar_ne_nil (c : Char) : upperChar c ≠ [] := by
  unfold upperChar
  split
  · simp
  · exact mapCase_ne_nil (by decide) c

theorem lowerChar_ne_nil (c : Char) : lowerChar c ≠ [] := by
  unfold lowerChar
  split
  · simp
  · exact mapCase_ne_nil (by decide) c

theorem length_mapCase {expansions : List (Nat × List Nat)} {runs : List CaseRun} {n : Nat}
    (hn : 1 ≤ n) (h : ∀ e ∈ expansions, e.2.length ≤ n) (c : Char) :
    (mapCase expansions runs c).length ≤ n := by
  unfold mapCase
  split
  · rename_i letters hl
    obtain ⟨before, after, rfl, -⟩ := List.lookup_eq_some_iff.mp hl
    have hletters := h (c.toNat, letters) (by simp)
    simpa using hletters
  · split <;> exact hn

theorem length_lowerChar (c : Char) : (lowerChar c).length ≤ 2 := by
  unfold lowerChar
  split
  · exact Nat.le_succ 1
  · exact length_mapCase (Nat.le_succ 1) (by decide) c

/-- A letter of ASCII, or any character beyond it, that is no blank. -/
def IsLetter (c : Char) : Prop := (c.isAlpha = true ∨ 128 ≤ c.toNat) ∧ isBlank c = false

instance (c : Char) : Decidable (IsLetter c) := inferInstanceAs (Decidable (_ ∧ _))

/-- Code points of letters, from one to another. -/
def LetterCodes (first last : Nat) : Prop :=
  (65 ≤ first ∧ last ≤ 90 ∨ 97 ≤ first ∧ last ≤ 122 ∨ 128 ≤ first) ∧
    (last < 0xd800 ∨ 0xdfff < first ∧ last < 0x110000) ∧
    Ranges.apart [(first, last)] blankRanges = true

instance (first last : Nat) : Decidable (LetterCodes first last) :=
  inferInstanceAs (Decidable (_ ∧ _ ∧ _))

theorem LetterCodes.toNat_ofNat {first last n : Nat} (h : LetterCodes first last)
    (hfirst : first ≤ n) (hlast : n ≤ last) : (Char.ofNat n).toNat = n := by
  obtain ⟨-, hrange, -⟩ := h
  have hvalid : n.isValidChar := by unfold Nat.isValidChar; omega
  unfold Char.ofNat
  rw [dif_pos hvalid]
  rfl

theorem LetterCodes.isLetter {first last n : Nat} (h : LetterCodes first last) (hfirst : first ≤ n)
    (hlast : n ≤ last) : IsLetter (Char.ofNat n) := by
  have htoNat := h.toNat_ofNat hfirst hlast
  obtain ⟨hcodes, -, hapart⟩ := h
  refine ⟨?_, ?_⟩
  · by_cases hascii : n < 128
    · have hletters : ∀ k : Fin 128, (65 ≤ k.val ∧ k.val ≤ 90 ∨ 97 ≤ k.val ∧ k.val ≤ 122) →
          (Char.ofNat k.val).isAlpha = true := by decide
      exact .inl (hletters ⟨n, hascii⟩ (by simp only; omega))
    · exact .inr (by rw [htoNat]; omega)
  · unfold isBlank
    rw [htoNat]
    refine Ranges.covers_of_apart hapart ?_
    simp [Ranges.covers, hfirst, hlast]

/-- A change of case by tables keeps a character or takes the code points of its letters from them. -/
theorem codes_of_mem_mapCase {codes : Nat → Nat → Prop} {expansions : List (Nat × List Nat)}
    {runs : List CaseRun} (hexpansions : ∀ e ∈ expansions, ∀ n ∈ e.2, codes n n)
    (hruns : ∀ run ∈ runs, codes (run.first + run.shift).toNat (run.last + run.shift).toNat)
    {c d : Char} (h : d ∈ mapCase expansions runs c) :
    d = c ∨ ∃ first last n, codes first last ∧ first ≤ n ∧ n ≤ last ∧ d = Char.ofNat n := by
  unfold mapCase at h
  split at h
  · rename_i letters hl
    obtain ⟨before, after, rfl, -⟩ := List.lookup_eq_some_iff.mp hl
    obtain ⟨n, hn, rfl⟩ := List.mem_map.mp h
    have hcodes := hexpansions (c.toNat, letters) (by simp) n hn
    exact .inr ⟨n, n, n, hcodes, Nat.le_refl n, Nat.le_refl n, rfl⟩
  · split at h
    · rename_i run hrun
      have hcovers := List.find?_some hrun
      unfold CaseRun.covers at hcovers
      simp only [Bool.and_eq_true, decide_eq_true_eq] at hcovers
      have hcodes := hruns run (List.mem_of_find?_eq_some hrun)
      exact .inr ⟨_, _, _, hcodes, by omega, by omega, List.mem_singleton.mp h⟩
    · exact .inl (List.mem_singleton.mp h)

/-- The upper case of a character beyond ASCII: itself, or letters none of which is a small letter of
ASCII, not even where it is several letters. -/
theorem codes_of_mem_upperChar {c d : Char} (hc : ¬ c.toNat < 128) (h : d ∈ upperChar c) :
    d = c ∨ ∃ first last n, (LetterCodes first last ∧ (last < 97 ∨ 122 < first)) ∧
      first ≤ n ∧ n ≤ last ∧ d = Char.ofNat n := by
  unfold upperChar at h
  rw [if_neg hc] at h
  exact codes_of_mem_mapCase (by decide +kernel) (by decide +kernel) h

theorem upperChar_of_ascii {c : Char} (hc : c.toNat < 128) : upperChar c = [c.toUpper] := by
  unfold upperChar
  rw [if_pos hc]

theorem mem_upperChar {c d : Char} (h : d ∈ upperChar c) : d = c ∨ IsLetter d := by
  by_cases hc : c.toNat < 128
  · rw [upperChar_of_ascii hc] at h
    rw [List.mem_singleton.mp h]
    exact ascii_forall (fun c => c.toUpper = c ∨ IsLetter c.toUpper) (by decide) hc
  · rcases codes_of_mem_upperChar hc h with heq | ⟨_, _, n, ⟨hcodes, -⟩, hfirst, hlast, rfl⟩
    · exact .inl heq
    · exact .inr (hcodes.isLetter hfirst hlast)

theorem isLower_eq_false {c : Char} (h : c.toNat < 97 ∨ 122 < c.toNat) : c.isLower = false := by
  unfold Char.isLower
  rw [Bool.eq_false_iff, Ne, Bool.and_eq_true, decide_eq_true_eq, decide_eq_true_eq,
    ge_iff_le, UInt32.le_iff_toNat_le, UInt32.le_iff_toNat_le]
  intro hlower
  have hcode : 97 ≤ c.toNat ∧ c.toNat ≤ 122 := hlower
  omega

/-- The upper case of a character has no small letter of ASCII. -/
theorem isLower_of_mem_upperChar {c d : Char} (h : d ∈ upperChar c) : d.isLower = false := by
  by_cases hc : c.toNat < 128
  · rw [upperChar_of_ascii hc] at h
    rw [List.mem_singleton.mp h]
    exact ascii_forall (fun c => c.toUpper.isLower = false) (by decide) hc
  · rcases codes_of_mem_upperChar hc h with rfl | ⟨_, _, n, ⟨hcodes, hapart⟩, hfirst, hlast, rfl⟩
    · exact isLower_eq_false (by omega)
    · refine isLower_eq_false ?_
      rw [hcodes.toNat_ofNat hfirst hlast]
      omega

theorem mem_lowerChar {c d : Char} (h : d ∈ lowerChar c) : d = c ∨ IsLetter d := by
  unfold lowerChar at h
  split at h
  · rename_i hc
    rw [List.mem_singleton.mp h]
    exact ascii_forall (fun c => c.toLower = c ∨ IsLetter c.toLower) (by decide) hc
  · have hletters := @codes_of_mem_mapCase LetterCodes _ _ (by decide +kernel) (by decide +kernel) _ _ h
    rcases hletters with heq | ⟨_, _, n, hcodes, hfirst, hlast, rfl⟩
    · exact .inl heq
    · exact .inr (hcodes.isLetter hfirst hlast)

end Text

namespace Naming

open Text (IsLetter)

/-- A name of which nothing is left once the characters between words are dropped. -/
def Nameless (s : String) : Prop := ∀ c ∈ s.toList, isSeparator c = true

theorem capitaliseChars_eq_nil {cs : List Char} : capitaliseChars cs = [] ↔ cs = [] := by
  cases cs with
  | nil => exact Iff.rfl
  | cons c cs => simp [capitaliseChars, Text.upperChar_ne_nil]

theorem uncapitaliseChars_eq_nil {cs : List Char} : uncapitaliseChars cs = [] ↔ cs = [] := by
  cases cs with
  | nil => exact Iff.rfl
  | cons c cs => simp [uncapitaliseChars, Text.lowerChar_ne_nil]

theorem words_eq_nil {cs : List Char} : (∀ word ∈ words cs, word = []) ↔
    ∀ c ∈ cs, isSeparator c = true := by
  induction cs with
  | nil => simp [words]
  | cons c cs ih =>
    rw [List.forall_mem_cons, ← ih, words]
    split
    · rename_i hc
      simp [hc]
    · rename_i hc
      split <;> simp [hc]

theorem studlyChars_eq_nil {cs : List Char} : studlyChars cs = [] ↔
    ∀ c ∈ cs, isSeparator c = true := by
  unfold studlyChars
  rw [List.flatMap_eq_nil_iff, ← words_eq_nil]
  exact forall₂_congr fun word _ => capitaliseChars_eq_nil

theorem isEmpty_ofList {cs : List Char} : (String.ofList cs).isEmpty = true ↔ cs = [] := by
  simp [String.isEmpty_iff]

theorem studly_isEmpty_iff {s : String} : (studly s).isEmpty = true ↔ Nameless s :=
  isEmpty_ofList.trans studlyChars_eq_nil

theorem camel_isEmpty_iff {s : String} : (camel s).isEmpty = true ↔ Nameless s :=
  isEmpty_ofList.trans (uncapitaliseChars_eq_nil.trans studlyChars_eq_nil)

theorem modelName_isEmpty_iff {table : String} :
    (modelName table).isEmpty = true ↔ Nameless (singular table) := studly_isEmpty_iff

theorem relationName_isEmpty_iff {table : String} :
    (relationName table).isEmpty = true ↔ Nameless (singular table) := camel_isEmpty_iff

theorem nameless_of_isEmpty {s : String} (h : s.isEmpty = true) : Nameless s := by
  rw [String.isEmpty_iff] at h
  subst h
  intro c hc
  simp at hc

/-- The singular of a name without letters has none either. -/
theorem nameless_singular {s : String} (h : Nameless s) : Nameless (singular s) := by
  unfold Nameless singular singularChars at *
  intro c hc
  rw [String.toList_ofList] at hc
  split at hc
  · exact h c (List.dropLast_subset _ hc)
  · exact h c hc

/-! ## The letters of a name -/

/-- The words of a name have its characters, all but those between words. -/
theorem mem_of_mem_words {cs word : List Char} {c : Char} (hword : word ∈ words cs) (hc : c ∈ word) :
    c ∈ cs ∧ isSeparator c = false := by
  induction cs generalizing word with
  | nil =>
    rw [List.mem_singleton.mp hword] at hc
    cases hc
  | cons d cs ih =>
    have hlater : ∀ later ∈ words cs, c ∈ later → c ∈ d :: cs ∧ isSeparator c = false :=
      fun later hmem hin => (ih hmem hin).imp_left (List.mem_cons_of_mem d)
    rw [words] at hword
    split at hword
    · rcases List.mem_cons.mp hword with rfl | hword
      · cases hc
      · exact hlater word hword hc
    · rename_i hd
      have hhere : d ∈ d :: cs ∧ isSeparator d = false :=
        ⟨List.mem_cons_self, Bool.eq_false_iff.mpr hd⟩
      split at hword
      · rw [List.mem_singleton.mp hword] at hc
        rw [List.mem_singleton.mp hc]
        exact hhere
      · rename_i first rest hwords
        rw [hwords] at hlater
        rcases List.mem_cons.mp hword with rfl | hword
        · rcases List.mem_cons.mp hc with rfl | hc
          · exact hhere
          · exact hlater first List.mem_cons_self hc
        · exact hlater word (List.mem_cons_of_mem _ hword) hc

/-- The characters of a name that may be in a name made from it. -/
def Kept (cs : List Char) (d : Char) : Prop := d ∈ cs ∧ isSeparator d = false ∨ IsLetter d

theorem mem_studlyChars {cs : List Char} {d : Char} (h : d ∈ studlyChars cs) : Kept cs d := by
  obtain ⟨word, hword, hd⟩ := List.mem_flatMap.mp h
  have hkept : ∀ c ∈ word, Kept cs c := fun c hc => .inl (mem_of_mem_words hword hc)
  cases word with
  | nil => cases hd
  | cons c word =>
    rcases List.mem_append.mp hd with hd | hd
    · rcases Text.mem_upperChar hd with rfl | hletter
      · exact hkept d List.mem_cons_self
      · exact .inr hletter
    · exact hkept d (List.mem_cons_of_mem c hd)

theorem mem_uncapitaliseChars {cs : List Char} {d : Char} (h : d ∈ uncapitaliseChars cs) :
    d ∈ cs ∨ IsLetter d := by
  cases cs with
  | nil => cases h
  | cons c cs =>
    rcases List.mem_append.mp h with hd | hd
    · rcases Text.mem_lowerChar hd with rfl | hletter
      · exact .inl List.mem_cons_self
      · exact .inr hletter
    · exact .inl (List.mem_cons_of_mem c hd)

theorem mem_camelChars {cs : List Char} {d : Char} (h : d ∈ camelChars cs) : Kept cs d := by
  rcases mem_uncapitaliseChars h with hd | hletter
  · exact mem_studlyChars hd
  · exact .inr hletter

theorem mem_camel {s : String} {d : Char} (h : d ∈ (camel s).toList) : Kept s.toList d := by
  unfold camel at h
  rw [String.toList_ofList] at h
  exact mem_camelChars h

theorem mem_singular {s : String} {d : Char} (h : d ∈ (singular s).toList) : d ∈ s.toList := by
  unfold singular singularChars at h
  rw [String.toList_ofList] at h
  split at h
  · exact List.dropLast_subset _ h
  · exact h

theorem Kept.singular {table : String} {d : Char} (h : Kept (singular table).toList d) :
    Kept table.toList d :=
  h.imp (fun ⟨hd, hsep⟩ => ⟨mem_singular hd, hsep⟩) id

theorem mem_modelName {table : String} {d : Char} (h : d ∈ (modelName table).toList) :
    Kept table.toList d := by
  unfold modelName studly at h
  rw [String.toList_ofList] at h
  exact (mem_studlyChars h).singular

theorem mem_relationName {table : String} {d : Char} (h : d ∈ (relationName table).toList) :
    Kept table.toList d :=
  (mem_camel h).singular

/-- The characters between the words of a name are not in the name of a relation. -/
theorem separator_not_mem_relationName {table : String} {c : Char} (hc : isSeparator c = true) :
    c ∉ (relationName table).toList := by
  have hsign : c = '_' ∨ c = '-' ∨ c = ' ' := by simpa [isSeparator, or_assoc] using hc
  intro hmem
  rcases mem_relationName hmem with ⟨-, hkept⟩ | hletter
  · rw [hc] at hkept
    cases hkept
  · rcases hsign with rfl | rfl | rfl <;> exact absurd hletter (by decide)

/-- The name of a relation is hardly longer than that of the class. -/
theorem length_relationName (table : String) :
    (relationName table).toList.length ≤ (modelName table).toList.length + 1 := by
  unfold relationName modelName camel studly camelChars
  rw [String.toList_ofList, String.toList_ofList]
  cases studlyChars (singular table).toList with
  | nil => exact Nat.zero_le _
  | cons c cs =>
    rw [uncapitaliseChars, List.length_append, List.length_cons]
    have hlower := Text.length_lowerChar c
    omega

/-- The first letter of a class comes from a change to upper case, so it is no small letter of ASCII. -/
theorem isLower_of_head_modelName {table : String} {c : Char}
    (h : (modelName table).toList.head? = some c) : c.isLower = false := by
  unfold modelName studly studlyChars at h
  rw [String.toList_ofList, List.head?_flatMap] at h
  obtain ⟨word, -, hword⟩ := List.exists_of_findSome?_eq_some h
  cases word with
  | nil => cases hword
  | cons d word =>
    -- the upper case of a character is never empty, so the head of the word is in it
    rw [capitaliseChars, List.head?_append, Option.or_of_isSome (by simp [Text.upperChar_ne_nil])] at hword
    exact Text.isLower_of_mem_upperChar (List.mem_of_head? hword)

/-- A class has no slash in its name that its table has not. -/
theorem slash_mem_modelName {table : String} (h : '/' ∈ (modelName table).toList) :
    '/' ∈ table.toList := by
  rcases mem_modelName h with ⟨hslash, -⟩ | hletter
  · exact hslash
  · exact absurd hletter (by decide)

end Naming

end Scaffold
