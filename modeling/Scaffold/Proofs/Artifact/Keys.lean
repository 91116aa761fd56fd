import Scaffold.Proofs.Artifact.Declared
import Scaffold.Proofs.Schema.Words

/-!
# Properties found by a key

The generator names the property of a column by its own rules of case, and the generated code works out the
same name once more from the key of a result, with PHP's functions, which know the letters of ASCII only.

* `Conversion`: what the generated code does with a key, with its text and its value.
* `eval_propertyConversion`: the value is the words of the key put together.
* `PlainInitials`, `camelChars_eq_iff`: both give one name exactly for the names whose words begin with
  letters that the rules of ASCII treat as the full rules do.
* `keys_find_properties`: so it is for every column that is read, and then the property is declared.
* `accented_key_is_lost`: a column with a word that begins with an accented letter.
-/
namespace Scaffold.Php

open Naming (words capitaliseChars uncapitaliseChars studlyChars camelChars Nameless)
open Text (upperChar lowerChar isWord)

/-! ## What the generated code does with a key -/

/-- The characters behind which PHP sees the start of a word. -/
def isWordBreak (c : Char) : Bool := [' ', '\t', '\r', '\n', '\x0b', '\x0c'].contains c

/-- `ucwords`: an ASCII letter that starts a word in upper case, everything else as it is. -/
def ucwordsFrom (starts : Bool) : List Char → List Char
  | [] => []
  | c :: cs => (if starts then c.toUpper else c) :: ucwordsFrom (isWordBreak c) cs

/-- `lcfirst`: an ASCII letter at the start in lower case, everything else as it is. -/
def lcfirst : List Char → List Char
  | [] => []
  | c :: cs => c.toLower :: cs

/-- `str_replace` for a single character. -/
def replaceChar (search : Char) (replacement cs : List Char) : List Char :=
  cs.flatMap fun c => if c = search then replacement else [c]

/-- An expression in the key of a result. -/
inductive Conversion where
  | key
  | replaced (search : Char) (replacement : String) (of : Conversion)
  | ucwords (of : Conversion)
  | lcfirst (of : Conversion)

/-- The expression as code. -/
def Conversion.text : Conversion → String
  | key => "$key"
  | replaced search replacement of =>
    "str_replace('" ++ String.singleton search ++ "', '" ++ replacement ++ "', " ++ of.text ++ ")"
  | ucwords of => "ucwords(" ++ of.text ++ ")"
  | lcfirst of => "lcfirst(" ++ of.text ++ ")"

/-- The value of the expression. -/
def Conversion.eval (key : List Char) : Conversion → List Char
  | .key => key
  | replaced search replacement of => replaceChar search replacement.toList (of.eval key)
  | ucwords of => ucwordsFrom true (of.eval key)
  | lcfirst of => Php.lcfirst (of.eval key)

/-- How the generated code names the property of a key. -/
def propertyConversion : Conversion :=
  .lcfirst (.replaced ' ' "" (.ucwords (.replaced '_' " " .key)))

/-- The property that the generated code looks for under a key. -/
def propertyOf (key : String) : String := .ofList (propertyConversion.eval key.toList)

/-- The line of the generated code that names the property. -/
def propertyAssignment : String := "$property = " ++ propertyConversion.text ++ ";"

/-! ## The words of a key -/

/-- A word whose first letter is in upper case by the rules of ASCII. -/
def capitaliseAscii : List Char → List Char
  | [] => []
  | c :: cs => c.toUpper :: cs

theorem toUpper_eq_blank {c : Char} (h : c.toUpper = ' ') : c = ' ' := by
  refine Text.ascii_forall (fun c => c.toUpper = ' ' → c = ' ') (by decide)
    (Text.toNat_of_toUpper ?_) h
  rw [h]
  decide

theorem replaceChar_cons (search c : Char) (replacement cs : List Char) :
    replaceChar search replacement (c :: cs) =
      (if c = search then replacement else [c]) ++ replaceChar search replacement cs :=
  List.flatMap_cons

theorem words_ne_nil (cs : List Char) : words cs ≠ [] := by
  cases cs with
  | nil => simp [words]
  | cons c cs =>
    rw [words]
    split
    · simp
    · split <;> simp

/-- A character that no name of a column has but as a part of a word. -/
def InWords (c : Char) : Prop := isWordBreak c = false ∧ (Naming.isSeparator c = true → c = '_')

theorem inWords_of_isWord {c : Char} (h : isWord c = true) : InWords c := by
  have hne : ∀ d, isWord d = false → c ≠ d := by
    rintro d hd rfl
    rw [h] at hd
    cases hd
  constructor
  · simp [isWordBreak, hne ' ' (by decide), hne '\t' (by decide), hne '\r' (by decide),
      hne '\n' (by decide), hne '\x0b' (by decide), hne '\x0c' (by decide)]
  · simp [Naming.isSeparator, hne '-' (by decide), hne ' ' (by decide)]

/-- What `ucwords` makes of a key whose underscores are blanks, once the blanks are dropped. The first word
is capitalised only where a word starts. -/
theorem ucwords_words {cs : List Char} (h : ∀ c ∈ cs, InWords c) (starts : Bool) :
    replaceChar ' ' [] (ucwordsFrom starts (replaceChar '_' [' '] cs)) =
      match words cs with
      | [] => []
      | word :: rest => (if starts then capitaliseAscii word else word) ++ rest.flatMap capitaliseAscii := by
  induction cs generalizing starts with
  | nil => cases starts <;> rfl
  | cons c cs ih =>
    obtain ⟨⟨hbreak, hseparator⟩, hrest⟩ := List.forall_mem_cons.mp h
    rw [replaceChar_cons, words]
    by_cases hc : c = '_'
    · -- the blank ends the word before it, and what follows starts one
      subst hc
      have hblank : ucwordsFrom starts (' ' :: replaceChar '_' [' '] cs) =
          ' ' :: ucwordsFrom true (replaceChar '_' [' '] cs) := by
        cases starts <;> rfl
      have hwords := ih hrest true
      rw [if_pos rfl, List.singleton_append, hblank, replaceChar_cons, if_pos rfl,
        List.nil_append, hwords]
      cases hw : words cs with
      | nil => exact absurd hw (words_ne_nil cs)
      | cons word rest => cases starts <;> rfl
    · have hword : ¬Naming.isSeparator c = true := fun hsep => hc (hseparator hsep)
      have hkept : (if starts then c.toUpper else c) ≠ ' ' := by
        have hne : c ≠ ' ' := by
          rintro rfl
          cases hbreak
        cases starts with
        | false => exact hne
        | true => exact fun hblank => hne (toUpper_eq_blank hblank)
      have hwords := ih hrest false
      rw [if_neg hc, if_neg hword, List.singleton_append, ucwordsFrom, hbreak, replaceChar_cons,
        if_neg hkept, hwords]
      cases hw : words cs with
      | nil => exact absurd hw (words_ne_nil cs)
      | cons word rest => cases starts <;> rfl

/-- The generated code puts the words of a key together, all but the first capitalised. -/
theorem eval_propertyConversion {cs : List Char} (h : ∀ c ∈ cs, InWords c) :
    propertyConversion.eval cs = lcfirst ((words cs).flatMap capitaliseAscii) := by
  have heval : propertyConversion.eval cs =
      lcfirst (replaceChar ' ' [] (ucwordsFrom true (replaceChar '_' [' '] cs))) := by
    unfold propertyConversion
    simp only [Conversion.eval]
    rfl
  rw [heval, ucwords_words h true]
  cases words cs <;> rfl

/-! ## When both give one name -/

/-- The first letters of the words of a name. -/
def initials (cs : List Char) : List Char := (words cs).filterMap List.head?

/-- First letters of words that the rules of ASCII treat as the full rules of case do: the first of them is
left in lower case, the others in upper case. -/
def PlainInitials : List Char → Prop
  | [] => True
  | c :: rest => uncapitaliseChars (upperChar c) = [c.toLower] ∧ ∀ d ∈ rest, upperChar d = [d.toUpper]

instance : (cs : List Char) → Decidable (PlainInitials cs)
  | [] => .isTrue trivial
  | _ :: _ => inferInstanceAs (Decidable (_ ∧ _))

/-- Letters of ASCII are such letters. -/
theorem plainInitials_of_ascii {cs : List Char} (h : ∀ c ∈ cs, c.toNat < 128) : PlainInitials cs := by
  cases cs with
  | nil => trivial
  | cons c cs =>
    obtain ⟨hc, hcs⟩ := List.forall_mem_cons.mp h
    exact ⟨Text.ascii_forall (fun c => uncapitaliseChars (upperChar c) = [c.toLower])
        (by decide +kernel) hc,
      fun d hd => Text.ascii_forall (fun d => upperChar d = [d.toUpper]) (by decide +kernel) (hcs d hd)⟩

/-- Of two texts in two parts, each part of one as long as that of the other or longer, the parts are equal
if the texts are. -/
theorem append_eq_append_iff_of_le {a a' b b' : List Char} (ha : a'.length ≤ a.length)
    (hb : b'.length ≤ b.length) : a ++ b = a' ++ b' ↔ a = a' ∧ b = b' := by
  refine ⟨fun h => List.append_inj h ?_, fun ⟨hfirst, hlast⟩ => by rw [hfirst, hlast]⟩
  have hlength := congrArg List.length h
  simp only [List.length_append] at hlength
  omega

theorem length_flatMap_le {f g : List Char → List Char} {l : List (List Char)}
    (h : ∀ x ∈ l, (g x).length ≤ (f x).length) : (l.flatMap g).length ≤ (l.flatMap f).length := by
  induction l with
  | nil => exact Nat.le_refl _
  | cons x l ih =>
    obtain ⟨hx, hl⟩ := List.forall_mem_cons.mp h
    simp only [List.flatMap_cons, List.length_append]
    exact Nat.add_le_add hx (ih hl)

/-- Two texts put together from parts, each part of one as long as that of the other or longer. -/
theorem flatMap_eq_flatMap_iff_of_le {f g : List Char → List Char} {l : List (List Char)}
    (h : ∀ x ∈ l, (g x).length ≤ (f x).length) :
    l.flatMap f = l.flatMap g ↔ ∀ x ∈ l, f x = g x := by
  induction l with
  | nil => simp
  | cons x l ih =>
    obtain ⟨hx, hl⟩ := List.forall_mem_cons.mp h
    rw [List.flatMap_cons, List.flatMap_cons, append_eq_append_iff_of_le hx (length_flatMap_le hl),
      ih hl, List.forall_mem_cons]

theorem length_capitaliseAscii_le (word : List Char) :
    (capitaliseAscii word).length ≤ (capitaliseChars word).length := by
  cases word with
  | nil => exact Nat.le_refl _
  | cons c word =>
    have hupper := List.length_pos_of_ne_nil (Text.upperChar_ne_nil c)
    simp only [capitaliseAscii, capitaliseChars, List.length_cons, List.length_append]
    omega

theorem capitaliseChars_cons_eq_iff {c : Char} {word : List Char} :
    capitaliseChars (c :: word) = capitaliseAscii (c :: word) ↔ upperChar c = [c.toUpper] := by
  rw [capitaliseChars, capitaliseAscii, ← List.singleton_append, List.append_left_inj]

theorem forall_capitalise_iff {ws : List (List Char)} :
    (∀ word ∈ ws, capitaliseChars word = capitaliseAscii word) ↔
      ∀ d ∈ ws.filterMap List.head?, upperChar d = [d.toUpper] := by
  induction ws with
  | nil => simp
  | cons word rest ih =>
    rw [List.forall_mem_cons, ih]
    cases word with
    | nil => exact and_iff_right rfl
    | cons c word =>
      rw [List.filterMap_cons_some (f := List.head?) rfl, List.forall_mem_cons,
        capitaliseChars_cons_eq_iff]

theorem uncapitaliseChars_append {cs : List Char} (h : cs ≠ []) (rest : List Char) :
    uncapitaliseChars (cs ++ rest) = uncapitaliseChars cs ++ rest := by
  cases cs with
  | nil => exact absurd rfl h
  | cons c cs => exact (List.append_assoc _ _ _).symm

theorem toLower_toUpper (c : Char) : c.toUpper.toLower = c.toLower := by
  by_cases hc : c.toNat < 128
  · exact Text.ascii_forall (fun c => c.toUpper.toLower = c.toLower) (by decide) hc
  · have hsame : c.toUpper = c := by
      unfold Char.toUpper
      split
      · rename_i hlower
        simp only [UInt32.le_iff_toNat_le] at hlower
        exact absurd (Nat.lt_of_le_of_lt hlower.2 (by decide)) hc
      · rfl
    rw [hsame]

/-- Some words, put together by the full rules and by those of ASCII. -/
theorem uncapitalise_words_eq_iff (ws : List (List Char)) :
    uncapitaliseChars (ws.flatMap capitaliseChars) = lcfirst (ws.flatMap capitaliseAscii) ↔
      PlainInitials (ws.filterMap List.head?) := by
  induction ws with
  | nil => simp [uncapitaliseChars, lcfirst, PlainInitials]
  | cons word rest ih =>
    cases word with
    | nil => exact ih
    | cons c word =>
      -- the change of case leaves at least one letter of each initial, so the parts line up
      have hfull : uncapitaliseChars ((upperChar c ++ word) ++ rest.flatMap capitaliseChars) =
          uncapitaliseChars (upperChar c) ++ (word ++ rest.flatMap capitaliseChars) := by
        rw [List.append_assoc, uncapitaliseChars_append (Text.upperChar_ne_nil c)]
      have hfirst : [c.toLower].length ≤ (uncapitaliseChars (upperChar c)).length :=
        List.length_pos_of_ne_nil fun hnil =>
          Text.upperChar_ne_nil c (Naming.uncapitaliseChars_eq_nil.mp hnil)
      have hshorter : ∀ w ∈ rest, (capitaliseAscii w).length ≤ (capitaliseChars w).length :=
        fun w _ => length_capitaliseAscii_le w
      have hrest : (word ++ rest.flatMap capitaliseAscii).length ≤
          (word ++ rest.flatMap capitaliseChars).length := by
        simpa using length_flatMap_le hshorter
      rw [List.flatMap_cons, List.flatMap_cons, capitaliseChars, hfull, capitaliseAscii,
        List.cons_append, lcfirst, toLower_toUpper, ← List.singleton_append,
        append_eq_append_iff_of_le hfirst hrest, List.append_right_inj,
        flatMap_eq_flatMap_iff_of_le hshorter, forall_capitalise_iff]
      exact Iff.rfl

/-- The generator and the generated code name a column alike exactly if its words begin with letters that
ASCII treats as the full rules of case do. -/
theorem camelChars_eq_iff {cs : List Char} (h : ∀ c ∈ cs, InWords c) :
    camelChars cs = propertyConversion.eval cs ↔ PlainInitials (initials cs) := by
  rw [eval_propertyConversion h]
  exact uncapitalise_words_eq_iff (words cs)

theorem initials_subset (cs : List Char) : initials cs ⊆ cs := by
  intro c hc
  obtain ⟨word, hword, hhead⟩ := List.mem_filterMap.mp hc
  exact (Naming.mem_of_mem_words hword (List.mem_of_mem_head? hhead)).1

theorem camel_eq_propertyOf_iff {column : String} (h : Schema.IsName column) :
    Naming.camel column = propertyOf column ↔ PlainInitials (initials column.toList) := by
  rw [← camelChars_eq_iff fun c hc => inWords_of_isWord (h.2 c hc), ← String.toList_inj,
    Naming.camel, propertyOf, String.toList_ofList, String.toList_ofList]

/-! ## The generated code -/

section Generated

variable {settings : Settings} {plan : Plan}

/-- The line of the generated code, as it stands in both templates. -/
def assignmentLine : String :=
  "            $property = lcfirst(str_replace(' ', '', ucwords(str_replace('_', ' ', $key))));"

theorem assignment_isInfix_line : propertyAssignment.toList <:+: assignmentLine.toList :=
  ⟨List.replicate 12 ' ', [], by decide⟩

theorem propertyAssignment_ends :
    ∃ middle, propertyAssignment.toList = '$' :: (middle ++ [';']) ∧ Stub.Unmarked middle :=
  ⟨(propertyAssignment.toList.drop 1).dropLast, by decide, Stub.unmarked_of_not_mem (by decide)⟩

/-- The assignment stays in a template that is filled. -/
theorem assignment_isInfix_render {t : Stub.Template} {filling : Stub.Filling} {texts : List String}
    (hf : filling.Lettered) (htexts : .lines texts ∈ t) (hline : assignmentLine ∈ texts) :
    propertyAssignment.toList <:+: (Stub.render t.text filling).toList := by
  have htext := assignment_isInfix_line.trans (Stub.line_isInfix htexts hline)
  obtain ⟨middle, hmiddle, hplain⟩ := propertyAssignment_ends
  unfold Stub.render
  rw [String.toList_ofList]
  rw [hmiddle] at htext ⊢
  exact Stub.isInfix_renderChars hf (by decide) (by decide) hplain htext

theorem lettered_controllerFilling (stubs : Render.Stubs) (settings : Settings) (plan : Plan) :
    (Render.controllerFilling stubs settings plan).Lettered := by
  unfold Stub.Filling.Lettered Render.controllerFilling
  simp only [List.forall_mem_cons]
  repeat' apply And.intro
  all_goals first
    | exact Stub.lettered_literal (by decide)
    | intro _ hmem; cases hmem

theorem assignment_repository : propertyAssignment.toList <:+:
    (Render.repository Stub.Name.packaged settings plan).content.toList :=
  assignment_isInfix_render (Render.lettered_repositoryFilling _ settings plan)
    (List.mem_of_getElem? (i := 56) rfl) (by simp [assignmentLine])

theorem assignment_controller : propertyAssignment.toList <:+:
    (Render.controller Stub.Name.packaged settings plan).content.toList :=
  assignment_isInfix_render (lettered_controllerFilling _ settings plan)
    (List.mem_of_getElem? (i := 48) rfl) (by simp [assignmentLine])

end Generated

/-- The code of repository and controller names the property of every column that was read as the generator
does exactly if the words of the column begin with letters that ASCII treats as the full rules of case do, as
all letters of ASCII are; and then the model declares that property, if a letter of the name is left. -/
theorem keys_find_properties {cs : List Char} {names : List (List Char)}
    (hread : Schema.columns cs = .ok names) (settings : Settings) {plan : Plan}
    (hcolumns : plan.columns = names.map .ofList) :
    propertyAssignment.toList <:+:
        (Render.repository Stub.Name.packaged settings plan).content.toList ∧
      propertyAssignment.toList <:+:
        (Render.controller Stub.Name.packaged settings plan).content.toList ∧
      ∀ column ∈ plan.columns,
        (Naming.camel column = propertyOf column ↔ PlainInitials (initials column.toList)) ∧
        ((∀ c ∈ column.toList, c.toNat < 128) → Naming.camel column = propertyOf column) ∧
        (Naming.camel column = propertyOf column → ¬Nameless column →
          propertyOf column ∈ declarations (Render.model Stub.Name.packaged settings plan).content) := by
  refine ⟨assignment_repository, assignment_controller, fun column hcolumn => ?_⟩
  have hname : Schema.IsName column := by
    rw [hcolumns] at hcolumn
    obtain ⟨letters, hletters, rfl⟩ := List.mem_map.mp hcolumn
    exact Schema.isName_of_columns hread letters hletters
  have hiff := camel_eq_propertyOf_iff hname
  refine ⟨hiff, fun hascii => ?_, fun hsame hnamed => ?_⟩
  · exact hiff.mpr (plainInitials_of_ascii fun c hc => hascii c (initials_subset _ hc))
  · have hspelt := Naming.over_camel ample_nameChar (Naming.over_of_isName ample_nameChar hname)
    have hne : Naming.camel column ≠ "" := fun hempty =>
      hnamed (Naming.camel_isEmpty_iff.mp (String.isEmpty_iff.mpr hempty))
    rw [← hsame]
    exact Render.mem_declarations_model
      (Render.mem_properties_of_column hcolumn (nameAt?_of_spelt hspelt hne))

/-- The columns of the orders are found. -/
theorem orders_found :
    ∃ names, Schema.columns Plan.ordersSchema.toList = .ok names ∧
      Plan.ordersPlan.columns = names.map .ofList ∧ "user_id" ∈ Plan.ordersPlan.columns ∧
      ¬Nameless "user_id" ∧ propertyOf "user_id" = "userId" ∧
      propertyOf "user_id" ∈
        declarations (Render.model Stub.Name.packaged {} Plan.ordersPlan).content := by
  have hread : Schema.columns Plan.ordersSchema.toList = .ok ["id".toList, "user_id".toList] := by
    unfold Plan.ordersSchema
    exact toOption_eq_some.mp (by decide +kernel)
  have hcolumns : Plan.ordersPlan.columns = ["id".toList, "user_id".toList].map .ofList := by
    decide +kernel
  have hmem : "user_id" ∈ Plan.ordersPlan.columns := by decide +kernel
  have hnamed : ¬Nameless "user_id" := by
    intro h
    exact absurd (h 'u' (by decide)) (by decide)
  obtain ⟨-, hascii, hfound⟩ := (keys_find_properties hread {} hcolumns).2.2 "user_id" hmem
  exact ⟨_, hread, hcolumns, hmem, hnamed, by decide +kernel,
    hfound (hascii (Text.forall_mem_of_all (by decide))) hnamed⟩

/-- The schema of prices with a column whose second word begins with an accented letter. -/
def pricesSchema : String := "CREATE TABLE prices (\n  prix_été INT\n);"

/-- The prices. -/
def prices : Table where
  name := "prices"
  columns := ["prix_été"]

/-- The generated code leaves an accented letter as it is, so it looks for a property that the model does not
declare. -/
theorem accented_key_is_lost :
    ∃ plan w, Table.parse pricesSchema = .ok prices ∧
      (Plan.build prices Render.findNone).run {} = (.ok plan, w) ∧ plan.columns = ["prix_été"] ∧
      Naming.camel "prix_été" = "prixÉté" ∧ propertyOf "prix_été" = "prixété" ∧
      Naming.camel "prix_été" ≠ propertyOf "prix_été" ∧
      propertyOf "prix_été" ∉ declarations (Render.model Stub.Name.packaged {} plan).content := by
  have hread : Table.parse pricesSchema = .ok prices :=
    Schema.parse_of_letters rfl (by decide +kernel)
  obtain ⟨w, hbuild⟩ : ∃ w, (Plan.build prices Render.findNone).run {} =
      (.ok (Plan.planOf prices []), w) := Action.exists_run (by decide +kernel)
  have hcamel : Naming.camel "prix_été" = "prixÉté" := by decide +kernel
  have hproperty : propertyOf "prix_été" = "prixété" := by decide +kernel
  refine ⟨_, w, hread, hbuild, rfl, hcamel, hproperty, ?_, ?_⟩
  · rw [hcamel, hproperty]
    decide
  · rw [hproperty, Render.declarations_model]
    decide +kernel

end Scaffold.Php
