import Scaffold.Proofs.Artifact.Spelling
import Scaffold.Proofs.Stub.Letters

/-!
# Methods read off generated code

A method that a class defines and a method that is called on an object are both a name before an opening
parenthesis, told apart by what stands before the name.

Generated code is a template with holes. What is read off it can be told from the template alone if it is
known of each hole which names are read off its value and either that the value is part of a name or how it
ends: `survey` reads a template so, and gives up where the answer would depend on more.

* `called`: the names before an opening parenthesis that have a given lead.
* `Fits`: what is known of a text that was read up to some place.
* `Sketch`: what is known of the value of a hole.
* `survey`, `survey_sound`: reading a template reads every text that it is filled to.
-/
namespace Scaffold.Php

open Stub (Filling Piece Segment Template)
open Text (Outside startsWith startsWith_iff)

/-! ## Reading -/

/-- A name that is given back to front, unless it is empty. -/
def named? (reversed : List Char) : Option String :=
  if reversed.isEmpty then none else some (.ofList reversed.reverse)

/-- The name at the end of a text if the lead stands before it. The text is given back to front. -/
def ledName? (lead before : List Char) : Option String :=
  if startsWith lead.reverse (before.dropWhile isNameChar) then named? (before.takeWhile isNameChar)
  else none

/-- The names before an opening parenthesis that have a lead, in a text after what is given back to front. -/
def calledFrom (lead : List Char) : List Char → List Char → List String
  | _, [] => []
  | before, c :: cs =>
    (if c = '(' then (ledName? lead before).toList else []) ++ calledFrom lead (c :: before) cs

/-- The names before an opening parenthesis that have a lead. -/
def called (lead text : String) : List String := calledFrom lead.toList [] text.toList

/-- The methods that a class defines for others to call. -/
def methods (text : String) : List String := called "public function " text

example : called "$db->" "$db->run($db->id, $other->find());" = ["run"] := by decide +kernel

example : methods "private function fill() \x7b\x7d public function show(int $id)" = ["show"] := by
  decide +kernel

variable {lead before a b cs : List Char} {name : String}

theorem calledFrom_append (lead before a b : List Char) :
    calledFrom lead before (a ++ b) =
      calledFrom lead before a ++ calledFrom lead (a.reverse ++ before) b := by
  induction a generalizing before with
  | nil => rfl
  | cons c a ih =>
    rw [List.cons_append, calledFrom, calledFrom, ih, List.append_assoc, List.reverse_cons,
      List.append_assoc, List.singleton_append]

theorem calledFrom_of_not_mem (h : '(' ∉ cs) (lead before : List Char) :
    calledFrom lead before cs = [] := by
  induction cs generalizing before with
  | nil => rfl
  | cons c cs ih =>
    have hc : c ≠ '(' := by rintro rfl; exact h List.mem_cons_self
    rw [calledFrom, if_neg hc, ih fun hmem => h (List.mem_cons_of_mem c hmem), List.append_nil]

/-- A text off which nothing is read, wherever it stands. -/
def Quiet (lead : List Char) (s : String) : Prop := ∀ before, calledFrom lead before s.toList = []

theorem quiet_of_not_mem {s : String} (h : '(' ∉ s.toList) : Quiet lead s :=
  calledFrom_of_not_mem h lead

theorem Quiet.append {s s' : String} (h : Quiet lead s) (h' : Quiet lead s') : Quiet lead (s ++ s') := by
  intro before
  rw [String.toList_append, calledFrom_append, h, h', List.append_nil]

theorem quiet_join {lines : List String} (h : ∀ line ∈ lines, Quiet lead line) :
    Quiet lead (Text.join "\n" lines) := by
  induction lines with
  | nil => exact fun _ => rfl
  | cons line rest ih =>
    obtain ⟨hline, hrest⟩ := List.forall_mem_cons.mp h
    cases rest with
    | nil => exact hline
    | cons next rest => exact (hline.append (quiet_of_not_mem (by decide))).append (ih hrest)

theorem quiet_concat {texts : List String} (h : ∀ text ∈ texts, Quiet lead text) :
    Quiet lead (String.join texts) := by
  induction texts with
  | nil => exact fun _ => rfl
  | cons text rest ih =>
    obtain ⟨htext, hrest⟩ := List.forall_mem_cons.mp h
    rw [String.join_cons]
    exact htext.append (ih hrest)

/-- A name with its lead and its parenthesis is read wherever it stands. -/
theorem mem_called {lead text : String} {e : Char} (hlead : lead.toList.getLast? = some e)
    (he : isNameChar e = false) (hname : Spelt name) (hne : name.toList ≠ [])
    (h : (lead ++ name ++ "(").toList <:+: text.toList) : name ∈ called lead text := by
  obtain ⟨before, after, htext⟩ := h
  obtain ⟨start, hstart⟩ := List.getLast?_eq_some_iff.mp hlead
  have hsplit : text.toList = (before ++ lead.toList ++ name.toList) ++ '(' :: after := by
    rw [← htext]
    simp [String.toList_append]
  have hrun : ∀ c ∈ name.toList.reverse, isNameChar c = true := fun c hc =>
    hname c (List.mem_reverse.mp hc)
  have hstop : Outside isNameChar (lead.toList.reverse ++ before.reverse) := by
    rw [hstart, List.reverse_append]
    exact he
  have hread : ledName? lead.toList (before ++ lead.toList ++ name.toList).reverse = some name := by
    rw [List.reverse_append, List.reverse_append]
    unfold ledName? named?
    rw [Text.takeWhile_run hrun hstop, Text.dropWhile_run hrun hstop,
      if_pos (startsWith_iff.mpr (List.prefix_append _ _))]
    simp [hne]
  unfold called
  rw [hsplit, calledFrom_append, calledFrom, if_pos rfl, List.append_nil, hread]
  simp

theorem ledName?_mono {tail : List Char} (h : tail <:+ lead)
    (hname : ledName? lead before = some name) : ledName? tail before = some name := by
  unfold ledName? at hname ⊢
  rw [Option.ite_none_right_eq_some, startsWith_iff] at hname ⊢
  exact ⟨(List.reverse_prefix.mpr h).trans hname.1, hname.2⟩

/-- What is called with a lead is called with the end of that lead. -/
theorem calledFrom_mono {tail : List Char} (h : tail <:+ lead) :
    calledFrom lead before cs ⊆ calledFrom tail before cs := by
  induction cs generalizing before with
  | nil => exact List.Subset.refl _
  | cons c cs ih =>
    rw [calledFrom, calledFrom]
    refine List.append_subset.mpr ⟨?_, List.subset_append_of_subset_right _ ih⟩
    split
    · intro name hname
      rw [Option.mem_toList] at hname
      exact List.mem_append_left _ (Option.mem_toList.mpr (ledName?_mono h hname))
    · exact List.nil_subset _

/-! ## Reading with gaps -/

/-- What is known of a text from its start: its characters, and a run of characters of a name where
nothing stands for them. What comes after is not known. -/
def Fits : List (Option Char) → List Char → Prop
  | [], _ => True
  | some c :: known, cs => ∃ rest, cs = c :: rest ∧ Fits known rest
  | none :: known, cs =>
    ∃ run rest, (∀ c ∈ run, isNameChar c = true) ∧ cs = run ++ rest ∧ Fits known rest

/-- Whether what is known there is part of a name. -/
def inName : Option Char → Bool
  | some c => isNameChar c
  | none => true

/-- Whether a text of which something is known starts with a text, if that can be told. -/
def begins? : List Char → List (Option Char) → Option Bool
  | [], _ => some true
  | c :: start, some d :: known => if c = d then begins? start known else some false
  | _, _ => none

/-- The characters of a run, if all are known. -/
def letters? : List (Option Char) → Option (List Char)
  | [] => some []
  | some c :: run => (letters? run).map (c :: ·)
  | none :: _ => none

/-- The name at the end of a text that is known back to front, if that can be told. -/
def ledKnown? (lead : List Char) (known : List (Option Char)) : Option (Option String) :=
  match known.dropWhile inName with
  | [] => none
  | rest => match begins? lead.reverse rest with
    | some true => (letters? (known.takeWhile inName)).map named?
    | some false => some none
    | none => none

/-- The names before an opening parenthesis that have a lead, if that can be told. -/
def surveyText (lead : List Char) : List (Option Char) → List Char → Option (List String)
  | _, [] => some []
  | known, c :: cs => do
    let later ← surveyText lead (some c :: known) cs
    if c = '(' then (ledKnown? lead known).map (·.toList ++ later) else some later

variable {known : List (Option Char)}

theorem fits_nil (cs : List Char) : Fits [] cs := trivial

theorem begins?_sound {start : List Char} {b : Bool} (hfits : Fits known cs)
    (h : begins? start known = some b) : startsWith start cs = b := by
  induction start generalizing known cs with
  | nil => simpa [begins?, startsWith] using h
  | cons c start ih =>
    match known with
    | [] => cases h
    | none :: known => cases h
    | some d :: known =>
      obtain ⟨rest, rfl, hrest⟩ := hfits
      rw [begins?] at h
      unfold startsWith at ih ⊢
      rw [List.isPrefixOf]
      split at h
      · rename_i heq
        subst heq
        simpa using ih hrest h
      · rename_i hne
        have hfalse : (c == d) = false := by simp [hne]
        rw [hfalse, Bool.false_and]
        exact Option.some.inj h

/-- The run of a name at the start of what is known, if it ends there. -/
theorem fits_run (hfits : Fits known cs) (hend : known.dropWhile inName ≠ []) :
    Fits (known.dropWhile inName) (cs.dropWhile isNameChar) ∧
      ∀ name, letters? (known.takeWhile inName) = some name → cs.takeWhile isNameChar = name := by
  induction known generalizing cs with
  | nil => exact absurd rfl hend
  | cons d known ih =>
    cases d with
    | none =>
      obtain ⟨run, text, hrun, rfl, htext⟩ := hfits
      rw [List.dropWhile_append_of_pos hrun]
      exact ⟨(ih htext hend).1, fun name hname => by cases hname⟩
    | some d =>
      obtain ⟨text, rfl, htext⟩ := hfits
      have hsame : inName (some d) = isNameChar d := rfl
      rw [List.dropWhile_cons, List.dropWhile_cons, List.takeWhile_cons, List.takeWhile_cons]
      rw [List.dropWhile_cons] at hend
      rw [hsame] at hend ⊢
      split
      · rename_i hd
        rw [if_pos hd] at hend
        obtain ⟨hrest, hname⟩ := ih htext hend
        refine ⟨hrest, fun name hrun => ?_⟩
        obtain ⟨others, hothers, rfl⟩ := Option.map_eq_some_iff.mp hrun
        rw [hname others hothers]
      · refine ⟨⟨text, rfl, htext⟩, fun name hrun => ?_⟩
        cases hrun
        rfl

theorem ledKnown?_sound {found : Option String} (hfits : Fits known before)
    (h : ledKnown? lead known = some found) : ledName? lead before = found := by
  unfold ledKnown? at h
  unfold ledName?
  split at h
  · cases h
  · rename_i hfilled
    obtain ⟨hend, hname⟩ := fits_run hfits fun hnil => hfilled hnil
    split at h
    · rename_i hbegins
      obtain ⟨name, hletters, rfl⟩ := Option.map_eq_some_iff.mp h
      rw [begins?_sound hend hbegins, hname name hletters, if_pos rfl]
    · rename_i hbegins
      cases h
      rw [begins?_sound hend hbegins, if_neg Bool.false_ne_true]
    · cases h

theorem surveyText_sound {names : List String} (hfits : Fits known before)
    (h : surveyText lead known cs = some names) : calledFrom lead before cs = names := by
  induction cs generalizing known before names with
  | nil => cases h; rfl
  | cons c cs ih =>
    obtain ⟨later, hlater, h⟩ := Option.bind_eq_some_iff.mp h
    have hnext : Fits (some c :: known) (c :: before) := ⟨before, rfl, hfits⟩
    rw [calledFrom, ih hnext hlater]
    split at h
    · rename_i hc
      obtain ⟨found, hfound, rfl⟩ := Option.map_eq_some_iff.mp h
      rw [if_pos hc, ledKnown?_sound hfits hfound]
    · rename_i hc
      cases h
      rw [if_neg hc, List.nil_append]

theorem Fits.append (hfits : Fits known before) (cs : List Char) :
    Fits (cs.reverse.map some ++ known) (cs.reverse ++ before) := by
  induction cs.reverse with
  | nil => exact hfits
  | cons c cs ih => exact ⟨cs ++ before, rfl, ih⟩

/-! ## Templates -/

/-- What is known of the value of a hole: that it is part of a name, or which names are read off it
wherever it stands, and how it ends. -/
inductive Sketch where
  | part
  | text (names : List String) (ending : List Char)

/-- A value of which this is known. -/
def Sketch.Suits (lead : List Char) : Sketch → String → Prop
  | .part, value => Spelt value
  | .text names ending, value =>
    (∀ before, calledFrom lead before value.toList = names) ∧ ending <:+ value.toList

@[simp] theorem Sketch.suits_part {value : String} : Sketch.part.Suits lead value ↔ Spelt value := Iff.rfl

@[simp] theorem Sketch.suits_text {names : List String} {ending : List Char} {value : String} :
    (Sketch.text names ending).Suits lead value ↔
      (∀ before, calledFrom lead before value.toList = names) ∧ ending <:+ value.toList := Iff.rfl

/-- Nothing is read off the value, and its end is not known. -/
def Sketch.quiet : Sketch := .text [] []

/-- What is known of the value of a hole by its name. -/
def sketchOf (sketches : List (String × Sketch)) (name : List Char) : Sketch :=
  ((sketches.find? fun entry => entry.1.toList == name).map (·.2)).getD .quiet

/-- What is read off a template by what is known of the values of its holes, if that can be told. -/
def survey (lead : List Char) (sketches : List (String × Sketch)) :
    List (Option Char) → List Piece → Option (List String)
  | _, [] => some []
  | known, .literal cs :: rest => do
    let here ← surveyText lead known cs
    return here ++ (← survey lead sketches (cs.reverse.map some ++ known) rest)
  | known, .blank name :: rest => match sketchOf sketches name with
    | .part => survey lead sketches (none :: known) rest
    | .text names ending => do
      return names ++ (← survey lead sketches (ending.reverse.map some) rest)

variable {sketches : List (String × Sketch)} {t : Template} {f : Filling}

/-- The values of a filling are as they are sketched, and nothing is read off the others. -/
structure Sketched (lead : List Char) (sketches : List (String × Sketch)) (f : Filling) : Prop where
  told : ∀ sketch ∈ sketches, ∀ value, (sketch.1, value) ∈ f → sketch.2.Suits lead value
  quiet : ∀ entry ∈ f, entry.1 ∉ sketches.map (·.1) → Quiet lead entry.2

theorem Sketched.suits (h : Sketched lead sketches f) {entry : String × String} (hentry : entry ∈ f) :
    (sketchOf sketches entry.1.toList).Suits lead entry.2 := by
  unfold sketchOf
  cases hfind : sketches.find? fun sketch => sketch.1.toList == entry.1.toList with
  | none =>
    refine ⟨h.quiet entry hentry fun hmem => ?_, List.nil_suffix⟩
    obtain ⟨sketch, hsketch, hname⟩ := List.mem_map.mp hmem
    have hother := List.find?_eq_none.mp hfind sketch hsketch
    simp [hname] at hother
  | some sketch =>
    have hname : sketch.1.toList = entry.1.toList := by simpa using List.find?_some hfind
    refine h.told sketch (List.mem_of_find?_eq_some hfind) entry.2 ?_
    rw [String.toList_inj.mp hname]
    exact hentry

theorem survey_sound {names : List String} (hholes : ∀ name, .blank name ∈ t → name ∈ f.map (·.1))
    (hf : Sketched lead sketches f) (hfits : Fits known before)
    (h : survey lead sketches known t.pieces = some names) :
    calledFrom lead before (t.fill f).toList = names := by
  induction t generalizing known before names with
  | nil => cases h; rfl
  | cons s t ih =>
    have hlater : ∀ name, .blank name ∈ t → name ∈ f.map (·.1) := fun name hname =>
      hholes name (List.mem_cons_of_mem s hname)
    rw [Stub.fill_cons, String.toList_append, calledFrom_append]
    cases s with
    | lines texts =>
      obtain ⟨here, hhere, h⟩ := Option.bind_eq_some_iff.mp h
      obtain ⟨later, hsurvey, hnames⟩ := Option.bind_eq_some_iff.mp h
      cases hnames
      rw [Stub.text_fill_lines, surveyText_sound hfits hhere, ih hlater (hfits.append _) hsurvey]
    | blank name =>
      obtain ⟨value, hvalue⟩ := Stub.exists_lookup (hholes name List.mem_cons_self)
      have hsuits := hf.suits (Stub.mem_of_lookup hvalue)
      have hsurvey : survey lead sketches known (.blank name.toList :: Template.pieces t) =
        some names := h
      rw [Stub.text_fill_blank hvalue]
      rw [survey] at hsurvey
      split at hsurvey
      · rename_i hpart
        rw [hpart] at hsuits
        have hnext : Fits (none :: known) (value.toList.reverse ++ before) :=
          ⟨_, _, fun c hc => hsuits c (List.mem_reverse.mp hc), rfl, hfits⟩
        have hparen : '(' ∉ value.toList := Spelt.not_mem hsuits (by decide)
        rw [calledFrom_of_not_mem hparen, List.nil_append, ih hlater hnext hsurvey]
      · rename_i own ending htold
        rw [htold] at hsuits
        obtain ⟨later, hnext, hnames⟩ := Option.bind_eq_some_iff.mp hsurvey
        cases hnames
        obtain ⟨hown, start, hending⟩ := hsuits
        have hend : Fits (ending.reverse.map some) (value.toList.reverse ++ before) := by
          rw [← hending, List.reverse_append, List.append_assoc]
          simpa using (fits_nil (start.reverse ++ before)).append ending
        rw [hown, ih hlater hend hnext]

/-- A template off which nothing is read, whatever stands before it. -/
theorem quiet_fill (hholes : ∀ name, .blank name ∈ t → name ∈ f.map (·.1))
    (hf : Sketched lead sketches f) (h : survey lead sketches [] t.pieces = some []) :
    Quiet lead (t.fill f) := fun before => survey_sound hholes hf (fits_nil before) h

end Scaffold.Php
