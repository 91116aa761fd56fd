import Scaffold.Proofs.Stub.Filling

/-!
# Properties read off generated code

Which properties a text accesses and declares, and how the accesses of a filled template are known from
those of its parts.

* `accesses`, `declarations`: the properties of `$model` that a text uses by name, and those that a class
  declares.
* `Closed`: every dollar sign of a text is followed by enough of the text to tell what is accessed, and a
  property of `$model` accessed there is one of the given names. Filling cannot change that, as no hole is
  marked before the end of the access.
* `closed_render`, `mem_of_closed`: a closed template filled with closed texts accesses only the names.
* `mem_accesses_of_template`, `mem_accesses_of_value`: what is accessed stays in a template that is filled.
-/
namespace Scaffold.Php

open Stub (isMark Unmarked)
open Text (dropStart? startsWith startsWith_iff)

/-! ## Reading -/

/-- Whether a character may stand in a name. -/
def isNameChar (c : Char) : Bool := c.isAlphanum || c == '_' || decide (128 ≤ c.toNat)

/-- The name at the start of a text. -/
def nameAt? (cs : List Char) : Option String :=
  match cs.takeWhile isNameChar with
  | [] => none
  | name => some (.ofList name)

/-- The property accessed by name at the start of a text that follows a dollar sign, if the variable is
`model`. -/
def property? (cs : List Char) : Option String := (dropStart? "model->".toList cs).bind nameAt?

/-- The property of `$model` accessed by name at the start of a text. -/
def access? : List Char → Option String
  | [] => none
  | c :: cs => if c = '$' then property? cs else none

/-- The property declared at the start of a text. -/
def declaration? (cs : List Char) : Option String := do
  let cs ← dropStart? "public ?".toList cs
  let cs ← dropStart? " $".toList (cs.dropWhile isNameChar)
  nameAt? cs

/-- What is read at the places of a text, in order. -/
def readAll (read : List Char → Option String) : List Char → List String
  | [] => []
  | c :: cs => (read (c :: cs)).toList ++ readAll read cs

/-- The properties of `$model` that a text accesses by name. -/
def accesses (text : String) : List String := readAll access? text.toList

/-- The properties that a text declares. -/
def declarations (text : String) : List String := readAll declaration? text.toList

example : accesses "$model->id = $row->id . $model->$key;" = ["id"] := by decide +kernel

example : declarations "public ?string $id = null; private PDO $db;" = ["id"] := by decide +kernel

variable {read : List Char → Option String} {p : String} {a b cs : List Char} {e : Char}

theorem mem_readAll_append (h : p ∈ readAll read b) : p ∈ readAll read (a ++ b) := by
  induction a with
  | nil => exact h
  | cons c a ih => exact List.mem_append_right _ ih

theorem mem_readAll_of_read (hb : b ≠ []) (h : read b = some p) : p ∈ readAll read (a ++ b) := by
  refine mem_readAll_append ?_
  cases b with
  | nil => exact absurd rfl hb
  | cons c b =>
    refine List.mem_append_left _ ?_
    rw [h]
    exact List.mem_singleton_self p

/-! ## Where an access ends -/

/-- Whether a character ends an access: it goes on with neither a variable nor a name. -/
def isEnd (c : Char) : Bool := !(isNameChar c || c == '-' || c == '>')

/-- Whether a character ends an access and is in no mark. -/
def isStop (c : Char) : Bool := isEnd c && !isMark c

theorem isEnd_of_isStop (h : isStop e = true) : isEnd e = true := (Bool.and_eq_true_iff.mp h).1

theorem not_isMark_of_isStop (h : isStop e = true) : isMark e = false := by
  simpa using (Bool.and_eq_true_iff.mp h).2

theorem nameAt?_append_cons (he : isEnd e = true) (a b : List Char) :
    nameAt? (a ++ e :: b) = nameAt? a := by
  have hname : isNameChar e = false := by
    unfold isEnd at he
    simp only [Bool.not_eq_true', Bool.or_eq_false_iff] at he
    exact he.1.1
  have hrun : (a ++ e :: b).takeWhile isNameChar = a.takeWhile isNameChar := by
    induction a with
    | nil => exact List.takeWhile_cons_of_neg (by simp [hname])
    | cons c a ih => rw [List.cons_append, List.takeWhile_cons, List.takeWhile_cons, ih]
  unfold nameAt?
  rw [hrun]

theorem not_mem_arrow (h : isEnd e = true) : e ∉ "model->".toList := by
  intro hmem
  have hletters : ∀ c ∈ "model->".toList, isEnd c = false :=
    Text.forall_mem_of_all (by decide +kernel)
  rw [hletters e hmem] at h
  cases h

/-- What is accessed is told by the text up to the end of the access. -/
theorem property?_append_cons (he : isEnd e = true) (a b : List Char) :
    property? (a ++ e :: b) = property? a := by
  unfold property? dropStart?
  rw [Stub.startsWith_append_cons (not_mem_arrow he)]
  split
  · rename_i hstarts
    obtain ⟨rest, rfl⟩ := startsWith_iff.mp hstarts
    rw [List.append_assoc, List.drop_left, List.drop_left, Option.bind_some, Option.bind_some]
    exact nameAt?_append_cons he rest b
  · rfl

theorem property?_of_not_mem (h : '-' ∉ cs) : property? cs = none := by
  unfold property? dropStart?
  rw [if_neg]
  · rfl
  · intro hstarts
    exact h ((startsWith_iff.mp hstarts).subset (by decide))

/-- A declaration is read up to the space that follows the name. -/
theorem declaration?_property {type : List Char} (htype : ∀ c ∈ type, isNameChar c = true)
    (property rest : List Char) :
    declaration? ("public ?".toList ++ (type ++ (" $".toList ++ (property ++ ' ' :: rest)))) =
      nameAt? property := by
  unfold declaration?
  simp only [Text.dropStart?_append, Option.bind_eq_bind, Option.bind_some]
  rw [Text.dropWhile_run htype (by rfl), Text.dropStart?_append, Option.bind_some,
    nameAt?_append_cons (by decide)]

/-- A property declared somewhere in a text. -/
theorem mem_declarations {text type property rest : String}
    (htype : ∀ c ∈ type.toList, isNameChar c = true)
    (htext : ("public ?" ++ type ++ " $" ++ property ++ " " ++ rest).toList <:+: text.toList)
    (hname : nameAt? property.toList = some p) : p ∈ declarations text := by
  obtain ⟨before, after, htext⟩ := htext
  have hsplit : text.toList = before ++ ("public ?".toList ++ (type.toList ++ (" $".toList ++
      (property.toList ++ ' ' :: (rest.toList ++ after))))) := by
    rw [← htext]
    simp only [String.toList_append, List.append_assoc]
    rfl
  unfold declarations
  rw [hsplit]
  exact mem_readAll_of_read (by simp) ((declaration?_property htype _ _).trans hname)

/-! ## Closed texts -/

variable {names names' : List String}

/-- What follows a dollar sign comes to a stop before any hole, and accesses one of the names if it accesses
a property of `$model`. -/
def Settled (names : List String) (cs : List Char) : Prop :=
  ∃ a e b, cs = a ++ e :: b ∧ isStop e = true ∧ Unmarked a ∧
    ∀ p, property? a = some p → p ∈ names

/-- What follows each dollar sign of a text is settled. -/
def Closed (names : List String) (cs : List Char) : Prop :=
  ∀ rest, '$' :: rest <:+ cs → Settled names rest

theorem closed_nil : Closed names [] := by
  intro rest h
  cases List.suffix_nil.mp h

theorem closed_cons {c : Char} :
    Closed names (c :: cs) ↔ (c = '$' → Settled names cs) ∧ Closed names cs := by
  constructor
  · intro h
    refine ⟨fun hc => h cs ?_, fun rest hrest => h rest (hrest.trans (List.suffix_cons c cs))⟩
    rw [hc]
  · rintro ⟨hhere, hlater⟩ rest hrest
    rcases List.suffix_cons_iff.mp hrest with heq | hrest
    · cases heq
      exact hhere rfl
    · exact hlater rest hrest

theorem Settled.append (h : Settled names a) (b : List Char) : Settled names (a ++ b) := by
  obtain ⟨u, e, v, rfl, hstop, hmarks, hnames⟩ := h
  exact ⟨u, e, v ++ b, by rw [List.append_assoc, List.cons_append], hstop, hmarks, hnames⟩

theorem Settled.replaceAll {name : String} (hname : Stub.Lettered name) (h : Settled names cs)
    (value : List Char) : Settled names (Stub.replaceAll (Stub.hole name).toList value cs) := by
  obtain ⟨u, e, v, rfl, hstop, hmarks, hnames⟩ := h
  -- the stop parts the text, and before it there is nothing to fill
  have hmark : e ∉ (Stub.hole name).toList := Stub.not_mem_hole hname (not_isMark_of_isStop hstop)
  rw [Stub.replaceAll_append_cons (Stub.hole_ne_nil name) hmark,
    Stub.replaceAll_of_not_isInfix (hmarks name)]
  exact ⟨u, e, _, rfl, hstop, hmarks, hnames⟩

theorem Closed.append (ha : Closed names a) (hb : Closed names b) : Closed names (a ++ b) := by
  induction a with
  | nil => exact hb
  | cons c a ih =>
    obtain ⟨hhere, hlater⟩ := closed_cons.mp ha
    exact closed_cons.mpr ⟨fun hc => (hhere hc).append b, ih hlater⟩

theorem Closed.mono (h : Closed names cs) (hsub : names ⊆ names') : Closed names' cs := by
  intro rest hrest
  obtain ⟨u, e, v, heq, hstop, hmarks, hnames⟩ := h rest hrest
  exact ⟨u, e, v, heq, hstop, hmarks, fun p hp => hsub (hnames p hp)⟩

theorem closed_of_not_mem (h : '$' ∉ cs) : Closed names cs := fun _ hrest =>
  absurd (hrest.subset List.mem_cons_self) h

theorem Closed.replaceFrom {name : String} {value : List Char} (h : Closed names cs)
    (hname : Stub.Lettered name) (hvalue : Closed names value) (skip : Nat) :
    Closed names (Stub.replaceFrom (Stub.hole name).toList value skip cs) := by
  induction cs generalizing skip with
  | nil => exact closed_nil
  | cons c cs ih =>
    obtain ⟨hhere, hlater⟩ := closed_cons.mp h
    cases skip with
    | succ n => exact ih hlater n
    | zero =>
      rw [Stub.replaceFrom]
      split
      · -- what is put in comes to its own stops, so the text after it cannot change what it accesses
        exact hvalue.append (ih hlater _)
      · exact closed_cons.mpr ⟨fun hc => (hhere hc).replaceAll hname value, ih hlater 0⟩

/-- A closed template filled with closed texts is closed. -/
theorem closed_renderChars {filling : Stub.Filling} (hf : filling.Lettered)
    (hvalues : ∀ entry ∈ filling, Closed names entry.2.toList) (h : Closed names cs) :
    Closed names (Stub.renderChars cs filling) := by
  induction filling generalizing cs with
  | nil => exact h
  | cons entry rest ih =>
    obtain ⟨hentry, hrest⟩ := List.forall_mem_cons.mp hf
    obtain ⟨hvalue, hothers⟩ := List.forall_mem_cons.mp hvalues
    exact ih hrest hothers (h.replaceFrom hentry hvalue 0)

/-- A closed text accesses only the names. -/
theorem mem_of_closed (h : Closed names cs) (hp : p ∈ readAll access? cs) : p ∈ names := by
  induction cs with
  | nil => cases hp
  | cons c cs ih =>
    obtain ⟨hhere, hlater⟩ := closed_cons.mp h
    rcases List.mem_append.mp hp with hp | hp
    · rw [Option.mem_toList, access?] at hp
      split at hp
      · rename_i hc
        obtain ⟨u, e, v, rfl, hstop, -, hnames⟩ := hhere hc
        rw [property?_append_cons (isEnd_of_isStop hstop)] at hp
        exact hnames p hp
      · cases hp
    · exact ih hlater hp

/-! ## Closed parts -/

/-- The text up to the first stop. -/
def beforeStop (cs : List Char) : List Char := cs.takeWhile fun c => !isStop c

/-- Checks that what follows a dollar sign is settled, where no brace comes before the first stop. -/
def settles (names : List String) (cs : List Char) : Bool :=
  cs.any isStop && !(beforeStop cs).contains '\x7b' &&
    (property? (beforeStop cs)).all names.contains

/-- Checks that a text is closed. -/
def closes (names : List String) : List Char → Bool
  | [] => true
  | c :: cs => (c != '$' || settles names cs) && closes names cs

theorem settled_of_settles (h : settles names cs = true) : Settled names cs := by
  unfold settles at h
  rw [Bool.and_eq_true, Bool.and_eq_true] at h
  obtain ⟨⟨hstop, hbrace⟩, hnames⟩ := h
  have hsplit := (List.takeWhile_append_dropWhile (p := fun c => !isStop c) (l := cs)).symm
  cases hrest : cs.dropWhile fun c => !isStop c with
  | nil =>
    obtain ⟨c, hc, hcstop⟩ := List.any_eq_true.mp hstop
    have hall := List.dropWhile_eq_nil_iff.mp hrest c hc
    rw [hcstop] at hall
    cases hall
  | cons e b =>
    have he : Text.Outside (fun c => !isStop c) (e :: b) := by
      rw [← hrest]
      exact Text.outside_dropWhile _ cs
    refine ⟨beforeStop cs, e, b, by rw [← hrest]; exact hsplit, ?_, ?_, ?_⟩
    · simpa using he
    · exact Stub.unmarked_of_not_mem (by simpa using hbrace)
    · intro p hp
      rw [hp] at hnames
      simpa using hnames

theorem closed_of_closes (h : closes names cs = true) : Closed names cs := by
  induction cs with
  | nil => exact closed_nil
  | cons c cs ih =>
    rw [closes, Bool.and_eq_true, Bool.or_eq_true] at h
    refine closed_cons.mpr ⟨fun hc => settled_of_settles (h.1.resolve_left ?_), ih h.2⟩
    simp [hc]

/-- A text that begins no variable. -/
def Dollarless (s : String) : Prop := '$' ∉ s.toList

theorem Dollarless.closed {s : String} (h : Dollarless s) : Closed names s.toList := closed_of_not_mem h

theorem dollarless_append {s t : String} :
    Dollarless (s ++ t) ↔ Dollarless s ∧ Dollarless t := by
  simp [Dollarless, String.toList_append]

theorem dollarless_join {separator : String} (hseparator : Dollarless separator)
    {pieces : List String} (h : ∀ piece ∈ pieces, Dollarless piece) :
    Dollarless (Text.join separator pieces) := by
  induction pieces with
  | nil => simp [Dollarless, Text.join]
  | cons piece rest ih =>
    obtain ⟨hpiece, hrest⟩ := List.forall_mem_cons.mp h
    cases rest with
    | nil => exact hpiece
    | cons next rest =>
      exact dollarless_append.mpr ⟨dollarless_append.mpr ⟨hpiece, hseparator⟩, ih hrest⟩

theorem closed_literal {known : List String} (hsub : known ⊆ names) (h : closes known cs = true) :
    Closed names (String.ofList cs).toList := by
  rw [String.toList_ofList]
  exact (closed_of_closes h).mono hsub

/-- A literal that accesses no property of `$model`. -/
theorem closed_plain (h : closes [] cs = true) : Closed names (String.ofList cs).toList :=
  closed_literal (List.nil_subset names) h

theorem closed_append {s t : String} (hs : Closed names s.toList) (ht : Closed names t.toList) :
    Closed names (s ++ t).toList := by
  rw [String.toList_append]
  exact hs.append ht

/-- Whether a text comes to a stop at once or after one space. -/
def stopsSoon : List Char → Bool
  | ' ' :: c :: _ => isStop c
  | c :: _ => isStop c
  | [] => false

theorem exists_stop (h : stopsSoon cs = true) :
    ∃ gap e b, cs = gap ++ e :: b ∧ (gap = [] ∨ gap = [' ']) ∧ isStop e = true := by
  unfold stopsSoon at h
  split at h
  · rename_i c b
    exact ⟨[' '], c, b, rfl, .inr rfl, h⟩
  · rename_i c b _
    exact ⟨[], c, b, rfl, .inl rfl, h⟩
  · cases h

/-- A variable with what is accessed of it, up to a stop. -/
theorem closed_variable {x : String} {rest : List Char} (hspace : ' ' ∉ x.toList)
    (hdollar : Dollarless x) (hnames : ∀ p, property? x.toList = some p → p ∈ names)
    (hstop : stopsSoon rest = true) (hrest : closes [] rest = true) :
    Closed names ("$" ++ x ++ String.ofList rest).toList := by
  have htext : ("$" ++ x ++ String.ofList rest).toList = '$' :: (x.toList ++ rest) := by
    rw [String.toList_append, String.toList_append, String.toList_ofList, String.toList_ofList]
    rfl
  rw [htext]
  have hclosed : Closed names rest := (closed_of_closes hrest).mono (List.nil_subset names)
  refine closed_cons.mpr ⟨fun _ => ?_, hdollar.closed.append hclosed⟩
  obtain ⟨gap, e, b, rfl, hgap, hstop⟩ := exists_stop hstop
  have hcount : x.toList.count ' ' = 0 := List.count_eq_zero.mpr hspace
  refine ⟨x.toList ++ gap, e, b, by rw [List.append_assoc], hstop, Stub.unmarked_of_count ?_, ?_⟩
  · rcases hgap with rfl | rfl <;> simp [hcount]
  · rcases hgap with rfl | rfl
    · rw [List.append_nil]
      exact hnames
    · rw [property?_append_cons (by decide)]
      exact hnames

theorem closed_join {separator : String} (hseparator : Closed names separator.toList)
    {pieces : List String} (h : ∀ piece ∈ pieces, Closed names piece.toList) :
    Closed names (Text.join separator pieces).toList := by
  induction pieces with
  | nil => exact closed_nil
  | cons piece rest ih =>
    obtain ⟨hpiece, hrest⟩ := List.forall_mem_cons.mp h
    cases rest with
    | nil => exact hpiece
    | cons next rest => exact closed_append (closed_append hpiece hseparator) (ih hrest)

theorem closed_concat {pieces : List String} (h : ∀ piece ∈ pieces, Closed names piece.toList) :
    Closed names (String.join pieces).toList := by
  induction pieces with
  | nil => exact closed_nil
  | cons piece rest ih =>
    obtain ⟨hpiece, hrest⟩ := List.forall_mem_cons.mp h
    rw [String.join_cons]
    exact closed_append hpiece (ih hrest)

/-- A piece of a template: closed lines, or a hole that is named by letters. -/
def ClosedSegment (names : List String) : Stub.Segment → Prop
  | .lines texts => ∀ text ∈ texts, Closed names text.toList
  | .blank name => Stub.Lettered name

theorem ClosedSegment.mono {segment : Stub.Segment} (h : ClosedSegment names segment)
    (hsub : names ⊆ names') : ClosedSegment names' segment := by
  cases segment with
  | lines texts => exact fun text htext => (h text htext).mono hsub
  | blank name => exact h

theorem closed_template {template : Stub.Template}
    (h : ∀ segment ∈ template, ClosedSegment names segment) :
    Closed names template.text.toList := by
  refine closed_concat (List.forall_mem_map.mpr fun segment hsegment => ?_)
  have hclosed := h segment hsegment
  cases segment with
  | lines texts => exact closed_join (closed_plain (by decide)) hclosed
  | blank name => exact closed_of_not_mem (Stub.not_mem_hole hclosed (by decide))

/-- A template of closed pieces filled with closed texts is closed. -/
theorem closed_render {template : Stub.Template} {filling : Stub.Filling}
    (htemplate : ∀ segment ∈ template, ClosedSegment names segment) (hf : filling.Lettered)
    (hvalues : ∀ entry ∈ filling, Closed names entry.2.toList) :
    Closed names (Stub.render template.text filling).toList := by
  unfold Stub.render
  rw [String.toList_ofList]
  exact closed_renderChars hf hvalues (closed_template htemplate)

/-! ## Accesses that are there -/

/-- A property accessed somewhere in a text. -/
theorem mem_accesses {text : String} (he : isEnd e = true)
    (htext : '$' :: (a ++ [e]) <:+: text.toList) (hp : property? a = some p) : p ∈ accesses text := by
  obtain ⟨before, after, htext⟩ := htext
  have hsplit : text.toList = before ++ '$' :: (a ++ e :: after) := by
    rw [← htext]
    simp
  unfold accesses
  rw [hsplit]
  refine mem_readAll_of_read (by simp) ?_
  rw [access?, if_pos rfl, property?_append_cons he, hp]

variable {template : Stub.Template} {filling : Stub.Filling}

/-- What a template accesses is accessed in every text that it is filled to. -/
theorem mem_accesses_of_template (hf : filling.Lettered) (he : isStop e = true) (ha : Unmarked a)
    (htemplate : '$' :: (a ++ [e]) <:+: template.text.toList) (hp : property? a = some p) :
    p ∈ accesses (Stub.render template.text filling) := by
  refine mem_accesses (isEnd_of_isStop he) ?_ hp
  unfold Stub.render
  rw [String.toList_ofList]
  exact Stub.isInfix_renderChars hf (by decide) (not_isMark_of_isStop he) ha htemplate

/-- What stands in the text of a hole between characters of no mark stands in the template that is filled
with it. -/
theorem isInfix_render_value (before after : Stub.Filling) {name value : String} {c d u : Char}
    (hfilling : filling = before ++ (name, value) :: after) (hf : filling.Lettered)
    (hbefore : name ∉ before.map (·.1)) (hc : isMark c = false) (hd : isMark d = false)
    (hhole : c :: ((Stub.hole name).toList ++ [d]) <:+: template.text.toList)
    (hu : isMark u = false) (he : isMark e = false) (ha : Unmarked a)
    (hvalue : u :: (a ++ [e]) <:+: value.toList) :
    u :: (a ++ [e]) <:+: (Stub.render template.text filling).toList := by
  subst hfilling
  have hafter : after.Lettered := fun entry hentry =>
    hf entry (List.mem_append_right _ (List.mem_cons_of_mem _ hentry))
  unfold Stub.render
  rw [String.toList_ofList]
  exact (Stub.isInfix_renderChars hafter hu he ha hvalue).trans
    (Stub.isInfix_renderChars_hole before after hf hbefore hc hd hhole)

/-- What is accessed in the text of a hole is accessed in the template that is filled with it. -/
theorem mem_accesses_of_value (before after : Stub.Filling) {name value : String} {c d : Char}
    (hfilling : filling = before ++ (name, value) :: after) (hf : filling.Lettered)
    (hbefore : name ∉ before.map (·.1)) (hc : isMark c = false) (hd : isMark d = false)
    (hhole : c :: ((Stub.hole name).toList ++ [d]) <:+: template.text.toList)
    (he : isStop e = true) (ha : Unmarked a) (hvalue : '$' :: (a ++ [e]) <:+: value.toList)
    (hp : property? a = some p) : p ∈ accesses (Stub.render template.text filling) :=
  mem_accesses (isEnd_of_isStop he) (isInfix_render_value before after hfilling hf hbefore hc hd hhole
    (by decide) (not_isMark_of_isStop he) ha hvalue) hp

end Scaffold.Php
