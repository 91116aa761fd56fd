import Scaffold.Proofs.Artifact.Statements

/-!
# What a method sends to the database

The methods of a generated class are found in its text, wherever they stand: from their signature to the
brace that ends them. What such a method sends is the one text in double quotes in its body, and what it binds
are the items of the array that it executes the statement with.

* `bodies`, `executions`: reading methods, and the arrays that statements are executed with.
* `Sends`: a method that sends one statement with some values.
* `Method.sends`: code of the usual shape sends what stands in its places.
* `code_isInfix_render`: a part of a template that is a method of its own stays one in the filled template,
  whatever fills the other holes.
* `MethodStub.StandsIn`: methods of templates for which this is so.
-/
namespace Scaffold.Text

/-- A text without some characters. -/
def Free (marks : List Char) (s : String) : Prop := Over (· ∉ marks) s

instance (marks : List Char) (s : String) : Decidable (Free marks s) :=
  inferInstanceAs (Decidable (Over _ s))

theorem Free.mono {marks marks' : List Char} {s : String} (h : Free marks' s) (hsub : marks ⊆ marks') :
    Free marks s := Over.mono h fun _ hc hmem => hc (hsub hmem)

theorem Free.not_mem {marks : List Char} {s : String} {c : Char} (h : Free marks s) (hc : c ∈ marks) :
    c ∉ s.toList := fun hmem => h c hmem hc

theorem free_append {marks : List Char} {s t : String} :
    Free marks (s ++ t) ↔ Free marks s ∧ Free marks t := over_append

end Scaffold.Text

namespace Scaffold.Php

open Text (Free Over Outside dropStart? startsWith startsWith_iff)

/-! ## Reading -/

/-- The texts behind every place where a mark stands. -/
def behind (mark : List Char) : List Char → List (List Char)
  | [] => []
  | c :: cs => (dropStart? mark (c :: cs)).toList ++ behind mark cs

/-- A text up to the first place where a mark stands. -/
def upTo (mark : List Char) : List Char → List Char
  | [] => []
  | c :: cs => if startsWith mark (c :: cs) then [] else c :: upTo mark cs

/-- How a method begins, up to its parameters. -/
def methodStart (name : String) : String := "    public function " ++ name ++ "("

/-- How a method ends. -/
def methodEnd : String := "\n    \x7d"

/-- The methods of a name, each from its parameters to the line that ends it. -/
def bodies (name text : String) : List String :=
  (behind ("\n" ++ methodStart name).toList text.toList).map fun rest =>
    .ofList (upTo methodEnd.toList rest)

/-- Whether a character may stand before an item of an array. -/
def isGap (c : Char) : Bool := c == ' ' || c == '\n'

/-- The items of an array; a comma behind the last one adds none. -/
def items (cs : List Char) : List String :=
  (((cs.splitOn ',').map (·.dropWhile isGap)).filter (· ≠ [])).map .ofList

/-- How the array begins that a statement is executed with. -/
def executeStart : List Char := "execute(".toList ++ ['[']

/-- The values that statements are executed with. -/
def executions (text : String) : List (List String) :=
  (behind executeStart text.toList).map fun rest => items (rest.takeWhile (· != ']'))

/-- A method of a class sends one statement with some values. -/
def Sends (text method statement : String) (values : List String) : Prop :=
  ∃ body ∈ bodies method text, strings body = [statement] ∧ executions body = [values]

instance (text method statement : String) (values : List String) :
    Decidable (Sends text method statement values) :=
  inferInstanceAs (Decidable (∃ body ∈ bodies method text, _ ∧ _))

/-! ## Lemmas on reading -/

section Reading

variable {a b m cs rest : List Char} {e : Char}

theorem mem_behind_append (h : rest ∈ behind m b) : rest ∈ behind m (a ++ b) := by
  induction a with
  | nil => exact h
  | cons c a ih => exact List.mem_append_right _ ih

theorem mem_behind (hm : m ≠ []) (a b : List Char) : b ∈ behind m (a ++ (m ++ b)) := by
  refine mem_behind_append ?_
  cases m with
  | nil => exact absurd rfl hm
  | cons c m =>
    have hfound : dropStart? (c :: m) (c :: (m ++ b)) = some b := Text.dropStart?_append (c :: m) b
    refine List.mem_append_left _ ?_
    rw [Option.mem_toList]
    exact hfound

/-- Of two texts that end where a letter first stands, one begins the other only if they are the same. -/
theorem startsWith_run_iff (hm : e ∉ m) (ha : e ∉ a) :
    startsWith (m ++ [e]) (a ++ e :: b) = true ↔ a = m := by
  rw [startsWith_iff]
  constructor
  · rintro ⟨tail, htail⟩
    have hrun : ∀ {cs : List Char}, e ∉ cs → ∀ rest, (cs ++ e :: rest).takeWhile (· != e) = cs :=
      fun hcs rest => Text.takeWhile_run
        (fun c hc => bne_iff_ne.mpr fun heq => hcs (heq ▸ hc)) (by simp)
    have hsame := congrArg (List.takeWhile (· != e)) htail
    rw [List.append_assoc, List.singleton_append, hrun hm, hrun ha] at hsame
    exact hsame.symm
  · rintro rfl
    exact ⟨b, by simp⟩

theorem behind_of_not_mem (h : e ∉ cs) : behind (m ++ [e]) cs = [] := by
  induction cs with
  | nil => rfl
  | cons c cs ih =>
    have hnot : dropStart? (m ++ [e]) (c :: cs) = none := by
      unfold dropStart?
      refine if_neg fun hstarts => h ?_
      exact (startsWith_iff.mp hstarts).subset (by simp)
    rw [behind, hnot, ih fun hmem => h (List.mem_cons_of_mem c hmem)]
    rfl

theorem dropStart?_run (hm : e ∉ m) (ha : e ∉ a) :
    dropStart? (m ++ [e]) (a ++ e :: b) = if a = m then some b else none := by
  unfold dropStart?
  by_cases hsame : a = m
  · rw [if_pos ((startsWith_run_iff hm ha).mpr hsame), if_pos hsame, hsame]
    simp
  · rw [if_neg fun hstarts => hsame ((startsWith_run_iff hm ha).mp hstarts), if_neg hsame]

/-- Where the last letter of a mark stands once, the mark stands there if its other letters stand before. -/
theorem behind_run (hm : e ∉ m) (ha : e ∉ a) (hb : e ∉ b) :
    behind (m ++ [e]) (a ++ e :: b) = if m <:+ a then [b] else [] := by
  induction a with
  | nil =>
    have hfound := dropStart?_run (b := b) hm ha
    rw [List.nil_append] at hfound ⊢
    rw [behind, hfound, behind_of_not_mem hb, List.append_nil]
    cases m with
    | nil => rfl
    | cons d m => rw [if_neg (List.cons_ne_nil d m).symm, if_neg (by simp)]; rfl
  | cons c a ih =>
    have hfound := dropStart?_run (b := b) hm ha
    rw [List.cons_append] at hfound ⊢
    rw [behind, hfound, ih fun hmem => ha (List.mem_cons_of_mem c hmem)]
    by_cases hsame : c :: a = m
    · have hshort : ¬m <:+ a := fun hsuffix => by
        have hlength := hsuffix.length_le
        rw [← hsame, List.length_cons] at hlength
        exact absurd hlength (Nat.not_succ_le_self _)
      rw [if_pos hsame, if_neg hshort, if_pos (List.suffix_cons_iff.mpr (.inl hsame.symm))]
      rfl
    · rw [if_neg hsame]
      by_cases hsuffix : m <:+ a
      · rw [if_pos hsuffix, if_pos (List.suffix_cons_iff.mpr (.inr hsuffix))]
        rfl
      · have hnone : ¬m <:+ c :: a := fun h =>
          (List.suffix_cons_iff.mp h).elim (fun heq => hsame heq.symm) hsuffix
        rw [if_neg hsuffix, if_neg hnone]
        rfl

/-- A mark stands only once in a text that has its last letter only once. -/
theorem behind_once (hm : e ∉ m) (ha : e ∉ a) (hb : e ∉ b) :
    behind (m ++ [e]) (a ++ (m ++ e :: b)) = [b] := by
  have hrun : e ∉ a ++ m := fun hmem => (List.mem_append.mp hmem).elim ha hm
  rw [← List.append_assoc, behind_run hm hrun hb, if_pos (List.suffix_append a m)]

/-- A text that has not the last letter of a mark goes up to the mark. -/
theorem upTo_append (hm : e ∉ m) (ha : e ∉ a) (b : List Char) :
    upTo (m ++ [e]) (a ++ (m ++ e :: b)) = a := by
  have hrun : e ∉ a ++ m := fun hmem => (List.mem_append.mp hmem).elim ha hm
  induction a with
  | nil =>
    have hstarts := (startsWith_run_iff (b := b) hm hm).mpr rfl
    rw [List.nil_append]
    cases m <;> exact if_pos hstarts
  | cons c a ih =>
    have hnot : ¬startsWith (m ++ [e]) (c :: (a ++ (m ++ e :: b))) = true := by
      intro hstarts
      rw [← List.append_assoc] at hstarts
      have hlength := congrArg List.length ((startsWith_run_iff (a := c :: (a ++ m)) hm hrun).mp hstarts)
      simp only [List.length_cons, List.length_append] at hlength
      omega
    rw [List.cons_append, upTo, if_neg hnot,
      ih (fun hmem => ha (List.mem_cons_of_mem c hmem)) fun hmem => hrun (List.mem_cons_of_mem c hmem)]

/-- The only text in quotes of a text with two of them. -/
theorem between_once {quoted : List Char} (ha : '"' ∉ a) (hquoted : '"' ∉ quoted) (hb : '"' ∉ b) :
    between (· == '"') none (a ++ '"' :: (quoted ++ '"' :: b)) = [quoted] := by
  have hplain : ∀ {cs : List Char}, '"' ∉ cs → ∀ c ∈ cs, (c == '"') = false := fun h c hc =>
    beq_eq_false_iff_ne.mpr fun heq => h (heq ▸ hc)
  have hrest : between (· == '"') none b = [] := by
    have houtside := between_outside (hplain hb) []
    rwa [List.append_nil] at houtside
  rw [between_outside (hplain ha), between, if_pos (beq_self_eq_true _),
    between_inside (hplain hquoted), between, if_pos (beq_self_eq_true _), hrest]
  simp

end Reading

/-! ## Items -/

theorem items_cons {item rest : List Char} (h : ',' ∉ item) :
    items (item ++ ',' :: rest) =
      (if item.dropWhile isGap = [] then [] else [.ofList (item.dropWhile isGap)]) ++ items rest := by
  unfold items
  rw [List.splitOn_append_cons_self_of_not_mem h, List.map_cons]
  by_cases hempty : item.dropWhile isGap = []
  · rw [if_pos hempty, List.filter_cons_of_neg (by simpa using hempty)]
    rfl
  · rw [if_neg hempty, List.filter_cons_of_pos (by simpa using hempty)]
    rfl

theorem items_gap {c : Char} (h : isGap c = true) (rest : List Char) : items (c :: rest) = items rest := by
  have hcomma : (c == ',') = false := by
    refine beq_eq_false_iff_ne.mpr ?_
    rintro rfl
    cases h
  unfold items
  rw [List.splitOn_cons_eq_if_modifyHead, hcomma]
  cases hrest : rest.splitOn ',' with
  | nil => exact absurd hrest (List.splitOn_ne_nil ',' rest)
  | cons first others =>
    rw [if_neg Bool.false_ne_true, List.modifyHead_cons, List.map_cons, List.map_cons,
      List.dropWhile_cons_of_pos h]

/-! ## Methods of the usual shape -/

/-- The characters that end a text in quotes, an array or a method. -/
def codeMarks : List Char := ['"', '[', ']', '\x7d']

/-- A method that sends one statement with some values, by its parts: the code up to the statement, the
statement, the code up to the execution, the values, and the code after them. -/
structure Method where
  name : String
  start : String
  statement : String
  call : String
  values : String
  rest : String

/-- The body of a method, from its parameters on. -/
def Method.body (m : Method) : String :=
  m.start ++ ("\"" ++ (m.statement ++ ("\"" ++ (m.call ++ ("execute([" ++ (m.values ++ ("]" ++ m.rest)))))))

/-- The code of a method. -/
def Method.text (m : Method) : String := methodStart m.name ++ (m.body ++ methodEnd)

/-- The parts of a method end nothing that the method ends itself. -/
structure Method.Plain (m : Method) : Prop where
  start : Free codeMarks m.start
  statement : Free codeMarks m.statement
  call : Free codeMarks m.call
  values : Free codeMarks m.values
  rest : Free codeMarks m.rest

theorem Method.toList_body (m : Method) : m.body.toList = m.start.toList ++ '"' :: (m.statement.toList ++
    '"' :: (m.call.toList ++ (executeStart ++ (m.values.toList ++ ']' :: m.rest.toList)))) := by
  have hquote : "\"".toList = ['"'] := by decide
  have hexecute : "execute([".toList = executeStart := by decide
  have hbracket : "]".toList = [']'] := by decide
  simp only [Method.body, String.toList_append, hquote, hexecute, hbracket, List.cons_append,
    List.nil_append]

/-- A method of the usual shape sends its statement with its values. -/
theorem Method.sends {m : Method} {text : String} (hm : m.Plain)
    (h : '\n' :: m.text.toList <:+: text.toList) :
    Sends text m.name m.statement (items m.values.toList) := by
  obtain ⟨before, after, htext⟩ := h
  have hstart := hm.start.not_mem (c := '"') (by decide)
  have hstatement := hm.statement.not_mem (c := '"') (by decide)
  have hend : methodEnd.toList = "\n    ".toList ++ ['\x7d'] := by decide
  have hmark : ("\n" ++ methodStart m.name).toList = '\n' :: (methodStart m.name).toList := by
    rw [String.toList_append]
    rfl
  have hplace : text.toList = before ++ (("\n" ++ methodStart m.name).toList ++
      (m.body.toList ++ ("\n    ".toList ++ '\x7d' :: after))) := by
    rw [← htext, hmark, Method.text, String.toList_append, String.toList_append, hend]
    simp only [List.append_assoc, List.cons_append, List.nil_append]
  have hbrace : '\x7d' ∉ m.body.toList := by
    simp only [Method.body, String.toList_append, List.mem_append, not_or]
    exact ⟨hm.start.not_mem (by decide), by decide, hm.statement.not_mem (by decide), by decide,
      hm.call.not_mem (by decide), by decide, hm.values.not_mem (by decide), by decide,
      hm.rest.not_mem (by decide)⟩
  refine ⟨m.body, ?_, ?_, ?_⟩
  · -- the method is found, and its body ends at its own brace
    have hfound := mem_behind (m := ("\n" ++ methodStart m.name).toList) (by rw [hmark]; simp) before
      (m.body.toList ++ ("\n    ".toList ++ '\x7d' :: after))
    rw [← hplace] at hfound
    refine List.mem_map.mpr ⟨_, hfound, ?_⟩
    rw [hend, upTo_append (by decide) hbrace, String.ofList_toList]
  · have hafter : '"' ∉ m.call.toList ++ (executeStart ++ (m.values.toList ++ ']' :: m.rest.toList)) := by
      simp only [List.mem_append, List.mem_cons, not_or]
      exact ⟨hm.call.not_mem (by decide), by decide, hm.values.not_mem (by decide), by decide,
        hm.rest.not_mem (by decide)⟩
    unfold strings
    rw [Method.toList_body, between_once hstart hstatement hafter, List.map_singleton, String.ofList_toList]
  · have hbefore : '[' ∉ m.start.toList ++ '"' :: (m.statement.toList ++ '"' :: m.call.toList) := by
      simp only [List.mem_append, List.mem_cons, not_or]
      exact ⟨hm.start.not_mem (by decide), by decide, hm.statement.not_mem (by decide), by decide,
        hm.call.not_mem (by decide)⟩
    have hbehind : '[' ∉ m.values.toList ++ ']' :: m.rest.toList := by
      simp only [List.mem_append, List.mem_cons, not_or]
      exact ⟨hm.values.not_mem (by decide), by decide, hm.rest.not_mem (by decide)⟩
    have hbody : m.body.toList =
        (m.start.toList ++ '"' :: (m.statement.toList ++ '"' :: m.call.toList)) ++
          ("execute(".toList ++ '[' :: (m.values.toList ++ ']' :: m.rest.toList)) := by
      have hsplit : ∀ rest, executeStart ++ rest = "execute(".toList ++ '[' :: rest := fun rest =>
        List.append_assoc _ _ _
      rw [Method.toList_body, hsplit, List.append_assoc, List.cons_append, List.append_assoc,
        List.cons_append]
    have hvalues : (m.values.toList ++ ']' :: m.rest.toList).takeWhile (· != ']') = m.values.toList :=
      Text.takeWhile_run (fun c hc => bne_iff_ne.mpr fun heq =>
        hm.values.not_mem (c := ']') (by decide) (heq ▸ hc)) (by simp)
    unfold executions executeStart
    rw [hbody, behind_once (by decide) hbefore hbehind, List.map_singleton, hvalues]

end Scaffold.Php

namespace Scaffold.Stub

open Text (Free)

/-! ## Methods in a template -/

theorem Lettered.braceless {name : String} (h : Lettered name) : Braceless name := by
  refine ⟨fun hmem => ?_, fun hmem => ?_⟩
  · exact absurd (h _ hmem) (by decide)
  · exact absurd (h _ hmem) (by decide)

/-- The text of a template is its signs, with the marks of the holes. -/
theorem toList_text (t : Template) : t.text.toList =
    (signs t.pieces).flatMap (Sign.chars fun name => (hole (.ofList name)).toList) := by
  induction t with
  | nil => rfl
  | cons s t ih =>
    have hsigns : signs (Template.pieces (s :: t)) = s.piece.signs ++ signs (Template.pieces t) := rfl
    rw [toList_text_cons, hsigns, List.flatMap_append, ih]
    refine congrArg (· ++ _) ?_
    cases s with
    | lines texts => exact (flatMap_chars _ _).symm
    | blank name =>
      have hname : hole (.ofList name.toList) = hole name := by rw [String.ofList_toList]
      change (hole name).toList = (hole (.ofList name.toList)).toList ++ []
      rw [hname, List.append_nil]

/-- A part of a template between two line ends is filled on its own: what fills the other holes does not
matter. -/
theorem code_isInfix_render {whole part : Template} {f : Filling} (hf : f.Lettered) (hpart : part.Sound)
    (hwhole : Sign.char '\n' :: (signs part.pieces ++ [.char '\n']) <:+: signs whole.pieces)
    (hvalues : ∀ entry ∈ f, Segment.blank entry.1 ∈ part → Bare entry.2.toList) :
    '\n' :: (part.fill f).toList <:+: (render whole.text f).toList := by
  obtain ⟨before, after, hsplit⟩ := hwhole
  obtain ⟨a, b, htext⟩ : ∃ a b, whole.text.toList = a ++ '\n' :: (part.text.toList ++ '\n' :: b) := by
    refine ⟨before.flatMap (Sign.chars fun name => (hole (.ofList name)).toList),
      after.flatMap (Sign.chars fun name => (hole (.ofList name)).toList), ?_⟩
    rw [toList_text whole, toList_text part, ← hsplit]
    simp [Sign.chars, List.flatMap_append]
  have hfill := renderChars_text hpart (fun entry hentry => (hf entry hentry).braceless) hvalues
  unfold render
  rw [String.toList_ofList, htext, renderChars_append_cons hf (by decide),
    renderChars_append_cons hf (by decide), hfill]
  exact ⟨renderChars a f, '\n' :: renderChars b f, by simp⟩

theorem fill_append (t u : Template) (f : Filling) :
    Template.fill (t ++ u) f = t.fill f ++ u.fill f := by
  induction t with
  | nil => rw [List.nil_append, fill_nil, String.empty_append]
  | cons s t ih => rw [List.cons_append, fill_cons, fill_cons, ih, String.append_assoc]

theorem fill_blank {f : Filling} {name value : String} (h : List.lookup name f = some value) :
    Template.fill [.blank name] f = value := by
  rw [fill_cons, fill_nil, text_fill_blank h, String.append_empty]

/-- The characters that no value may bring into the code of a method. -/
def valueMarks : List Char := '\x7b' :: Php.codeMarks

/-- A piece whose literal text brings no mark of code, or that is a hole with such a text. -/
def Segment.Plain (f : Filling) : Segment → Prop
  | .lines texts => Free Php.codeMarks (Text.join "\n" texts)
  | .blank name => ∃ value, List.lookup name f = some value ∧ Free valueMarks value

/-- A piece whose literal text brings no mark of code. -/
def Segment.Literal : Segment → Prop
  | .lines texts => Free Php.codeMarks (Text.join "\n" texts)
  | .blank _ => True

instance : (s : Segment) → Decidable s.Literal
  | .lines texts => inferInstanceAs (Decidable (Free Php.codeMarks (Text.join "\n" texts)))
  | .blank _ => .isTrue trivial

/-- Literal texts and values without marks, each on its own. -/
theorem plain_of_literal {t : Template} {f : Filling} (hliteral : ∀ s ∈ t, s.Literal)
    (hvalues : ∀ name, .blank name ∈ t →
      ∃ value, List.lookup name f = some value ∧ Free valueMarks value) : ∀ s ∈ t, s.Plain f := by
  intro s hs
  cases s with
  | lines texts => exact hliteral _ hs
  | blank name => exact hvalues name hs

theorem Segment.Plain.free {f : Filling} {s : Segment} (h : s.Plain f) :
    Free Php.codeMarks (s.fill f).text := by
  cases s with
  | lines texts => exact h
  | blank name =>
    obtain ⟨value, hvalue, hfree⟩ := h
    rw [text_fill_blank hvalue]
    exact hfree.mono (List.subset_cons_self _ _)

theorem free_fill {t : Template} {f : Filling} (h : ∀ s ∈ t, s.Plain f) :
    Free Php.codeMarks (t.fill f) := by
  induction t with
  | nil => exact Text.over_empty
  | cons s t ih =>
    obtain ⟨hs, ht⟩ := List.forall_mem_cons.mp h
    rw [fill_cons]
    exact Text.free_append.mpr ⟨hs.free, ih ht⟩

/-- A method of a template by its parts. -/
structure MethodStub where
  name : String
  start : Template
  statement : Template
  call : Template
  values : Template
  rest : Template

/-- The parts that are the method's own. -/
def MethodStub.parts (m : MethodStub) : Template :=
  m.start ++ (m.statement ++ (m.call ++ (m.values ++ m.rest)))

/-- The method as a template. -/
def MethodStub.template (m : MethodStub) : Template :=
  [.lines [Php.methodStart m.name]] ++ (m.start ++ ([.lines ["\""]] ++ (m.statement ++
    ([.lines ["\""]] ++ (m.call ++ ([.lines ["execute(["]] ++ (m.values ++ ([.lines ["]"]] ++
      (m.rest ++ [.lines [Php.methodEnd]])))))))))

/-- The method, filled. -/
def MethodStub.fill (m : MethodStub) (f : Filling) : Php.Method where
  name := m.name
  start := m.start.fill f
  statement := m.statement.fill f
  call := m.call.fill f
  values := m.values.fill f
  rest := m.rest.fill f

theorem MethodStub.fill_template (m : MethodStub) (f : Filling) :
    m.template.fill f = (m.fill f).text := by
  have hone : ∀ text, Template.fill [.lines [text]] f = text := fun text => by
    rw [fill_cons, fill_nil, text_fill_lines, Text.join_singleton, String.append_empty]
  simp only [MethodStub.template, fill_append, hone, MethodStub.fill, Php.Method.text, Php.Method.body,
    String.append_assoc]

theorem MethodStub.blank_mem_parts {m : MethodStub} {name : String} (h : .blank name ∈ m.template) :
    .blank name ∈ m.parts := by
  simp only [MethodStub.template, List.mem_append, List.mem_singleton, reduceCtorEq, false_or,
    or_false] at h
  simpa only [MethodStub.parts, List.mem_append] using h

/-- A method that stands between two line ends of a template, and whose own text brings no mark of code. -/
structure MethodStub.StandsIn (m : MethodStub) (whole : Template) : Prop where
  literal : ∀ s ∈ m.parts, s.Literal
  sound : m.template.Sound
  inside : Sign.char '\n' :: (signs m.template.pieces ++ [.char '\n']) <:+: signs whole.pieces

/-- Whether a method stands in a packaged stub is told by the characters of the stub. -/
theorem MethodStub.standsIn_of_letters {m : MethodStub} {name : Name}
    (h : (∀ s ∈ m.parts, s.Literal) ∧ m.template.Sound ∧
      Sign.char '\n' :: (signs m.template.pieces ++ [.char '\n']) <:+: signs name.letters.1) :
    m.StandsIn name.template := by
  obtain ⟨hliteral, hsound, hinside⟩ := h
  rw [← name.letters.2] at hinside
  exact ⟨hliteral, hsound, hinside⟩

section Method

variable {m : MethodStub} {f : Filling} (hplain : ∀ s ∈ m.parts, s.Plain f)
include hplain

theorem MethodStub.plain_fill : (m.fill f).Plain := by
  simp only [MethodStub.parts, List.forall_mem_append] at hplain
  obtain ⟨hstart, hstatement, hcall, hvalues, hrest⟩ := hplain
  exact ⟨free_fill hstart, free_fill hstatement, free_fill hcall, free_fill hvalues, free_fill hrest⟩

/-- A method of a template is a method of the filled template, whatever fills the other holes. -/
theorem MethodStub.isInfix_render {whole : Template} (hf : f.Lettered) (hkeys : (f.map (·.1)).Nodup)
    (hm : m.StandsIn whole) :
    '\n' :: (m.fill f).text.toList <:+: (render whole.text f).toList := by
  rw [← MethodStub.fill_template]
  refine code_isInfix_render hf hm.sound hm.inside fun entry hentry hblank => ?_
  obtain ⟨value, hvalue, hfree⟩ := hplain _ (MethodStub.blank_mem_parts hblank)
  have hsame : value = entry.2 := by
    have hlookup := (lookup_eq_some_iff_mem hkeys).mpr hentry
    rw [hvalue] at hlookup
    exact Option.some.inj hlookup
  rw [← hsame]
  exact bare_of_not_mem (hfree.not_mem (by decide))

end Method

end Scaffold.Stub
