import Mathlib.Data.List.Infix
import Scaffold.Proofs.Text.Lines
import Scaffold.Stub.Template

/-!
# What filling does to a text

Holes are marked by letters, spaces and braces only. So every other character stays where it is while a
template is filled, and what stands between two of them is filled on its own.

* `renderChars_append_cons`: a character that no mark has parts the text.
* `Unmarked`, `renderChars_of_unmarked`: a text without a mark stays as it is.
* `renderChars_hole`: a hole becomes its text, filled with what comes after it.
-/
namespace Scaffold.Stub

open Text (startsWith startsWith_iff)

variable {q value a b cs : List Char} {e : Char}

/-! ## Replacing one pattern -/

/-- A pattern that begins a text ends before a character that it has not. -/
theorem isPrefix_of_append_cons (he : e ∉ q) (h : q <+: a ++ e :: b) : q <+: a := by
  rcases List.prefix_or_prefix_of_prefix h (List.prefix_append a (e :: b)) with hq | ⟨tail, rfl⟩
  · exact hq
  · cases tail with
    | nil => rw [List.append_nil]
    | cons c tail =>
      obtain ⟨rest, hrest⟩ := (List.prefix_append_right_inj a).mp h
      cases hrest
      exact absurd (List.mem_append_right a List.mem_cons_self) he

theorem startsWith_append_cons (he : e ∉ q) : startsWith q (a ++ e :: b) = startsWith q a := by
  rw [Bool.eq_iff_iff, startsWith_iff, startsWith_iff]
  exact ⟨isPrefix_of_append_cons he, fun h => h.trans (List.prefix_append a _)⟩

/-- A character that the pattern has not parts the text. -/
theorem replaceFrom_append_cons (hq : q ≠ []) (he : e ∉ q) (value : List Char) {skip : Nat}
    (hskip : skip ≤ a.length) : replaceFrom q value skip (a ++ e :: b) =
      replaceFrom q value skip a ++ e :: replaceFrom q value 0 b := by
  induction a generalizing skip with
  | nil =>
    have hstarts : ¬startsWith q (e :: b) = true := by
      intro h
      exact hq (List.prefix_nil.mp (isPrefix_of_append_cons (a := []) he (startsWith_iff.mp h)))
    rw [Nat.le_zero.mp hskip]
    change replaceFrom q value 0 (e :: b) = e :: replaceFrom q value 0 b
    rw [replaceFrom, if_neg hstarts]
  | cons c a ih =>
    cases skip with
    | succ n => exact ih (Nat.le_of_succ_le_succ hskip)
    | zero =>
      -- no occurrence reaches across the character, so the same ones are found without what follows it
      have hsame : startsWith q (c :: (a ++ e :: b)) = startsWith q (c :: a) :=
        startsWith_append_cons (a := c :: a) he
      rw [List.cons_append, replaceFrom, replaceFrom, hsame]
      split
      · rename_i hstarts
        have hlength := (startsWith_iff.mp hstarts).length_le
        rw [List.length_cons] at hlength
        rw [ih (by omega), List.append_assoc]
      · rw [ih (Nat.zero_le _), List.cons_append]

theorem replaceAll_append_cons (hq : q ≠ []) (he : e ∉ q) (value : List Char) :
    replaceAll q value (a ++ e :: b) = replaceAll q value a ++ e :: replaceAll q value b :=
  replaceFrom_append_cons hq he value (Nat.zero_le _)

/-- A text stays as it is where the pattern does not occur. -/
theorem replaceAll_of_not_isInfix (h : ¬q <:+: cs) : replaceAll q value cs = cs := by
  unfold replaceAll
  induction cs with
  | nil => rfl
  | cons c cs ih =>
    have hstarts : ¬startsWith q (c :: cs) = true := fun hstarts =>
      h (startsWith_iff.mp hstarts).isInfix
    have hlater : ¬q <:+: cs := fun hinside => h (hinside.trans (List.suffix_cons c cs).isInfix)
    rw [replaceFrom, if_neg hstarts, ih hlater]

theorem replaceFrom_length (q value cs : List Char) : replaceFrom q value cs.length cs = [] := by
  induction cs with
  | nil => rfl
  | cons c cs ih => exact ih

theorem replaceAll_self (hq : q ≠ []) : replaceAll q value q = value := by
  cases q with
  | nil => exact absurd rfl hq
  | cons c q =>
    unfold replaceAll
    rw [replaceFrom, if_pos (startsWith_iff.mpr (List.prefix_refl _)), List.length_cons,
      Nat.add_sub_cancel, replaceFrom_length, List.append_nil]

/-! ## Marks -/

/-- Whether a character may stand in the mark of a hole. -/
def isMark (c : Char) : Bool := c.isAlpha || c == ' ' || c == '\x7b' || c == '\x7d'

/-- A name of letters. -/
def Lettered (name : String) : Prop := ∀ c ∈ name.toList, c.isAlpha = true

/-- A filling whose names are of letters. -/
def Filling.Lettered (f : Filling) : Prop := ∀ entry ∈ f, Stub.Lettered entry.1

theorem lettered_literal (h : cs.all Char.isAlpha = true) : Lettered (String.ofList cs) := by
  unfold Lettered
  rw [String.toList_ofList]
  exact List.all_eq_true.mp h

theorem toList_hole (name : String) :
    (hole name).toList = '\x7b' :: '\x7b' :: ' ' :: (name.toList ++ [' ', '\x7d', '\x7d']) := by
  unfold hole
  rw [String.toList_append, String.toList_append, List.append_assoc]
  rfl

theorem hole_ne_nil (name : String) : (hole name).toList ≠ [] := by
  rw [toList_hole]
  exact List.cons_ne_nil _ _

theorem isMark_of_mem_hole {name : String} (h : Lettered name) {c : Char}
    (hc : c ∈ (hole name).toList) : isMark c = true := by
  have hletter : c.isAlpha = true → isMark c = true := by
    intro halpha
    unfold isMark
    rw [halpha]
    rfl
  rw [toList_hole] at hc
  simp only [List.mem_cons, List.mem_append, List.not_mem_nil, or_false] at hc
  rcases hc with rfl | rfl | rfl | hc | rfl | rfl | rfl
  · rfl
  · rfl
  · rfl
  · exact hletter (h c hc)
  · rfl
  · rfl
  · rfl

theorem not_mem_hole {name : String} (h : Lettered name) (he : isMark e = false) :
    e ∉ (hole name).toList := by
  intro hmem
  rw [isMark_of_mem_hole h hmem] at he
  cases he

/-- A text in which no hole is marked. -/
def Unmarked (cs : List Char) : Prop := ∀ name, ¬(hole name).toList <:+: cs

theorem unmarked_of_not_mem (h : '\x7b' ∉ cs) : Unmarked cs := by
  intro name hinside
  refine h (hinside.subset ?_)
  rw [toList_hole]
  exact List.mem_cons_self

/-- A mark has two spaces. -/
theorem unmarked_of_count (h : cs.count ' ' ≤ 1) : Unmarked cs := by
  intro name hinside
  have hcount : (hole name).toList.count ' ' = 2 + name.toList.count ' ' := by
    rw [toList_hole]
    simp
    omega
  have hle := hinside.sublist.count_le ' '
  omega

/-- No mark has another one in it. -/
theorem not_isInfix_hole {name other : String} (h : Lettered name) (hne : other ≠ name) :
    ¬(hole other).toList <:+: (hole name).toList := by
  have hletter : ∀ {c : Char}, c.isAlpha = false → c ∉ name.toList := by
    intro c hc hmem
    rw [h c hmem] at hc
    cases hc
  have hbrace : '\x7b' ∉ ' ' :: (name.toList ++ [' ', '\x7d', '\x7d']) := by
    simp [hletter]
  rintro ⟨before, after, heq⟩
  rw [toList_hole, toList_hole] at heq
  match before with
  | [] =>
    -- the marks begin at one place, and the first space after it ends the name
    simp only [List.nil_append, List.cons_append, List.cons.injEq, true_and,
      List.append_assoc] at heq
    rcases List.append_eq_append_iff.mp heq with ⟨rest, hname, hrest⟩ | ⟨rest, hother, hrest⟩
    · cases rest with
      | nil => exact hne (String.toList_inj.mp (by rw [hname, List.append_nil]))
      | cons c rest =>
        have hspace : ' ' = c := (List.cons.inj hrest).1
        exact hletter (c := ' ') (by decide) (by rw [hname, hspace]; simp)
    · have hlength := congrArg List.length hrest
      simp only [List.length_append, List.length_cons, List.length_nil] at hlength
      have hnil : rest = [] := List.eq_nil_of_length_eq_zero (by omega)
      exact hne (String.toList_inj.mp (by rw [hother, hnil, List.append_nil]))
  | [_] => simp at heq
  | _ :: _ :: before =>
    simp only [List.cons_append, List.cons.injEq] at heq
    rw [← heq.2.2] at hbrace
    simp at hbrace

theorem toList_text_append (t u : Template) :
    (Template.text (t ++ u)).toList = (Template.text t).toList ++ (Template.text u).toList := by
  unfold Template.text
  rw [String.toList_join, String.toList_join, String.toList_join, List.map_append,
    List.flatMap_append]

/-! ## Filling -/

variable {filling : Filling}

/-- A character that no mark has parts the text. -/
theorem renderChars_append_cons (hf : filling.Lettered) (he : isMark e = false) (a b : List Char) :
    renderChars (a ++ e :: b) filling = renderChars a filling ++ e :: renderChars b filling := by
  induction filling generalizing a b with
  | nil => rfl
  | cons entry rest ih =>
    obtain ⟨hentry, hrest⟩ := List.forall_mem_cons.mp hf
    have hreplace := replaceAll_append_cons (a := a) (b := b) (hole_ne_nil entry.1)
      (not_mem_hole hentry he) entry.2.toList
    unfold renderChars at ih ⊢
    rw [List.foldl_cons, List.foldl_cons, List.foldl_cons, hreplace, ih hrest]

theorem renderChars_of_unmarked (h : Unmarked cs) (filling : Filling) :
    renderChars cs filling = cs := by
  induction filling with
  | nil => rfl
  | cons entry rest ih =>
    unfold renderChars at ih ⊢
    rw [List.foldl_cons, replaceAll_of_not_isInfix (h entry.1), ih]

/-- A hole becomes its text, filled with what comes after it. -/
theorem renderChars_hole {before after : Filling} {name value : String} (h : Lettered name)
    (hbefore : name ∉ before.map (·.1)) :
    renderChars (hole name).toList (before ++ (name, value) :: after) =
      renderChars value.toList after := by
  induction before with
  | nil =>
    unfold renderChars
    rw [List.nil_append, List.foldl_cons, replaceAll_self (hole_ne_nil name)]
  | cons entry before ih =>
    rw [List.map_cons, List.mem_cons, not_or] at hbefore
    unfold renderChars at ih ⊢
    rw [List.cons_append, List.foldl_cons,
      replaceAll_of_not_isInfix (not_isInfix_hole h (Ne.symm hbefore.1)), ih hbefore.2]

/-- What is unmarked and stands between two characters that no mark has stays there. -/
theorem isInfix_renderChars (hf : filling.Lettered) {c : Char} (hc : isMark c = false)
    (he : isMark e = false) (ha : Unmarked a) (h : c :: (a ++ [e]) <:+: cs) :
    c :: (a ++ [e]) <:+: renderChars cs filling := by
  obtain ⟨before, after, rfl⟩ := h
  have hsplit : before ++ c :: (a ++ [e]) ++ after = before ++ c :: (a ++ e :: after) := by simp
  rw [hsplit, renderChars_append_cons hf hc, renderChars_append_cons hf he,
    renderChars_of_unmarked ha]
  exact ⟨renderChars before filling, renderChars after filling, by simp⟩

/-- A hole between two characters that no mark has becomes its text, filled with what comes after it. -/
theorem isInfix_renderChars_hole (before after : Filling) {name value : String} {c : Char}
    (hf : Filling.Lettered (before ++ (name, value) :: after)) (hbefore : name ∉ before.map (·.1))
    (hc : isMark c = false) (he : isMark e = false) (h : c :: ((hole name).toList ++ [e]) <:+: cs) :
    renderChars value.toList after <:+: renderChars cs (before ++ (name, value) :: after) := by
  have hname : Lettered name := hf (name, value) (by simp)
  obtain ⟨start, rest, rfl⟩ := h
  have hsplit : start ++ c :: ((hole name).toList ++ [e]) ++ rest =
      start ++ c :: ((hole name).toList ++ e :: rest) := by simp
  rw [hsplit, renderChars_append_cons hf hc, renderChars_append_cons hf he,
    renderChars_hole hname hbefore]
  exact ((List.prefix_append _ _).isInfix.trans (List.suffix_cons _ _).isInfix).trans
    (List.suffix_append _ _).isInfix

/-- Pieces of a template that follow each other. -/
theorem toList_text_isInfix {t u : Template} (h : t <:+: u) :
    (Template.text t).toList <:+: (Template.text u).toList := by
  obtain ⟨before, after, rfl⟩ := h
  rw [toList_text_append, toList_text_append]
  exact ⟨_, _, rfl⟩

/-- A hole on a line of its own. -/
theorem hole_isInfix {t : Template} {name next : String} (first : List String) {rest : List String}
    (hfirst : first ≠ [])
    (h : [.lines (first ++ [""]), .blank name, .lines ("" :: next :: rest)] <:+: t) :
    '\n' :: ((hole name).toList ++ ['\n']) <:+: (Template.text t).toList := by
  have htext : (Template.text
      [.lines (first ++ [""]), .blank name, .lines ("" :: next :: rest)]).toList =
      (Text.join "\n" first).toList ++ ('\n' :: ((hole name).toList ++ ['\n'])) ++
        (Text.join "\n" (next :: rest)).toList := by
    simp [Template.text, Segment.text, Text.join_concat _ _ hfirst, Text.join]
  exact List.IsInfix.trans ⟨_, _, htext.symm⟩ (toList_text_isInfix h)

theorem line_isInfix {t : Template} {texts : List String} {line : String}
    (htexts : .lines texts ∈ t) (hline : line ∈ texts) :
    line.toList <:+: (Template.text t).toList := by
  obtain ⟨before, after, rfl⟩ := List.append_of_mem htexts
  have hsplit : before ++ .lines texts :: after = before ++ ([.lines texts] ++ after) := rfl
  have hone : (Template.text [.lines texts]).toList = (Text.join "\n" texts).toList := by
    simp [Template.text, Segment.text, String.join]
  rw [hsplit, toList_text_append, toList_text_append, hone]
  exact (Text.isInfix_join "\n" hline).trans
    ((List.prefix_append _ _).isInfix.trans (List.suffix_append _ _).isInfix)

end Scaffold.Stub
