import Scaffold.Proofs.Text.Classes

/-!
# Trimming and lines

What is left of a text when it is trimmed, cut into lines, or written with one kind of line end.

* `strip_lead`, `dropRightWhile_append`: trimming takes blanks away and leaves the rest as it is.
* `linesFrom_lead`, `linesFrom_line`: blanks before a line, and the line itself.
* `normaliseNewlines_seam`: line ends are normalised part by part, up to one that is cut in two.
* `dropWhile_normaliseNewlines`: a run of a class ends at the place that corresponds.
-/
namespace Scaffold.Text

theorem startsWith_iff {start cs : List Char} : startsWith start cs = true ↔ start <+: cs :=
  List.isPrefixOf_iff_prefix

theorem dropStart?_append (start rest : List Char) : dropStart? start (start ++ rest) = some rest := by
  unfold dropStart?
  rw [if_pos (startsWith_iff.mpr (List.prefix_append start rest)), List.drop_left]

/-! ## Trimming -/

/-- What trimming takes away at the end. -/
theorem exists_dropRightWhile (p : Char → Bool) (cs : List Char) :
    ∃ tail, cs = dropRightWhile p cs ++ tail ∧ ∀ c ∈ tail, p c = true := by
  refine ⟨(cs.reverse.takeWhile p).reverse, ?_, ?_⟩
  · unfold dropRightWhile
    rw [← List.reverse_append, List.takeWhile_append_dropWhile, List.reverse_reverse]
  · intro c hc
    exact List.mem_takeWhile_imp (List.mem_reverse.mp hc)

theorem dropRightWhile_isPrefix (p : Char → Bool) (cs : List Char) : dropRightWhile p cs <+: cs := by
  obtain ⟨tail, htail, -⟩ := exists_dropRightWhile p cs
  exact ⟨tail, htail.symm⟩

/-- A text is trimmed no further than to its last character outside the class. -/
theorem dropRightWhile_append {p : Char → Bool} (start : List Char) {c : Char} (hc : p c = false)
    (rest : List Char) :
    dropRightWhile p (start ++ c :: rest) = start ++ c :: dropRightWhile p rest := by
  unfold dropRightWhile
  rw [List.reverse_append, List.reverse_cons, List.append_assoc, List.dropWhile_append]
  split
  · rename_i hnil
    rw [List.isEmpty_iff.mp hnil, List.singleton_append, List.dropWhile_cons_of_neg (by simp [hc])]
    simp
  · simp

theorem strip_lead {lead : List Char} (hlead : ∀ c ∈ lead, isBlank c = true) {cs : List Char}
    (hcs : Outside isBlank cs) : strip (lead ++ cs) = dropRightWhile isBlank cs := by
  unfold strip stripWhile
  rw [dropWhile_run hlead hcs]

theorem strip_of_outside {cs : List Char} (hcs : Outside isBlank cs) :
    strip cs = dropRightWhile isBlank cs := by
  have hnil : ∀ c ∈ ([] : List Char), isBlank c = true := by simp
  exact strip_lead hnil hcs

/-- What has been trimmed has no blanks left to be trimmed. -/
theorem dropRightWhile_idem (p : Char → Bool) (cs : List Char) :
    dropRightWhile p (dropRightWhile p cs) = dropRightWhile p cs := by
  unfold dropRightWhile
  rw [List.reverse_reverse, dropWhile_of_outside (outside_dropWhile p _)]

theorem Outside.of_isPrefix {p : Char → Bool} {start cs : List Char} (h : Outside p cs)
    (hstart : start <+: cs) : Outside p start := by
  cases start with
  | nil => exact outside_nil p
  | cons c start =>
    obtain ⟨rest, rfl⟩ := hstart
    exact h

theorem strip_strip (cs : List Char) : strip (strip cs) = strip cs := by
  have hout : Outside isBlank (strip cs) :=
    (outside_dropWhile isBlank cs).of_isPrefix (dropRightWhile_isPrefix isBlank _)
  rw [strip_of_outside hout]
  exact dropRightWhile_idem isBlank _

/-! ## Lines -/

theorem isBlank_of_isLineBreak {c : Char} (h : isLineBreak c = true) : isBlank c = true := by
  have hall : ∀ d ∈ lineBreaks, isBlank d = true := forall_mem_of_all (by decide)
  exact hall c (List.contains_iff_mem.mp h)

/-- A character that ends no line goes into the line that is read; in a text without carriage returns
every other character ends it. -/
theorem linesFrom_cons {c : Char} (hc : c ≠ '\r') (current cs : List Char) :
    linesFrom current (c :: cs) =
      if isLineBreak c then current.reverse :: linesFrom [] cs else linesFrom (c :: current) cs := by
  rw [linesFrom]
  intro rest heq
  exact absurd heq hc

theorem linesFrom_line {line : List Char} (hline : ∀ c ∈ line, isLineBreak c = false)
    (current rest : List Char) :
    linesFrom current (line ++ rest) = linesFrom (line.reverse ++ current) rest := by
  induction line generalizing current with
  | nil => rfl
  | cons c line ih =>
    obtain ⟨hc, hline'⟩ := List.forall_mem_cons.mp hline
    have hne : c ≠ '\r' := by rintro rfl; revert hc; decide
    rw [List.cons_append, linesFrom_cons hne, if_neg (by simp [hc]), ih hline', List.reverse_cons,
      List.append_assoc, List.singleton_append]

/-- Blanks at the start of a text are blank lines and the blanks before its first other character. -/
theorem linesFrom_lead {lead : List Char} (hlead : ∀ c ∈ lead, isBlank c = true)
    (hreturn : '\r' ∉ lead) {current : List Char} (hcurrent : ∀ c ∈ current, isBlank c = true)
    (rest : List Char) :
    ∃ (blank : List (List Char)) (gap : List Char), (∀ l ∈ blank, ∀ c ∈ l, isBlank c = true) ∧
      (∀ c ∈ gap, isBlank c = true) ∧
      linesFrom current (lead ++ rest) = blank ++ linesFrom gap rest := by
  induction lead generalizing current with
  | nil => exact ⟨[], current, by simp, hcurrent, rfl⟩
  | cons c lead ih =>
    obtain ⟨hc, hlead'⟩ := List.forall_mem_cons.mp hlead
    have hne : c ≠ '\r' := fun h => hreturn (by rw [h]; exact List.mem_cons_self)
    have hreturn' : '\r' ∉ lead := fun h => hreturn (List.mem_cons_of_mem _ h)
    rw [List.cons_append, linesFrom_cons hne]
    split
    · have hnil : ∀ c ∈ ([] : List Char), isBlank c = true := by simp
      obtain ⟨blank, gap, hblank, hgap, heq⟩ := ih hlead' hreturn' hnil
      refine ⟨current.reverse :: blank, gap, List.forall_mem_cons.mpr ⟨?_, hblank⟩, hgap, by
        rw [heq, List.cons_append]⟩
      exact fun d hd => hcurrent d (List.mem_reverse.mp hd)
    · exact ih hlead' hreturn' (List.forall_mem_cons.mpr ⟨hc, hcurrent⟩)

theorem joinWith_cons (separator piece : List Char) (pieces : List (List Char)) :
    ∃ rest, joinWith separator (piece :: pieces) = piece ++ rest ∧ (rest = [] ∨ separator <+: rest) := by
  cases pieces with
  | nil => exact ⟨[], (List.append_nil _).symm, .inl rfl⟩
  | cons next pieces =>
    refine ⟨separator ++ joinWith separator (next :: pieces), ?_, .inr (List.prefix_append _ _)⟩
    rw [joinWith, List.append_assoc]
    simp

theorem joinWith_append (separator : List Char) (before : List (List Char)) (piece : List Char)
    (pieces : List (List Char)) :
    joinWith separator (before ++ piece :: pieces) =
      before.flatMap (· ++ separator) ++ joinWith separator (piece :: pieces) := by
  induction before with
  | nil => rfl
  | cons first before ih =>
    obtain ⟨second, more, hmore⟩ : ∃ second more, before ++ piece :: pieces = second :: more := by
      cases before with
      | nil => exact ⟨piece, pieces, rfl⟩
      | cons second before => exact ⟨second, _, rfl⟩
    rw [hmore] at ih
    rw [List.cons_append, hmore, joinWith, ih, List.flatMap_cons]
    · simp only [List.append_assoc]
    · simp

/-! ## Line ends -/

@[simp] theorem normaliseNewlines_nil : normaliseNewlines [] = [] := rfl

theorem normaliseNewlines_pair (rest : List Char) :
    normaliseNewlines ('\r' :: '\n' :: rest) = '\n' :: normaliseNewlines rest := rfl

theorem normaliseNewlines_cons {c : Char} (hc : c ≠ '\r') (cs : List Char) :
    normaliseNewlines (c :: cs) = c :: normaliseNewlines cs := by
  rw [normaliseNewlines]
  all_goals
    intros
    simp_all

/-- A part without carriage returns is left as it is. -/
theorem normaliseNewlines_run {run : List Char} (h : '\r' ∉ run) (rest : List Char) :
    normaliseNewlines (run ++ rest) = run ++ normaliseNewlines rest := by
  induction run with
  | nil => rfl
  | cons c run ih =>
    have hc : c ≠ '\r' := fun h' => h (by rw [h']; exact List.mem_cons_self)
    rw [List.cons_append, normaliseNewlines_cons hc, ih fun h' => h (List.mem_cons_of_mem _ h'),
      List.cons_append]

/-- What is left of a text for its own line ends behind another one: a line feed behind a carriage return
belongs to the line end before it. -/
def behindReturn (before rest : List Char) : List Char :=
  if before.getLast? = some '\r' ∧ rest.head? = some '\n' then rest.tail else rest

theorem behindReturn_of_outside (before : List Char) {rest : List Char} (h : Outside (· == '\n') rest) :
    behindReturn before rest = rest := by
  refine if_neg fun hboth => ?_
  obtain ⟨more, rfl⟩ := List.head?_eq_some_iff.mp hboth.2
  simp at h

theorem behindReturn_isSuffix (before rest : List Char) : behindReturn before rest <:+ rest := by
  unfold behindReturn
  split
  · exact List.tail_suffix rest
  · exact List.suffix_refl rest

theorem behindReturn_cons {c : Char} {before : List Char} (h : c ≠ '\r' ∨ before ≠ [])
    (rest : List Char) : behindReturn (c :: before) rest = behindReturn before rest := by
  cases before with
  | nil =>
    have hc : c ≠ '\r' := h.resolve_right fun hne => hne rfl
    simp [behindReturn, hc]
  | cons d before => simp [behindReturn]

theorem normaliseNewlines_return (rest : List Char) :
    normaliseNewlines ('\r' :: rest) = '\n' :: normaliseNewlines (behindReturn ['\r'] rest) := by
  cases rest with
  | nil => rfl
  | cons c rest =>
    by_cases hc : c = '\n'
    · rw [hc, normaliseNewlines_pair]
      rfl
    · rw [behindReturn_of_outside _ (by simpa using hc), normaliseNewlines]
      exact fun more heq => hc (List.cons_eq_cons.mp heq).1

/-- Line ends are normalised part by part, up to a line end that is cut in two. -/
theorem normaliseNewlines_seam (before rest : List Char) :
    normaliseNewlines (before ++ rest) =
      normaliseNewlines before ++ normaliseNewlines (behindReturn before rest) := by
  fun_induction normaliseNewlines before with
  | case1 => rfl
  | case2 before ih =>
    rw [List.cons_append, List.cons_append, normaliseNewlines_pair, ih, List.cons_append,
      behindReturn_cons (.inr (List.cons_ne_nil _ _)), behindReturn_cons (.inl (by decide))]
  | case3 before hnext ih =>
    rw [List.cons_append, normaliseNewlines_return]
    cases before with
    | nil => rfl
    | cons c before =>
      have hc : c ≠ '\n' := fun heq => hnext before (by rw [heq])
      rw [behindReturn_of_outside _ (by simpa using hc), ih, List.cons_append,
        behindReturn_cons (.inr (List.cons_ne_nil _ _))]
  | case4 c before hpair hsingle ih =>
    have hc : c ≠ '\r' := fun heq => hsingle heq
    rw [List.cons_append, normaliseNewlines_cons hc, ih, List.cons_append, behindReturn_cons (.inl hc)]

/-- Line ends are normalised part by part unless one is cut in two. -/
theorem normaliseNewlines_append (a : List Char) {b : List Char} (h : Outside (· == '\n') b) :
    normaliseNewlines (a ++ b) = normaliseNewlines a ++ normaliseNewlines b := by
  rw [normaliseNewlines_seam, behindReturn_of_outside a h]

/-- No carriage return is left, and only line feeds are new. -/
theorem kept_of_mem_normaliseNewlines {c : Char} {cs : List Char} (h : c ∈ normaliseNewlines cs) :
    c = '\n' ∨ c ≠ '\r' ∧ c ∈ cs := by
  fun_induction normaliseNewlines cs with
  | case1 => cases h
  | case2 rest ih =>
    rcases List.mem_cons.mp h with rfl | h
    · exact .inl rfl
    · exact (ih h).imp_right fun h => ⟨h.1, List.mem_cons_of_mem _ (List.mem_cons_of_mem _ h.2)⟩
  | case3 rest _ ih =>
    rcases List.mem_cons.mp h with rfl | h
    · exact .inl rfl
    · exact (ih h).imp_right fun h => ⟨h.1, List.mem_cons_of_mem _ h.2⟩
  | case4 d rest _ hsingle ih =>
    rcases List.mem_cons.mp h with rfl | h
    · exact .inr ⟨fun heq => hsingle heq, List.mem_cons_self⟩
    · exact (ih h).imp_right fun h => ⟨h.1, List.mem_cons_of_mem _ h.2⟩

theorem mem_normaliseNewlines {c : Char} {cs : List Char} (h : c ∈ normaliseNewlines cs) :
    c = '\n' ∨ c ∈ cs := (kept_of_mem_normaliseNewlines h).imp_right And.right

/-- A text that ends in a line feed is normalised apart from what follows it. -/
theorem exists_normaliseNewlines_newline (front : List Char) :
    ∃ part, ∀ rest, normaliseNewlines (front ++ '\n' :: rest) = part ++ '\n' :: normaliseNewlines rest := by
  by_cases hreturn : front.getLast? = some '\r'
  · refine ⟨normaliseNewlines front.dropLast, fun rest => ?_⟩
    obtain ⟨line, rfl⟩ := List.getLast?_eq_some_iff.mp hreturn
    rw [List.dropLast_concat, List.append_assoc, List.singleton_append,
      normaliseNewlines_append line (by simp), normaliseNewlines_pair]
  · refine ⟨normaliseNewlines front, fun rest => ?_⟩
    have hbehind : behindReturn front ('\n' :: rest) = '\n' :: rest := if_neg fun h => hreturn h.1
    rw [normaliseNewlines_seam, hbehind, normaliseNewlines_cons (by decide)]

/-- Line ends that are normalised stay as they are. -/
theorem normaliseNewlines_idem (cs : List Char) :
    normaliseNewlines (normaliseNewlines cs) = normaliseNewlines cs := by
  have hreturn : '\r' ∉ normaliseNewlines cs := fun h => by
    rcases kept_of_mem_normaliseNewlines h with heq | ⟨hne, -⟩
    · revert heq
      decide
    · exact hne rfl
  have hrun := normaliseNewlines_run hreturn []
  rwa [List.append_nil, normaliseNewlines_nil, List.append_nil] at hrun

/-- A line that begins the normalised text begins the text. -/
theorem isPrefix_of_normaliseNewlines {part : List Char} (hnewline : '\n' ∉ part) {cs : List Char}
    (h : part <+: normaliseNewlines cs) : part <+: cs := by
  induction part generalizing cs with
  | nil => exact List.nil_prefix
  | cons d part ih =>
    have hd : d ≠ '\n' := fun heq => hnewline (by rw [heq]; exact List.mem_cons_self)
    cases cs with
    | nil => exact h
    | cons c cs =>
      by_cases hc : c = '\r'
      · rw [hc, normaliseNewlines_return] at h
        exact absurd (List.cons_prefix_cons.mp h).1 hd
      · rw [normaliseNewlines_cons hc] at h
        obtain ⟨rfl, hrest⟩ := List.cons_prefix_cons.mp h
        exact (List.prefix_cons_inj d).mpr (ih (fun hmem => hnewline (List.mem_cons_of_mem _ hmem)) hrest)

/-- What stands within a line of the normalised text stands in the text. -/
theorem isInfix_of_normaliseNewlines {part cs : List Char} (hnewline : '\n' ∉ part)
    (h : part <:+: normaliseNewlines cs) : part <:+: cs := by
  cases part with
  | nil => exact List.nil_infix
  | cons d part =>
    have hd : ∀ {rest : List Char}, ¬d :: part <+: '\n' :: rest := fun hbegins =>
      hnewline (by rw [(List.cons_prefix_cons.mp hbegins).1]; exact List.mem_cons_self)
    fun_induction normaliseNewlines cs with
    | case1 => exact h
    | case2 rest ih =>
      exact (ih ((List.infix_cons_iff.mp h).resolve_left hd)).trans ⟨['\r', '\n'], [], by simp⟩
    | case3 rest _ ih =>
      exact (ih ((List.infix_cons_iff.mp h).resolve_left hd)).trans (List.suffix_cons _ _).isInfix
    | case4 c rest _ hsingle ih =>
      rcases List.infix_cons_iff.mp h with hbegins | hrest
      · rw [← normaliseNewlines_cons fun heq => hsingle heq] at hbegins
        exact (isPrefix_of_normaliseNewlines hnewline hbegins).isInfix
      · exact (ih hrest).trans (List.suffix_cons _ _).isInfix

/-- A run is left at the place that corresponds if the class does not tell line ends apart. -/
theorem dropWhile_normaliseNewlines {p : Char → Bool} (h : p '\r' = p '\n') (cs : List Char) :
    (normaliseNewlines cs).dropWhile p = normaliseNewlines (cs.dropWhile p) := by
  fun_induction normaliseNewlines cs with
  | case1 => rfl
  | case2 rest ih =>
    cases hp : p '\n' with
    | true => simp only [List.dropWhile_cons, h, hp, if_true, ih]
    | false => simp only [List.dropWhile_cons, h, hp, Bool.false_eq_true, if_false, normaliseNewlines_pair]
  | case3 rest hnext ih =>
    cases hp : p '\n' with
    | true => simp only [List.dropWhile_cons, h, hp, if_true, ih]
    | false =>
      simp only [List.dropWhile_cons, h, hp, Bool.false_eq_true, if_false]
      rw [normaliseNewlines]
      exact hnext
  | case4 c rest hpair hsingle ih =>
    have hc : c ≠ '\r' := fun heq => hsingle heq
    cases hp : p c with
    | true => simp only [List.dropWhile_cons, hp, if_true, ih]
    | false =>
      simp only [List.dropWhile_cons, hp, Bool.false_eq_true, if_false, normaliseNewlines_cons hc]

/-- A run without line ends stays as it is. -/
theorem takeWhile_normaliseNewlines {p : Char → Bool} (hreturn : p '\r' = false)
    (hnewline : p '\n' = false) (cs : List Char) :
    (normaliseNewlines cs).takeWhile p = cs.takeWhile p := by
  induction cs with
  | nil => rfl
  | cons c cs ih =>
    by_cases hc : c = '\r'
    · rw [hc, normaliseNewlines_return, takeWhile_of_outside (outside_cons.mpr hnewline),
        takeWhile_of_outside (outside_cons.mpr hreturn)]
    · rw [normaliseNewlines_cons hc, List.takeWhile_cons, List.takeWhile_cons, ih]

theorem normaliseNewlines_ne_nil {cs : List Char} (h : cs ≠ []) : normaliseNewlines cs ≠ [] := by
  cases cs with
  | nil => exact absurd rfl h
  | cons c cs =>
    by_cases hc : c = '\r'
    · rw [hc, normaliseNewlines_return]
      exact List.cons_ne_nil _ _
    · rw [normaliseNewlines_cons hc]
      exact List.cons_ne_nil _ _

@[simp] theorem join_singleton (separator piece : String) : join separator [piece] = piece := rfl

theorem join_cons_cons (separator piece next : String) (rest : List String) :
    join separator (piece :: next :: rest) = piece ++ separator ++ join separator (next :: rest) := rfl

theorem join_append (separator : String) {pieces others : List String} (h : pieces ≠ [])
    (hothers : others ≠ []) :
    join separator (pieces ++ others) = join separator pieces ++ separator ++ join separator others := by
  induction pieces with
  | nil => exact absurd rfl h
  | cons first rest ih =>
    cases rest with
    | nil =>
      obtain ⟨other, others, rfl⟩ := List.exists_cons_of_ne_nil hothers
      rfl
    | cons next rest =>
      have hrest := ih (List.cons_ne_nil next rest)
      rw [List.cons_append, List.cons_append, join_cons_cons, join_cons_cons, ← List.cons_append, hrest]
      simp only [String.append_assoc]

theorem join_concat (separator last : String) {pieces : List String} (h : pieces ≠ []) :
    join separator (pieces ++ [last]) = join separator pieces ++ separator ++ last :=
  join_append separator h (List.cons_ne_nil last [])

theorem isInfix_join (separator : String) {pieces : List String} {piece : String}
    (h : piece ∈ pieces) : piece.toList <:+: (join separator pieces).toList := by
  induction pieces with
  | nil => cases h
  | cons first rest ih =>
    cases rest with
    | nil =>
      rw [List.mem_singleton.mp h]
      exact List.infix_rfl
    | cons next rest =>
      rw [join_cons_cons, String.toList_append, String.toList_append]
      rcases List.mem_cons.mp h with rfl | h
      · rw [List.append_assoc]
        exact (List.prefix_append _ _).isInfix
      · exact (ih h).trans (List.suffix_append _ _).isInfix

end Scaffold.Text
