import Scaffold.Proofs.Schema.Clause

/-!
# Where a clause can begin

A clause begins with the words `FOREIGN KEY`. `Headless` says that a part of a text holds no such
beginning, as it is read on into what stands behind it. The written form of a clause is put together from
words, blanks and signs, and each of these is headless.

* `headAt_of_append`: the two words do not reach beyond a place that closes the text before it.
* `headless_word`, `headless_of_not_word`: words without a `KEY` behind them, blanks and signs.
* `Clause.headless_tail`: within a clause no other clause begins.
* `ConstraintName.headless`: nor in the name of its constraint.
-/
namespace Scaffold.Schema

open Text

/-! ## Where a clause can begin -/

/-- The text begins with the first two words of a clause. -/
def HeadAt (cs : List Char) : Prop := ∃ (h : Head) (rest : List Char), cs = h.text ++ rest

/-- No clause begins in the text, as it is read on into what stands behind it. -/
def Headless (behind : List Char) : List Char → Prop
  | [] => True
  | c :: cs => ¬HeadAt (c :: cs ++ behind) ∧ Headless behind cs

@[simp] theorem headless_nil (behind : List Char) : Headless behind [] := trivial

theorem headless_cons {behind : List Char} {c : Char} {cs : List Char} :
    Headless behind (c :: cs) ↔ ¬HeadAt (c :: cs ++ behind) ∧ Headless behind cs := Iff.rfl

theorem headless_append {behind a b : List Char} :
    Headless behind (a ++ b) ↔ Headless (b ++ behind) a ∧ Headless behind b := by
  induction a with
  | nil => simp
  | cons c a ih =>
    rw [List.cons_append, headless_cons, headless_cons, ih, List.cons_append, List.cons_append,
      List.append_assoc, and_assoc]

theorem headless_of_parts {behind cs : List Char}
    (h : ∀ front back, cs = front ++ back → back ≠ [] → ¬HeadAt (back ++ behind)) :
    Headless behind cs := by
  induction cs with
  | nil => exact headless_nil behind
  | cons c cs ih =>
    refine headless_cons.mpr ⟨h [] (c :: cs) rfl (List.cons_ne_nil _ _), ih fun front back hsplit => ?_⟩
    exact h (c :: front) back (by rw [hsplit, List.cons_append])

/-- The first two words of a clause stand nowhere in the text. -/
def HeadFree (cs : List Char) : Prop :=
  ∀ (before : List Char) (h : Head) (behind : List Char), cs ≠ before ++ (h.text ++ behind)

theorem headless_of_headFree {cs : List Char} (h : HeadFree cs) : Headless [] cs := by
  refine headless_of_parts ?_
  rintro front back rfl - ⟨head, rest, heq⟩
  rw [List.append_nil] at heq
  exact h front head rest (by rw [heq])

theorem headFree_of_headless {cs : List Char} (h : Headless [] cs) : HeadFree cs := by
  rintro before head behind rfl
  obtain ⟨first, letters, hletters, -⟩ := head.foreign.exists_cons rfl
  have hhead := (headless_append.mp h).2
  unfold Head.text at hhead
  rw [hletters] at hhead
  refine hhead.1 ⟨head, behind, ?_⟩
  unfold Head.text
  rw [hletters]
  simp

/-- Whether letters in lower case agree with the first word of a clause as far as both go. -/
def fits (letters : List Char) : Bool :=
  (letters.zip ("FOREIGN".toList.map Char.toLower)).all fun pair => pair.1 == pair.2

theorem all_zip_of_append_eq {a b x y : List Char} (h : a ++ x = b ++ y) :
    (a.zip b).all (fun pair => pair.1 == pair.2) = true := by
  induction a generalizing b with
  | nil => rfl
  | cons c a ih =>
    cases b with
    | nil => rfl
    | cons d b =>
      rw [List.cons_append, List.cons_append, List.cons.injEq] at h
      obtain ⟨rfl, htail⟩ := h
      rw [List.zip_cons_cons, List.all_cons, ih htail]
      simp

theorem fits_of_headAt {t rest : List Char} (h : HeadAt (t ++ rest)) :
    fits (t.map foldChar) = true := by
  obtain ⟨head, behind, heq⟩ := h
  unfold fits
  have hfold := congrArg (List.map foldChar) heq
  unfold Head.text at hfold
  rw [List.map_append, List.append_assoc, List.append_assoc, List.map_append,
    head.foreign.spelled] at hfold
  exact all_zip_of_append_eq hfold

/-- Whether no rest of the letters agrees with the first word of a clause. -/
def neverFits : List Char → Bool
  | [] => true
  | c :: cs => !fits (c :: cs) && neverFits cs

theorem headless_of_neverFits {cs : List Char} (h : neverFits (cs.map foldChar) = true)
    (behind : List Char) : Headless behind cs := by
  induction cs with
  | nil => exact headless_nil behind
  | cons c cs ih =>
    simp only [List.map_cons, neverFits, Bool.and_eq_true, Bool.not_eq_true'] at h
    refine headless_cons.mpr ⟨fun hat => ?_, ih h.2⟩
    have hfits := fits_of_headAt hat
    rw [List.map_cons, h.1] at hfits
    cases hfits

theorem not_headAt_of_outside {cs : List Char} (h : Outside isWord cs) : ¬HeadAt cs := by
  rintro ⟨head, rest, rfl⟩
  obtain ⟨c, letters, hletters, -⟩ := head.foreign.exists_cons rfl
  have hword : isWord c = true :=
    head.foreign.word (by decide) c (by rw [hletters]; exact List.mem_cons_self)
  unfold Head.text at h
  rw [hletters] at h
  rw [outside_cons.mp h] at hword
  cases hword

/-- Blanks and signs begin no clause. -/
theorem headless_of_not_word {cs : List Char} (h : ∀ c ∈ cs, isWord c = false)
    (behind : List Char) : Headless behind cs := by
  induction cs with
  | nil => exact headless_nil behind
  | cons c cs ih =>
    obtain ⟨hc, hcs⟩ := List.forall_mem_cons.mp h
    exact headless_cons.mpr ⟨not_headAt_of_outside hc, ih hcs⟩

/-! ## Words -/

/-- Whether a character counts as the first letter of `KEY`. -/
def isK (c : Char) : Bool := foldChar c == 'k'

theorem isWord_of_isK {c : Char} (h : isK c = true) : isWord c = true := by
  refine isWord_of_foldChar ?_
  rw [beq_iff_eq.mp h]
  decide

/-- A place at which no word goes on and behind whose blanks there is no `KEY`. -/
def Closing (rest : List Char) : Prop := Outside isWord rest ∧ Outside isK (blanks rest)

theorem Gap.closing (g : Gap) {rest : List Char} (hblank : Outside isBlank rest)
    (hk : Outside isK rest) (hword : g.chars = [] → Outside isWord rest) :
    Closing (g.chars ++ rest) := by
  refine ⟨?_, ?_⟩
  · cases hg : g.chars with
    | nil => exact hword hg
    | cons c chars => exact isWord_of_isBlank (g.blank c (by rw [hg]; simp))
  · rw [blanks_eq_iff.mpr ⟨⟨g, rfl⟩, hblank⟩]
    exact hk

/-- Behind blanks a sign closes what stands before it. -/
theorem Gap.closing_sign (g : Gap) {c : Char} (hblank : isBlank c = false)
    (hword : isWord c = false) (rest : List Char) : Closing (g.chars ++ c :: rest) := by
  refine g.closing hblank ?_ fun _ => hword
  rw [outside_cons, Bool.eq_false_iff]
  intro hk
  rw [isWord_of_isK hk] at hword
  cases hword

theorem closing_sign {c : Char} (hblank : isBlank c = false) (hword : isWord c = false)
    (rest : List Char) : Closing (c :: rest) :=
  Gap.closing_sign ⟨[], by simp⟩ hblank hword rest

theorem Head.not_closing (h : Head) {gap : List Char} (hgap : ∀ c ∈ gap, isBlank c = true)
    (rest : List Char) : ¬Closing (gap ++ (h.key.letters ++ rest)) := by
  rintro ⟨-, hk⟩
  obtain ⟨c, letters, heq, hc, -⟩ := h.key.exists_cons rfl
  have hc' : isK c = true := by unfold isK; rw [hc]; rfl
  have hout : Outside isBlank (h.key.letters ++ rest) := by
    rw [heq]
    exact isBlank_of_isWord (isWord_of_isK hc')
  rw [blanks_eq_iff.mpr ⟨⟨⟨gap, hgap⟩, rfl⟩, hout⟩, heq, List.cons_append, outside_cons, hc'] at hk
  cases hk

/-- The first two words of a clause do not reach beyond a closing place. -/
theorem headAt_of_append {t rest : List Char} (hclose : Closing rest) (h : HeadAt (t ++ rest)) :
    HeadAt t := by
  obtain ⟨head, behind, heq⟩ := h
  unfold Head.text at heq
  rw [List.append_assoc, List.append_assoc] at heq
  have hopen : ∀ {c : Char} {cs : List Char}, rest = c :: cs → isWord c = true → False := by
    rintro c cs rfl hc
    rw [outside_cons.mp hclose.1] at hc
    cases hc
  rcases List.append_eq_append_iff.mp heq with ⟨left, hleft, hrest⟩ | ⟨later, rfl, hlater⟩
  · -- the rest begins within or right behind the first word
    cases left with
    | nil =>
      rw [List.nil_append] at hrest
      rw [hrest] at hclose
      exact absurd hclose (head.not_closing head.space.blank behind)
    | cons c left =>
      exact (hopen hrest (head.foreign.word (by decide) c (by rw [hleft]; simp))).elim
  · rcases List.append_eq_append_iff.mp hlater with ⟨inner, rfl, hinner⟩ | ⟨left, hleft, hrest⟩
    · rcases List.append_eq_append_iff.mp hinner with ⟨tail, rfl, -⟩ | ⟨left, hleft, hrest⟩
      · exact ⟨head, tail, by unfold Head.text; simp only [List.append_assoc]⟩
      · -- the rest begins within or right behind the second word
        cases left with
        | nil =>
          rw [List.append_nil] at hleft
          exact ⟨head, [], by unfold Head.text; simp only [List.append_assoc, hleft, List.append_nil]⟩
        | cons c left =>
          exact (hopen hrest (head.key.word (by decide) c (by rw [hleft]; simp))).elim
    · -- the rest begins with blanks between the two words
      have hblank : ∀ c ∈ left, isBlank c = true := fun c hc =>
        head.space.blank c (by rw [hleft]; exact List.mem_append_right _ hc)
      rw [hrest] at hclose
      exact absurd hclose (head.not_closing hblank behind)

theorem Headless.close {rest cs : List Char} (h : Headless [] cs) (hclose : Closing rest) :
    Headless rest cs := by
  induction cs with
  | nil => exact headless_nil rest
  | cons c cs ih =>
    rw [headless_cons, List.append_nil] at h
    exact headless_cons.mpr ⟨fun hat => h.1 (headAt_of_append hclose hat), ih h.2⟩

/-- A word begins no clause if no `KEY` follows. -/
theorem headless_word {word rest : List Char} (hword : ∀ c ∈ word, isWord c = true)
    (hclose : Closing rest) : Headless rest word := by
  refine Headless.close (headless_of_headFree fun before head behind heq => ?_) hclose
  obtain ⟨c, hc⟩ := List.exists_mem_of_ne_nil _ head.space.filled
  have hmem : c ∈ word := by
    rw [heq]
    unfold Head.text
    simp [hc]
  have hc' := hword c hmem
  rw [isWord_of_isBlank (head.space.blank c hc)] at hc'
  cases hc'

/-! ## The parts of a clause -/

theorem Spelling.headless {k : String} (hk : neverFits (k.toList.map Char.toLower) = true)
    (s : Spelling k) (behind : List Char) : Headless behind s.letters :=
  headless_of_neverFits (by rw [s.spelled]; exact hk) behind

theorem Gap.headless (g : Gap) (behind : List Char) : Headless behind g.chars :=
  headless_of_not_word (fun c hc => isWord_of_isBlank (g.blank c hc)) behind

theorem tick_headless (written : Bool) (behind : List Char) : Headless behind (tick written) := by
  refine headless_of_not_word (fun c hc => ?_) behind
  cases written with
  | true => rw [List.mem_singleton.mp hc]; exact (sign_outside '`' (by simp)).2
  | false => cases hc

theorem Ticked.headless (t : Ticked) {behind : List Char} (h : Closing behind) :
    Headless behind t.text := by
  have hend : Closing (tick t.right ++ behind) := by
    cases t.right with
    | true => exact closing_sign (sign_outside '`' (by simp)).1 (sign_outside '`' (by simp)).2 behind
    | false => exact h
  unfold Ticked.text
  rw [headless_append, headless_append]
  exact ⟨⟨tick_headless t.left _, headless_word t.name.word hend⟩, tick_headless t.right behind⟩

theorem signs_headless {signs : List Char} (h : signs ⊆ ['(', ')', '`', '"', ',', '-'])
    (behind : List Char) : Headless behind signs :=
  headless_of_not_word (fun c hc => (sign_outside c (h hc)).2) behind

theorem Bracketed.headless (b : Bracketed) (behind : List Char) : Headless behind b.text := by
  have hend : Closing (b.behind.chars ++ ([')'] ++ behind)) :=
    b.behind.closing_sign (sign_outside ')' (by simp)).1 (sign_outside ')' (by simp)).2 behind
  unfold Bracketed.text
  simp only [headless_append]
  exact ⟨⟨⟨⟨signs_headless (by simp) _, b.before.headless _⟩, b.ticked.headless hend⟩,
    b.behind.headless _⟩, signs_headless (by simp) behind⟩

theorem Clause.headless_target (c : Clause) (behind : List Char) : Headless behind c.target := by
  have htable : Closing (c.tableGap.chars ++ (c.parentColumn.text ++ behind)) :=
    c.tableGap.closing_sign (sign_outside '(' (by simp)).1 (sign_outside '(' (by simp)).2 _
  unfold Clause.target
  simp only [headless_append, List.append_assoc]
  exact ⟨c.keyGap.headless _, c.column.headless _, c.columnGap.headless _,
    c.references.headless (by decide) _, c.referencesSpace.headless _, c.table.headless htable,
    c.tableGap.headless _, c.parentColumn.headless behind⟩

/-- Within a clause no other clause begins. -/
theorem Clause.headless_tail (c : Clause) (behind : List Char) :
    ∃ first tail, c.text = first :: tail ∧ Headless behind tail := by
  obtain ⟨first, letters, hletters, -, hmore⟩ := c.head.foreign.exists_cons rfl
  refine ⟨first, letters ++ (c.head.space.chars ++ (c.head.key.letters ++ c.target)), ?_, ?_⟩
  · unfold Clause.text Head.text
    rw [hletters]
    simp only [List.cons_append, List.append_assoc]
  · simp only [headless_append]
    exact ⟨headless_of_neverFits (by rw [hmore]; decide) _, c.head.space.headless _,
      c.head.key.headless (by decide) _, c.headless_target behind⟩

/-- Neither does one begin within the name of a constraint that stands before a clause. -/
theorem ConstraintName.headless (p : ConstraintName) (c : Clause) (behind : List Char) :
    Headless (c.text ++ behind) p.text := by
  obtain ⟨first, letters, hletters, hfold, -⟩ := c.head.foreign.exists_cons rfl
  have hword : isWord first = true :=
    c.head.foreign.word (by decide) first (by rw [hletters]; exact List.mem_cons_self)
  have hend : Closing (p.nameSpace.chars ++ (c.text ++ behind)) := by
    refine p.nameSpace.closing ?_ ?_ fun hnil => absurd hnil p.nameSpace.filled
    · unfold Clause.text Head.text
      rw [hletters]
      exact isBlank_of_isWord hword
    · unfold Clause.text Head.text
      rw [hletters]
      change (foldChar first == 'k') = false
      rw [hfold]
      rfl
  unfold ConstraintName.text
  simp only [headless_append, List.append_assoc]
  exact ⟨p.constraint.headless (by decide) _, p.constraintSpace.headless _, p.name.headless hend,
    p.nameSpace.headless _⟩

end Scaffold.Schema
