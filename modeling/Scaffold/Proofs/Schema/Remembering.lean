import Scaffold.Proofs.Generator.Reading

/-!
# What a resolver remembers

One resolver is asked for table after table while the files under it change. What it keeps is exactly
the first success of every name it was asked for, and nothing else.

* `Event`, `questions`: a use of a resolver, question by question, with any change of the workspace in
  between.
* `lookup_miss`, `lookup_hit`, `lookup_error`: what one question answers and leaves.
* `Recalls`: what a resolver holds, told by the questions before; every question keeps it.
* `Remembers`: what this means for the answers: the file as it is at the first success, that same answer
  from then on, and another look after a failure.
* `questions_remembers`: so it is for every use of a new resolver, and as long as the files stay as they
  are it answers as if it kept nothing.
-/
namespace Scaffold.Schema.Resolver

open Files (Path)

/-- What happens between a resolver and the files: a table is asked for, or the workspace changes. -/
inductive Event where
  | ask (table : String)
  | change (f : Workspace → Workspace)

/-- A question to a resolver: the state it found, the answer, and the state it left. -/
structure Question where
  table : String
  before : Resolver × Workspace
  answer : Except Fault (Option Table)
  after : Resolver × Workspace

/-- The question for a table in a state. -/
def question (table : String) (s : Resolver × Workspace) : Question where
  table := table
  before := s
  answer := ((lookup table).run s).1
  after := ((lookup table).run s).2

/-- The questions of a use of a resolver, in order. -/
def questions (s : Resolver × Workspace) : List Event → List Question
  | [] => []
  | .ask table :: rest => question table s :: questions (question table s).after rest
  | .change f :: rest => questions (s.1, f s.2) rest

/-- What a resolver that was never asked before answers. -/
def answerNow (directory : Path) (w : Workspace) (table : String) : Except Fault (Option Table) :=
  (question table ({ directory := directory }, w)).answer

/-- The tables asked for. -/
def namesAsked : List Event → List String
  | [] => []
  | .ask table :: rest => table :: namesAsked rest
  | .change _ :: rest => namesAsked rest

/-- The changes among some events leave the files and the directory that relative paths start from. -/
def Still (events : List Event) : Prop :=
  ∀ f, Event.change f ∈ events → ∀ w, (f w).files = w.files ∧ (f w).directory = w.directory

/-! ## One question -/

section Question

variable {table : String} {s : Resolver × Workspace}

theorem lookup_hit {answer : Option Table} (h : List.lookup table s.1.found = some answer) :
    (question table s).answer = .ok answer ∧ (question table s).after = s := by
  have hrun : (lookup table).run s = (.ok answer, s) := by
    unfold Action.run lookup
    simp only [h]
  exact ⟨congrArg Prod.fst hrun, congrArg Prod.snd hrun⟩

/-- A name that is not held is read from its file; what is read is held from then on. -/
theorem lookup_miss (h : List.lookup table s.1.found = none) :
    (question table s).answer = parentAt s.2 s.1.directory table ∧
      Told s.2 (question table s).after.2 ∧
      (question table s).after.1 =
        match parentAt s.2 s.1.directory table with
        | .ok answer => { s.1 with found := (table, answer) :: s.1.found }
        | .error _ => s.1 := by
  obtain ⟨w, hnow, htold⟩ := lookUpNow_answers s.2 s.1.directory table s.2 (Told.refl s.2)
  have hrun : (lookup table).run s =
      (parentAt s.2 s.1.directory table,
        match parentAt s.2 s.1.directory table with
        | .ok answer => ({ s.1 with found := (table, answer) :: s.1.found }, w)
        | .error _ => (s.1, w)) := by
    unfold Action.run lookup
    simp only [h]
    have hpath : s.1.pathOf table = s.1.directory.join (table ++ fileEnding) := rfl
    rw [hpath, hnow]
    cases parentAt s.2 s.1.directory table <;> rfl
  refine ⟨congrArg Prod.fst hrun, ?_, ?_⟩
  · have hafter : (question table s).after = _ := congrArg Prod.snd hrun
    rw [hafter]
    cases parentAt s.2 s.1.directory table <;> exact htold
  · have hafter : (question table s).after = _ := congrArg Prod.snd hrun
    rw [hafter]
    cases parentAt s.2 s.1.directory table <;> rfl

theorem question_directory : (question table s).after.1.directory = s.1.directory := by
  cases h : List.lookup table s.1.found with
  | some answer => rw [(lookup_hit h).2]
  | none =>
    rw [(lookup_miss h).2.2]
    cases parentAt s.2 s.1.directory table <;> rfl

/-- A question changes nothing but the journal of the workspace. -/
theorem question_told : Told s.2 (question table s).after.2 := by
  cases h : List.lookup table s.1.found with
  | some answer => rw [(lookup_hit h).2]; exact Told.refl _
  | none => exact (lookup_miss h).2.1

/-- A question that fails leaves what is held as it was. -/
theorem lookup_error {e : Fault} (he : (question table s).answer = .error e) :
    (question table s).after.1 = s.1 := by
  cases h : List.lookup table s.1.found with
  | some answer => rw [(lookup_hit h).2]
  | none =>
    obtain ⟨hanswer, -, hafter⟩ := lookup_miss h
    rw [hafter, ← hanswer, he]

/-- A resolver that was never asked before answers what the file of the name says. -/
theorem answerNow_eq (directory : Path) (w : Workspace) (table : String) :
    answerNow directory w table = parentAt w directory table :=
  (lookup_miss rfl).1

end Question

/-! ## What is held after some questions -/

/-- A resolver for a directory that holds the successes among the questions put to it so far. -/
structure Recalls (directory : Path) (earlier : List Question) (r : Resolver) : Prop where
  directory : r.directory = directory
  found : ∀ table answer, List.lookup table r.found = some answer ↔
    ∃ q ∈ earlier, q.table = table ∧ q.answer = .ok answer

theorem Recalls.new (directory : Path) : Recalls directory [] { directory := directory } where
  directory := rfl
  found table answer := by simp

/-- One more question: what is held is again the successes so far. -/
theorem Recalls.question {directory : Path} {earlier : List Question} {s : Resolver × Workspace}
    (h : Recalls directory earlier s.1) (table : String) :
    Recalls directory (earlier ++ [question table s]) (question table s).after.1 where
  directory := question_directory.trans h.directory
  found name answer := by
    simp only [List.mem_append, List.mem_singleton, or_and_right, exists_or, exists_eq_left]
    rw [← h.found name answer]
    cases hl : List.lookup table s.1.found with
    | some held =>
      -- The name is held: nothing is added, and the answer is what was held.
      rw [(lookup_hit hl).2, (lookup_hit hl).1]
      refine ⟨Or.inl, ?_⟩
      rintro (hname | ⟨rfl, hanswer⟩)
      · exact hname
      · cases hanswer
        exact hl
    | none =>
      obtain ⟨hanswer, -, hafter⟩ := lookup_miss hl
      rw [hafter, hanswer]
      cases parentAt s.2 s.1.directory table with
      | error e =>
        refine ⟨Or.inl, ?_⟩
        rintro (hname | ⟨-, hfail⟩)
        · exact hname
        · cases hfail
      | ok new =>
        -- The new entry stands first, and there was none of its name.
        simp only [List.lookup_cons]
        by_cases heq : name = table
        · subst heq
          simp only [beq_self_eq_true, hl, reduceCtorEq, false_or]
          exact ⟨fun hnew => ⟨rfl, by cases hnew; rfl⟩, fun hnew => by cases hnew.2; rfl⟩
        · rw [beq_eq_false_iff_ne.mpr heq]
          exact ⟨Or.inl, fun hname => hname.resolve_right fun hnew => heq hnew.1.symm⟩

/-- Every question of a use was put to a resolver that holds the successes of the questions before. -/
theorem questions_recalls {directory : Path} {history : List Question} {s : Resolver × Workspace}
    {events : List Event} {earlier later : List Question} {q : Question}
    (hs : Recalls directory history s.1) (h : questions s events = earlier ++ q :: later) :
    q = question q.table q.before ∧ Recalls directory (history ++ earlier) q.before.1 := by
  induction events generalizing history s earlier with
  | nil => simp [questions] at h
  | cons event rest ih =>
    cases event with
    | change f => exact ih (s := (s.1, f s.2)) hs h
    | ask table =>
      cases earlier with
      | nil =>
        obtain ⟨rfl, -⟩ := List.cons_eq_cons.mp h
        rw [List.append_nil]
        exact ⟨rfl, hs⟩
      | cons first earlier =>
        obtain ⟨rfl, hrest⟩ := List.cons_eq_cons.mp h
        rw [List.append_cons]
        exact ih (hs.question table) hrest

/-! ## The answers -/

/-- What some questions to a resolver for a directory have in common. -/
structure Remembers (directory : Path) (asked : List Question) : Prop where
  /-- As long as a name had no success, a question for it answers what a new resolver would. -/
  fresh : ∀ earlier q later, asked = earlier ++ q :: later →
    (∀ p ∈ earlier, p.table = q.table → ∃ e, p.answer = .error e) →
    q.answer = answerNow directory q.before.2 q.table
  /-- A success is the answer to every later question for its name. -/
  kept : ∀ earlier q later, asked = earlier ++ q :: later →
    ∀ p ∈ earlier, p.table = q.table → ∀ answer, p.answer = .ok answer → q.answer = .ok answer
  /-- A failure leaves what is held as it was. -/
  failing : ∀ q ∈ asked, ∀ e, q.answer = .error e → q.after.1.found = q.before.1.found

theorem remembers_of_recalls {directory : Path} {asked : List Question}
    (h : ∀ earlier q later, asked = earlier ++ q :: later →
      q = question q.table q.before ∧ Recalls directory earlier q.before.1) :
    Remembers directory asked where
  fresh earlier q later hsplit hfailed := by
    obtain ⟨hq, hrecalls⟩ := h earlier q later hsplit
    have hmiss : List.lookup q.table q.before.1.found = none := by
      rw [Option.eq_none_iff_forall_ne_some]
      intro answer hanswer
      obtain ⟨p, hp, hname, hok⟩ := (hrecalls.found _ _).mp hanswer
      obtain ⟨e, he⟩ := hfailed p hp hname
      rw [hok] at he
      cases he
    rw [answerNow_eq, ← hrecalls.directory, hq]
    exact (lookup_miss hmiss).1
  kept earlier q later hsplit p hp hname answer hok := by
    obtain ⟨hq, hrecalls⟩ := h earlier q later hsplit
    rw [hq]
    exact (lookup_hit ((hrecalls.found _ _).mpr ⟨p, hp, hname, hok⟩)).1
  failing q hq e he := by
    obtain ⟨earlier, later, hsplit⟩ := List.append_of_mem hq
    have hquestion := (h earlier q later hsplit).1
    rw [hquestion] at he ⊢
    exact congrArg Resolver.found (lookup_error he)

/-! ## Files that stay as they are -/

/-- What the file of a name says depends on the files and the directory of relative paths alone. -/
theorem parentAt_congr {w w' : Workspace} (hfiles : w'.files = w.files)
    (hdirectory : w'.directory = w.directory) (directory : Path) (table : String) :
    parentAt w' directory table = parentAt w directory table := by
  simp only [parentAt, tableAt, textAt, hfiles, hdirectory]

theorem told_files_directory {w w' : Workspace} (h : Told w w') :
    w'.files = w.files ∧ w'.directory = w.directory := by
  obtain ⟨notes, rfl⟩ := h
  exact ⟨rfl, rfl⟩

/-- While nothing changes, a resolver that holds what the files say answers what they say. -/
theorem answers_still {w : Workspace} {directory : Path} {events : List Event} (hstill : Still events)
    {s : Resolver × Workspace} (hdirectory : s.1.directory = directory)
    (hfound : ∀ table answer, List.lookup table s.1.found = some answer →
      parentAt w directory table = .ok answer)
    (hw : s.2.files = w.files ∧ s.2.directory = w.directory) :
    (questions s events).map (·.answer) = (namesAsked events).map (parentAt w directory) := by
  induction events generalizing s with
  | nil => rfl
  | cons event rest ih =>
    have hrest : Still rest := fun f hf => hstill f (List.mem_cons_of_mem _ hf)
    cases event with
    | change f =>
      obtain ⟨hfiles, hdir⟩ := hstill f (List.mem_cons_self ..) s.2
      exact ih hrest (s := (s.1, f s.2)) hdirectory hfound ⟨hfiles.trans hw.1, hdir.trans hw.2⟩
    | ask table =>
      have hsame : parentAt s.2 s.1.directory table = parentAt w directory table := by
        rw [parentAt_congr hw.1 hw.2, hdirectory]
      have htold : Told s.2 (question table s).after.2 := question_told
      obtain ⟨htfiles, htdir⟩ := told_files_directory htold
      have hw' := And.intro (htfiles.trans hw.1) (htdir.trans hw.2)
      have hdirectory' : (question table s).after.1.directory = directory :=
        question_directory.trans hdirectory
      simp only [questions, namesAsked, List.map_cons]
      cases hl : List.lookup table s.1.found with
      | some answer =>
        obtain ⟨hanswer, hafter⟩ := lookup_hit hl
        rw [ih hrest hdirectory' (by rw [hafter]; exact hfound) hw', hanswer, hfound table answer hl]
      | none =>
        obtain ⟨hanswer, -, hafter⟩ := lookup_miss hl
        rw [hsame] at hanswer hafter
        have hfound' : ∀ name answer,
            List.lookup name (question table s).after.1.found = some answer →
              parentAt w directory name = .ok answer := by
          rw [hafter]
          cases hp : parentAt w directory table with
          | error e => exact hfound
          | ok answer => exact lookup_kept hp hfound
        rw [ih hrest hdirectory' hfound' hw', hanswer]

/-! ## Every use of a resolver -/

/-- Whatever happens to the files while a new resolver is used: the first success for a name is what a
resolver that keeps nothing answers at that moment, which is nothing without a regular file and otherwise
the table of the file; it stays the answer for that name; and a failure is not kept. While the files stay
as they are, every answer is what a resolver that keeps nothing answers. -/
theorem questions_remembers (directory : Path) (w : Workspace) (events : List Event) :
    Remembers directory (questions ({ directory := directory }, w) events) ∧
      (∀ w table, answerNow directory w table = parentAt w directory table) ∧
      (Still events → (questions ({ directory := directory }, w) events).map (·.answer) =
        (namesAsked events).map (answerNow directory w)) := by
  refine ⟨remembers_of_recalls fun earlier q later h => ?_, answerNow_eq directory, fun hstill => ?_⟩
  · exact questions_recalls (Recalls.new directory) h
  · rw [funext (answerNow_eq directory w)]
    exact answers_still hstill rfl (fun _ _ h => by cases h) ⟨rfl, rfl⟩

/-- A file of the directory `/p` written anew. -/
def written (name text : String) : Event :=
  .change fun w => { w with files := w.files.set ["p", name] (.file 0o644 text.toUTF8) }

-- A table without a file is not looked for again; one whose file cannot be parsed is.
set_option maxRecDepth 10000 in
example :
    (questions ({ directory := .ofLocation ["p"] }, { files := ⟨[(["p"], .directory)]⟩ })
      [.ask "o", written "o.sql" "CREATE TABLE o (id INT)", .ask "o",
        written "q.sql" "CREATE TABLE q ()", .ask "q", written "q.sql" "CREATE TABLE q (id INT)",
        .ask "q"]).map (·.answer.toOption) =
      [some none, some none, none,
        some (some { name := "q", columns := ["id"], sourceFile := some "/p/q.sql" })] := by
  decide +kernel

end Scaffold.Schema.Resolver
