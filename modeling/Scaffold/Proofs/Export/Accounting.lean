import Scaffold.Proofs.Export.Turn

/-!
# Every artifact is accounted for

An export that returns has given every artifact its turn and entered it exactly once, in the order
of the artifacts, whatever became of those before it. An export does not return exactly where it
comes to an artifact whose turn stops it.

* `fates`, `Halts`: what the turns of an export make of its artifacts, and the exports that stop.
* `forEach_exportOne`: the run of an export that does not stop, turn by turn.
* `exportAll_returns_iff`: an export returns, with everything accounted for, unless it is stopped.
* `long_name_halts_export`: a name of 300 bytes does stop one, before the artifact behind it is
  looked at.
-/
namespace Scaffold.Export

open Files (Path Tree)

/-- The fates of artifacts whose turns follow each other. -/
def fates : State → List Artifact → List Fate
  | _, [] => []
  | s, a :: rest => fate s a :: fates (turn s a) rest

/-- An export that comes to a turn that stops it. -/
def Halts (s : State) (as : List Artifact) : Prop :=
  ∃ before a after, as = before ++ a :: after ∧ Stops (before.foldl turn s) a

theorem not_halts_nil (s : State) : ¬ Halts s [] := by
  rintro ⟨before, a, after, h, -⟩
  simp at h

/-- What is so at the turn of some artifact is so at the first turn or at one of the others. -/
theorem exists_turn_cons {P : State → Artifact → Prop} {s : State} {a : Artifact}
    {rest : List Artifact} :
    (∃ before b after, a :: rest = before ++ b :: after ∧ P (before.foldl turn s) b) ↔
      P s a ∨ ∃ before b after, rest = before ++ b :: after ∧ P (before.foldl turn (turn s a)) b := by
  constructor
  · rintro ⟨before, b, after, h, hb⟩
    cases before with
    | nil => cases h; exact Or.inl hb
    | cons c before =>
      cases h
      rw [List.foldl_cons] at hb
      exact Or.inr ⟨before, b, after, rfl, hb⟩
  · rintro (ha | ⟨before, b, after, rfl, hb⟩)
    · exact ⟨[], a, rest, rfl, ha⟩
    · exact ⟨a :: before, b, after, rfl, by rw [List.foldl_cons]; exact hb⟩

theorem halts_cons {s : State} {a : Artifact} {rest : List Artifact} :
    Halts s (a :: rest) ↔ Stops s a ∨ Halts (turn s a) rest := exists_turn_cons

theorem halts_retold {s : State} {journal : List Note} {as : List Artifact} :
    Halts (retold s journal) as ↔ Halts s as := by
  induction as generalizing s journal with
  | nil => exact iff_of_false (not_halts_nil _) (not_halts_nil s)
  | cons a rest ih =>
    obtain ⟨journal', h⟩ := turn_retold s journal a
    rw [halts_cons, halts_cons, stops_retold, h, ih]

theorem fates_retold (s : State) (journal : List Note) (as : List Artifact) :
    fates (retold s journal) as = fates s as := by
  induction as generalizing s journal with
  | nil => rfl
  | cons a rest ih =>
    obtain ⟨journal', h⟩ := turn_retold s journal a
    rw [fates, fates, fate_retold, h, ih]

theorem length_fates (s : State) (as : List Artifact) : (fates s as).length = as.length := by
  induction as generalizing s with
  | nil => rfl
  | cons a rest ih => rw [fates, List.length_cons, List.length_cons, ih]

/-! ## The entries -/

/-- What an artifact adds to the list of created files. -/
def createdEntry : Artifact × Fate → Option String
  | (a, .created) => some a.relativePath
  | _ => none

/-- What an artifact adds to the list of skipped files. -/
def skippedEntry : Artifact × Fate → Option String
  | (a, .skipped) => some a.relativePath
  | _ => none

/-- What an artifact adds to the list of errors. -/
def errorEntry : Artifact × Fate → Option String
  | (a, .failed failure) => some (writeError a failure)
  | _ => none

/-- The exporter after some turns. -/
def Exporter.enteredAll (x : Exporter) (entries : List (Artifact × Fate)) : Exporter :=
  entries.foldl (fun x entry => x.entered entry.1 entry.2) x

/-- A list of the exporter that every turn lengthens by the entry it has for it holds, after some
turns, these entries in the order of the turns. -/
theorem enteredAll_list (field : Exporter → List String) (entry : Artifact × Fate → Option String)
    (h : ∀ x a f, field (x.entered a f) = field x ++ (entry (a, f)).toList) (x : Exporter)
    (entries : List (Artifact × Fate)) :
    field (x.enteredAll entries) = field x ++ entries.filterMap entry := by
  unfold Exporter.enteredAll
  induction entries generalizing x with
  | nil => simp
  | cons e rest ih =>
    rw [List.foldl_cons, ih, h, List.append_assoc]
    cases he : entry e with
    | none => rw [List.filterMap_cons_none he]; rfl
    | some text => rw [List.filterMap_cons_some he]; rfl

theorem enteredAll_created (x : Exporter) (entries : List (Artifact × Fate)) :
    (x.enteredAll entries).created = x.created ++ entries.filterMap createdEntry :=
  enteredAll_list (·.created) createdEntry
    (fun x a f => by cases f <;> simp [Exporter.entered, createdEntry]) x entries

theorem enteredAll_skipped (x : Exporter) (entries : List (Artifact × Fate)) :
    (x.enteredAll entries).skipped = x.skipped ++ entries.filterMap skippedEntry :=
  enteredAll_list (·.skipped) skippedEntry
    (fun x a f => by cases f <;> simp [Exporter.entered, skippedEntry]) x entries

theorem enteredAll_errors (x : Exporter) (entries : List (Artifact × Fate)) :
    (x.enteredAll entries).errors = x.errors ++ entries.filterMap errorEntry :=
  enteredAll_list (·.errors) errorEntry
    (fun x a f => by cases f <;> simp [Exporter.entered, errorEntry]) x entries

/-- Every turn makes an entry in one of the three lists and in no other. -/
theorem length_entries (entries : List (Artifact × Fate)) :
    (entries.filterMap createdEntry).length + (entries.filterMap skippedEntry).length +
      (entries.filterMap errorEntry).length = entries.length := by
  induction entries with
  | nil => rfl
  | cons e rest ih =>
    obtain ⟨a, f⟩ := e
    cases f <;> simp [List.filterMap_cons, createdEntry, skippedEntry, errorEntry] <;> omega

/-- The result of an export by an exporter, said of what became of every artifact. -/
structure Accounted (x : Exporter) (as : List Artifact) (fs : List Fate) (r : Result) : Prop where
  each : fs.length = as.length
  created : r.created = x.created ++ (as.zip fs).filterMap createdEntry
  skipped : r.skipped = x.skipped ++ (as.zip fs).filterMap skippedEntry
  errors : r.errors = x.errors ++ (as.zip fs).filterMap errorEntry
  once : r.created.length + r.skipped.length + r.errors.length =
    x.created.length + x.skipped.length + x.errors.length + as.length

theorem accounted_enteredAll {x : Exporter} {as : List Artifact} {fs : List Fate}
    (h : fs.length = as.length) : Accounted x as fs (x.enteredAll (as.zip fs)).result where
  each := h
  created := enteredAll_created x (as.zip fs)
  skipped := enteredAll_skipped x (as.zip fs)
  errors := enteredAll_errors x (as.zip fs)
  once := by
    have hlength := length_entries (as.zip fs)
    rw [List.length_zip, h, Nat.min_self] at hlength
    unfold Exporter.result
    rw [enteredAll_created, enteredAll_skipped, enteredAll_errors, List.length_append,
      List.length_append, List.length_append]
    omega

/-! ## The run -/

/-- An export that does not stop gives every artifact its turn. -/
theorem forEach_exportOne {s : State} {as : List Artifact} (h : ¬ Halts s as) :
    (Action.forEach as exportOne).run s = (.ok (), as.foldl turn s) := by
  induction as generalizing s with
  | nil => rfl
  | cons a rest ih =>
    rw [halts_cons, not_or] at h
    obtain ⟨w', hr⟩ := exportOne_run h.1
    have hturn : turn s a = (s.1.entered a (fate s a), w') := by rw [turn, hr]
    rw [Action.run_forEach_cons, Action.run_bind_ok hr, List.foldl_cons, ← hturn]
    exact ih h.2

/-- The turns of an export that does not stop enter their fates. -/
theorem foldl_turn {s : State} {as : List Artifact} (h : ¬ Halts s as) :
    (as.foldl turn s).1 = s.1.enteredAll (as.zip (fates s as)) := by
  induction as generalizing s with
  | nil => rfl
  | cons a rest ih =>
    rw [halts_cons, not_or] at h
    obtain ⟨w', hr⟩ := exportOne_run h.1
    have hturn : (turn s a).1 = s.1.entered a (fate s a) := by rw [turn, hr]
    unfold Exporter.enteredAll at ih ⊢
    rw [List.foldl_cons, ih h.2, hturn, fates, List.zip_cons_cons, List.foldl_cons]

/-- The exporter that they leave accounts for every artifact. -/
theorem accounted_turns {s : State} {as : List Artifact} (h : ¬ Halts s as) :
    Accounted s.1 as (fates s as) (as.foldl turn s).1.result := by
  rw [foldl_turn h]
  exact accounted_enteredAll (length_fates s as)

theorem forEach_of_halts {s : State} {as : List Artifact} (h : Halts s as) :
    ∃ fault s', (Action.forEach as exportOne).run s = (.error fault, s') := by
  induction as generalizing s with
  | nil => exact absurd h (not_halts_nil s)
  | cons a rest ih =>
    rw [Action.run_forEach_cons]
    cases hr : (exportOne a).run s with
    | mk outcome s' =>
      cases outcome with
      | error fault => exact ⟨fault, s', Action.run_bind_error hr⟩
      | ok u =>
        rw [Action.run_bind_ok hr]
        rcases halts_cons.mp h with ha | hrest
        · obtain ⟨failure, s'', hr'⟩ := exportOne_of_stops ha
          rw [hr'] at hr; cases hr
        · have hturn : turn s a = s' := by rw [turn, hr]
          rw [hturn] at hrest
          exact ih hrest

/-- The state that the turns of an export leave, whether it is stopped or not. -/
def exported (s : State) (as : List Artifact) : State := ((Action.forEach as exportOne).run s).2

theorem exported_cons (s : State) (a : Artifact) (rest : List Artifact) :
    exported s (a :: rest) =
      if ((exportOne a).run s).1.isOk then exported (turn s a) rest else turn s a := by
  unfold exported turn
  rw [Action.run_forEach_cons]
  cases hr : (exportOne a).run s with
  | mk outcome s' =>
    cases outcome with
    | ok u => rw [Action.run_bind_ok hr, if_pos (by rfl)]
    | error fault => rw [Action.run_bind_error hr, if_neg (by exact Bool.false_ne_true)]

theorem exported_retold (s : State) (journal : List Note) (as : List Artifact) :
    ∃ journal', exported (retold s journal) as = retold (exported s as) journal' := by
  induction as generalizing s journal with
  | nil => exact ⟨journal, rfl⟩
  | cons a rest ih =>
    obtain ⟨journal', h⟩ := turn_retold s journal a
    rw [exported_cons, exported_cons, outcome_retold, h]
    split
    · exact ih (turn s a) journal'
    · exact ⟨journal', rfl⟩

theorem tellResult_run (r : Result) (s : State) :
    ∃ notes, (tellResult r).run s = (.ok (), (s.1, s.2.told notes)) := by
  unfold tellResult
  split <;> exact ⟨_, tell_run _ _ _ _⟩

/-- The end of an export tells of it and changes nothing else. -/
theorem exportAll_of_ok {s s' : State} {as : List Artifact}
    (h : (Action.forEach as exportOne).run s = (.ok (), s')) :
    ∃ notes, (exportAll as).run s = (.ok s'.1.result, (s'.1, s'.2.told notes)) := by
  obtain ⟨x, w⟩ := s'
  obtain ⟨notes, hn⟩ := tellResult_run x.result (x, w.told [timeNote "export"])
  unfold exportAll
  rw [Action.run_bind_ok (timed_run h), Action.run_bind_ok (Action.run_get _)]
  refine ⟨[timeNote "export"] ++ notes, ?_⟩
  change (tellResult x.result >>= fun _ => pure x.result).run (x, w.told [timeNote "export"]) = _
  rw [Action.run_bind_ok hn, Action.run_pure, Workspace.told_told]

theorem exportAll_of_error {s s' : State} {as : List Artifact} {fault : Fault}
    (h : (Action.forEach as exportOne).run s = (.error fault, s')) :
    (exportAll as).run s = (.error fault, (s'.1, s'.2.told [timeNote "export"])) := by
  unfold exportAll
  rw [Action.run_bind_error (timed_run h)]
  rfl

theorem exportAll_returns {s : State} {as : List Artifact} (h : ¬ Halts s as) :
    ∃ r notes, (exportAll as).run s = (.ok r, ((exported s as).1, (exported s as).2.told notes)) ∧
      Accounted s.1 as (fates s as) r := by
  have hrun := forEach_exportOne h
  have hend : exported s as = as.foldl turn s := by rw [exported, hrun]
  obtain ⟨notes, hr⟩ := exportAll_of_ok hrun
  rw [hend]
  exact ⟨_, notes, hr, accounted_turns h⟩

theorem exportAll_halts {s : State} {as : List Artifact} (h : Halts s as) :
    ∃ fault notes, (exportAll as).run s =
      (.error fault, ((exported s as).1, (exported s as).2.told notes)) := by
  obtain ⟨fault, s', hs⟩ := forEach_of_halts h
  have hend : exported s as = s' := by rw [exported, hs]
  rw [hend]
  exact ⟨fault, _, exportAll_of_error hs⟩

/-- An export returns, with every artifact accounted for, unless it comes to a turn that stops it. -/
theorem exportAll_returns_iff (s : State) (as : List Artifact) :
    (∃ r s', (exportAll as).run s = (.ok r, s') ∧ Accounted s.1 as (fates s as) r) ↔
      ¬ Halts s as := by
  constructor
  · rintro ⟨r, s', hr, -⟩ h
    obtain ⟨fault, notes, hs⟩ := exportAll_halts h
    rw [hs] at hr
    cases hr
  · intro h
    obtain ⟨r, notes, hr, haccounted⟩ := exportAll_returns h
    exact ⟨r, _, hr, haccounted⟩

/-! ## A name that is too long -/

/-- An export whose next artifact has a path that is too long ends there and changes no file. -/
theorem exportAll_of_tooLong {s : State} {a : Artifact} (rest : List Artifact)
    (h : s.2.files.TooLong s.2.directory (s.1.target a)) :
    (exportAll (a :: rest)).run s = (.error (.file ⟨.nameTooLong, (s.1.target a).text, none⟩),
      (s.1, s.2.told [timeNote "export"])) := by
  have hone : (exportOne a).run s =
      (.error (.file ⟨.nameTooLong, (s.1.target a).text, none⟩), s) := by
    rcases exportOne_cases s a with ⟨-, hr⟩ | ⟨he, -⟩ | ⟨he, -⟩ | ⟨he, -⟩
    · exact hr
    all_goals
      rw [Tree.exists?, Tree.leadsTo_eq_error (fun _ => true) h] at he
      cases he
  apply exportAll_of_error
  rw [Action.run_forEach_cons, Action.run_bind_error hone]

/-- A name of 300 bytes. -/
def longName : List Char := List.replicate 300 'a'

/-- A file with a long name. -/
def longArtifact : Artifact := ⟨"model", String.ofList longName, "", "Long"⟩

/-- A file with a short name. -/
def shortArtifact : Artifact := ⟨"model", "b.php", "", "Short"⟩

/-- An exporter for the root of an empty file system. -/
def emptyRoot : State := ({ root := .ofLocation [] }, {})

theorem longName_tooLong :
    emptyRoot.2.files.TooLong [] (emptyRoot.1.target longArtifact) := by
  have htarget : emptyRoot.1.target longArtifact = .ofLocation [String.ofList longName] := by
    unfold Exporter.target Path.join Path.ofString longArtifact
    rw [String.toList_ofList]
    decide +kernel
  have hnull : (Path.ofLocation [String.ofList longName]).hasNull = false := by
    simp only [Path.hasNull, Path.ofLocation, List.any_cons, String.toList_ofList]
    decide +kernel
  rw [htarget]
  exact ⟨hnull, Or.inr ⟨[], _, [], [], rfl, rfl, rfl, by decide +kernel, by decide +kernel⟩⟩

/-- The export ends with a fault at the long name; the file with the short name is not written. -/
theorem long_name_halts_export :
    (¬ ∃ r s', (exportAll [longArtifact, shortArtifact]).run emptyRoot = (.ok r, s')) ∧
      ((exportAll [longArtifact, shortArtifact]).run emptyRoot).2.2.files.lookup ["b.php"] =
        none := by
  rw [exportAll_of_tooLong _ longName_tooLong]
  constructor
  · rintro ⟨r, s', h⟩
    cases h
  · rfl

end Scaffold.Export
