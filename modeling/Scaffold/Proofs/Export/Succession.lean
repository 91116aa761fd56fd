import Mathlib.Algebra.GroupWithZero.Nat
import Mathlib.Data.List.Forall2
import Scaffold.Proofs.Export.Accounting

/-!
# One exporter, export after export

An exporter keeps what it did from one export to the next, also over an export that is stopped midway.
What it answers each time tells of everything since it was made.

* `Call`, `calls`: a use of one exporter, export by export, each on whatever workspace there is then.
* `turn_exporter`: a turn makes the entry of its artifact, or none if it is stopped.
* `Follows`: what an exporter holds after some more turns; every turn keeps it, and so does every call.
* `Telling`: what a result says of the files in its manifest.
* `calls_succeed`: so it is for every result of every use, and each result goes on where the earlier
  ones ended.
-/
namespace Scaffold.Export

open Files (Path)

variable {s : State} {x y z : Exporter} {a : Artifact} {as bs : List Artifact}

/-- One export of a use: the artifacts it was given, how it ended, and the exporter that it left. -/
structure Call where
  artifacts : List Artifact
  outcome : Except Fault Result
  after : Exporter

/-- An export of artifacts by a used exporter. -/
def call (x : Exporter) (as : List Artifact) (w : Workspace) : Call where
  artifacts := as
  outcome := ((exportAll as).run (x, w)).1
  after := ((exportAll as).run (x, w)).2.1

/-- The exports of a use, in order. Each has a workspace of its own: between two of them anything may have
happened to the files. -/
def calls (x : Exporter) : List (List Artifact × Workspace) → List Call
  | [] => []
  | (as, w) :: rest => call x as w :: calls (call x as w).after rest

/-- The artifacts of some exports. -/
def given (made : List Call) : List Artifact := made.flatMap (·.artifacts)

/-! ## What an exporter holds -/

/-- A turn makes the entry of its artifact, or none if it is stopped. -/
theorem turn_exporter (s : State) (a : Artifact) :
    (turn s a).1 = s.1 ∨ ∃ f, (turn s a).1 = s.1.entered a f := by
  unfold turn
  rcases exportOne_cases s a with ⟨-, hr⟩ | ⟨-, hr⟩ | ⟨-, -, hr⟩ | ⟨-, -, w', ⟨-, hr⟩ | ⟨failure, -, hr⟩⟩
  · exact Or.inl (by rw [hr])
  · obtain ⟨notes, hs⟩ := skip_run a s
    exact Or.inr ⟨.skipped, by rw [hr, hs]⟩
  · obtain ⟨notes, hs⟩ := accept_run a s
    exact Or.inr ⟨.created, by rw [hr, hs]⟩
  · obtain ⟨notes, hs⟩ := accept_run a (s.1, w')
    exact Or.inr ⟨.created, by rw [hr, hs]⟩
  · by_cases hn : failure.problem = .nullCharacter
    · exact Or.inl (by rw [hr, reject_of_null a _ hn])
    · obtain ⟨notes, hs⟩ := reject_run a (s.1, w') hn
      exact Or.inr ⟨.failed failure, by rw [hr, hs]⟩

/-- An exporter after some more turns, of which those that created a file had these artifacts. -/
structure Follows (as : List Artifact) (x y : Exporter) : Prop where
  root : y.root = x.root
  skipped : x.skipped <+: y.skipped
  errors : x.errors <+: y.errors
  written : ∃ written : List Artifact, written.Sublist as ∧
    y.created = x.created ++ written.map (·.relativePath) ∧
    y.records = x.records ++ written.map x.recordOf

theorem Follows.refl (x : Exporter) : Follows [] x x where
  root := rfl
  skipped := List.prefix_rfl
  errors := List.prefix_rfl
  written := ⟨[], List.Sublist.refl [], by simp, by simp⟩

theorem recordOf_of_root (h : y.root = x.root) : y.recordOf = x.recordOf := by
  funext a
  unfold Exporter.recordOf Exporter.target
  rw [h]

theorem Follows.trans (h : Follows as x y) (h' : Follows bs y z) : Follows (as ++ bs) x z where
  root := h'.root.trans h.root
  skipped := h.skipped.trans h'.skipped
  errors := h.errors.trans h'.errors
  written := by
    obtain ⟨first, hfirst, hcreated, hrecords⟩ := h.written
    obtain ⟨later, hlater, hcreated', hrecords'⟩ := h'.written
    refine ⟨first ++ later, hfirst.append hlater, ?_, ?_⟩
    · rw [hcreated', hcreated, List.map_append, List.append_assoc]
    · rw [hrecords', hrecords, recordOf_of_root h.root, List.map_append, List.append_assoc]

/-- A turn lengthens one of the lists, if any. -/
theorem follows_turn (s : State) (a : Artifact) : Follows [a] s.1 (turn s a).1 := by
  have hsame : Follows [a] s.1 s.1 :=
    ⟨rfl, List.prefix_rfl, List.prefix_rfl, [], List.nil_sublist [a], by simp, by simp⟩
  rcases turn_exporter s a with h | ⟨f, h⟩
  · rw [h]
    exact hsame
  · rw [h]
    cases f with
    | created =>
      exact ⟨rfl, List.prefix_rfl, List.prefix_rfl, [a], List.Sublist.refl [a], rfl, rfl⟩
    | skipped => exact { hsame with skipped := List.prefix_append _ _ }
    | failed failure => exact { hsame with errors := List.prefix_append _ _ }

theorem Follows.mono (h : Follows as x y) (hsub : as.Sublist bs) : Follows bs x y where
  root := h.root
  skipped := h.skipped
  errors := h.errors
  written := by
    obtain ⟨written, hwritten, hlists⟩ := h.written
    exact ⟨written, hwritten.trans hsub, hlists⟩

/-- So do the turns of an export, up to the one that stops it. -/
theorem follows_exported (s : State) (as : List Artifact) : Follows as s.1 (exported s as).1 := by
  induction as generalizing s with
  | nil => exact Follows.refl s.1
  | cons a rest ih =>
    rw [exported_cons]
    split
    · exact (follows_turn s a).trans (ih (turn s a))
    · exact (follows_turn s a).mono (List.Sublist.cons_cons a (List.nil_sublist rest))

/-- What a call returns is the result of the exporter it leaves. -/
theorem call_spec (x : Exporter) (as : List Artifact) (w : Workspace) :
    Follows as x (call x as w).after ∧
      ∀ r, (call x as w).outcome = .ok r → r = (call x as w).after.result := by
  have hturns := follows_exported (x, w) as
  unfold exported at hturns
  unfold call
  cases hrun : (Action.forEach as exportOne).run (x, w) with
  | mk outcome s' =>
    rw [hrun] at hturns
    cases outcome with
    | ok u =>
      obtain ⟨notes, hall⟩ := exportAll_of_ok hrun
      rw [hall]
      exact ⟨hturns, fun r hr => by cases hr; rfl⟩
    | error fault =>
      rw [exportAll_of_error hrun]
      exact ⟨hturns, fun r hr => by cases hr⟩

/-! ## What a result tells -/

/-- The record of an artifact below a root, with the size and the digest of its content as UTF-8. -/
structure Describes (root : Path) (f : FileRecord) (a : Artifact) : Prop where
  relativePath : f.relativePath = a.relativePath
  absolutePath : f.absolutePath = (root.join a.relativePath).text
  label : f.label = a.label
  bytes : f.bytes = a.content.toUTF8.size
  lines : f.lines = Text.countLines a.content
  digest : f.digest = Digest.sha256 a.content.toUTF8

/-- A result after some artifacts: it tells of those that were written, in their order, and its totals are
those of its files. -/
structure Telling (root : Path) (as : List Artifact) (r : Result) : Prop where
  success : r.success = true ↔ r.errors = []
  created : r.created = r.manifest.files.map (·.relativePath)
  described : ∃ written : List Artifact, written.Sublist as ∧
    List.Forall₂ (Describes root) r.manifest.files written
  totalFiles : r.manifest.totalFiles = r.manifest.files.length
  totalBytes : r.manifest.totalBytes = (r.manifest.files.map (·.bytes)).sum
  totalLines : r.manifest.totalLines = (r.manifest.files.map (·.lines)).sum

/-- A result that goes on where another one ended. -/
structure Continues (r r' : Result) : Prop where
  created : r.created <+: r'.created
  skipped : r.skipped <+: r'.skipped
  errors : r.errors <+: r'.errors
  files : r.manifest.files <+: r'.manifest.files

theorem describes_recordOf (x : Exporter) (a : Artifact) : Describes x.root (x.recordOf a) a := by
  constructor <;> dsimp only [Exporter.recordOf, Exporter.target, Text.Utf8.encode]

theorem total_eq_sum (f : FileRecord → Nat) (records : List FileRecord) :
    records.foldl (fun total r => total + f r) 0 = (records.map f).sum := by
  rw [List.sum_eq_foldl, List.foldl_map]

theorem Follows.telling (hnew : x.created = [] ∧ x.records = []) (h : Follows as x y) :
    Telling x.root as y.result where
  success := List.isEmpty_iff
  created := by
    obtain ⟨written, -, hcreated, hrecords⟩ := h.written
    change y.created = y.records.map _
    rw [hcreated, hrecords, hnew.1, hnew.2, List.nil_append, List.nil_append, List.map_map]
    rfl
  described := by
    obtain ⟨written, hwritten, -, hrecords⟩ := h.written
    refine ⟨written, hwritten, ?_⟩
    change List.Forall₂ _ y.records written
    rw [hrecords, hnew.2, List.nil_append, List.forall₂_map_left_iff, List.forall₂_same]
    exact fun a _ => describes_recordOf x a
  totalFiles := rfl
  totalBytes := total_eq_sum (·.bytes) y.records
  totalLines := total_eq_sum (·.lines) y.records

theorem Follows.continues (h : Follows as x y) : Continues x.result y.result := by
  obtain ⟨written, -, hcreated, hrecords⟩ := h.written
  exact ⟨⟨_, hcreated.symm⟩, h.skipped, h.errors, ⟨_, hrecords.symm⟩⟩

/-! ## A whole use -/

/-- Every exporter of a use follows the one it began with, and those of the calls before. -/
theorem calls_follow {uses : List (List Artifact × Workspace)} {earlier later : List Call} {c : Call}
    (h : calls x uses = earlier ++ c :: later) :
    Follows (given earlier ++ c.artifacts) x c.after ∧
      (∀ r, c.outcome = .ok r → r = c.after.result) ∧
      ∀ d ∈ earlier, (∀ r, d.outcome = .ok r → r = d.after.result) ∧
        ∃ between, Follows between d.after c.after := by
  induction uses generalizing x earlier with
  | nil => simp [calls] at h
  | cons use rest ih =>
    obtain ⟨as, w⟩ := use
    obtain ⟨hfollows, hresult⟩ := call_spec x as w
    cases earlier with
    | nil =>
      obtain ⟨rfl, -⟩ := List.cons_eq_cons.mp h
      exact ⟨hfollows, hresult, by simp⟩
    | cons first earlier =>
      -- The calls behind the first are a use of the exporter that the first one left.
      obtain ⟨rfl, hrest⟩ := List.cons_eq_cons.mp h
      obtain ⟨hthen, hlast, hbefore⟩ := ih hrest
      refine ⟨?_, hlast, List.forall_mem_cons.mpr ⟨⟨hresult, _, hthen⟩, hbefore⟩⟩
      have hwhole := hfollows.trans hthen
      rwa [← List.append_assoc] at hwhole

/-- The results of a use of a new exporter for a root. -/
structure Succession (root : Path) (made : List Call) : Prop where
  /-- Each tells of the artifacts given so far. -/
  telling : ∀ earlier c later r, made = earlier ++ c :: later → c.outcome = .ok r →
    Telling root (given earlier ++ c.artifacts) r
  /-- Each goes on where every earlier one ended. -/
  continuing : ∀ earlier c later r, made = earlier ++ c :: later → c.outcome = .ok r →
    ∀ d ∈ earlier, ∀ r', d.outcome = .ok r' → Continues r' r

/-- However a new exporter is used, whichever of its exports are stopped and whatever happens to the files in
between: every result tells of the files that were written so far, and goes on where the earlier ones
ended. -/
theorem calls_succeed (root : Path) (dryRun atomic : Bool)
    (uses : List (List Artifact × Workspace)) :
    Succession root (calls { root := root, dryRun := dryRun, atomic := atomic } uses) where
  telling earlier c later r hsplit hr := by
    obtain ⟨hfollows, hresult, -⟩ := calls_follow hsplit
    rw [hresult r hr]
    exact hfollows.telling ⟨rfl, rfl⟩
  continuing earlier c later r hsplit hr d hd r' hr' := by
    obtain ⟨-, hresult, hbefore⟩ := calls_follow hsplit
    obtain ⟨hearlier, between, hfollows⟩ := hbefore d hd
    rw [hresult r hr, hearlier r' hr']
    exact hfollows.continues

-- The second export is stopped by a null character, behind a file that it wrote.
example :
    (calls { root := .ofLocation [] }
      [([⟨"model", "a.php", "é\n", "A"⟩], {}),
        ([⟨"model", "b.php", "", "B"⟩, ⟨"model", "\x00", "", "Null"⟩], {}),
        ([⟨"model", "c.php", "c", "C"⟩], {})]).map
          (fun c => c.outcome.toOption.map fun r => (r.created, r.manifest.totalBytes)) =
      [some (["a.php"], 3), none, some (["a.php", "b.php", "c.php"], 4)] := by
  decide +kernel

end Scaffold.Export
