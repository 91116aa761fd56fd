import Scaffold.Proofs.Export.Accounting
import Scaffold.Proofs.Files.Shape

/-!
# What an export leaves of the files before it

A turn looks its path up, makes the directories above it, and writes. A path that leads nowhere at
first can lead to a file once the directories are made, and then that file is replaced.

* `written?`, `writes`: the places that a turn and an export write to.
* `fileAt_turn`: the file at a place after a turn.
* `lookup_turn`, `lookup_export`: what a file that is there before has become afterwards: the last
  artifact written to its place, or itself.
* `keeps_iff`: an export keeps all files exactly if the last artifact written to the place of a
  file, if any, says the same as the file.
* `dots_of_overwriting`: where everything stands in a directory, the path of an artifact that is
  written over a file goes up by `..`.
-/
namespace Scaffold.Export

open Files (Path Tree Location Node)

/-! ## What a write changes -/

/-- The mode of the file that a write leaves at the place of a file. -/
def Exporter.modeOver (x : Exporter) (umask mode : Nat) : Nat :=
  if x.atomic then Tree.newFileMode umask else mode

/-- The mode of the file that a write leaves, over what stands at its place. -/
def writtenMode (atomic : Bool) (umask : Nat) (found : Option Node) : Nat :=
  if atomic then Tree.newFileMode umask else Tree.keptMode umask found

/-- A write sets the place of its path, and that place alone. -/
theorem writeAt_ok {atomic : Bool} {w w' : Workspace} {p : Path} {content : ByteArray}
    (h : writeAt atomic w p content = (.ok (), w')) :
    (∃ l name, w.files.parentAndName w.directory p = .ok (l, some name)) ∧
      w.files.lookup (p.place w.directory) ≠ some .directory ∧
      w' = { w with
        files := w.files.set (p.place w.directory)
          (.file (writtenMode atomic w.umask (w.files.lookup (p.place w.directory))) content) } := by
  unfold writeAt at h
  cases atomic with
  | true =>
    simp only [if_true] at h
    cases hr : Files.Process.replace ⟨w.files, w.umask⟩ w.directory (w.draws p) p content with
    | mk outcome s =>
      rw [hr] at h
      cases h
      obtain ⟨hp, hd, rfl⟩ := Files.Process.replace_ok hr
      exact ⟨hp, hd, rfl⟩
  | false =>
    simp only [Bool.false_eq_true, if_false] at h
    split at h
    · cases h
    · rename_i t ht
      cases h
      obtain ⟨hp, hd, rfl⟩ := Tree.write_ok ht
      exact ⟨hp, hd, rfl⟩

/-- A write that fails has changed nothing. -/
theorem writeAt_error {atomic : Bool} {w w' : Workspace} {p : Path} {content : ByteArray}
    {failure : Files.Failure} (hn : p.parent.hasNull = false)
    (h : writeAt atomic w p content = (.error failure, w')) : w' = w := by
  unfold writeAt at h
  cases atomic with
  | true =>
    simp only [if_true] at h
    cases hr : Files.Process.replace ⟨w.files, w.umask⟩ w.directory (w.draws p) p content with
    | mk outcome s =>
      rw [hr] at h
      cases h
      rw [Files.Process.replace_error hn hr]
  | false =>
    simp only [Bool.false_eq_true, if_false] at h
    split at h
    · cases h; rfl
    · cases h

/-- A write that is tried comes after directories that have been made; if it fails, they are all that
has changed. -/
theorem writeArtifact_cases (x : Exporter) (w : Workspace) (a : Artifact) :
    ∃ t, Tree.Grows w.files t ∧ (w.files.WellFormed → t.WellFormed) ∧
      ((∃ failure, writeArtifact x w a = (.error failure, { w with files := t })) ∨
        ∃ w', writeAt x.atomic { w with files := t } (x.target a) (Text.Utf8.encode a.content) =
            (.ok (), w') ∧
          writeArtifact x w a = (.ok (), w')) := by
  have hgrows := Tree.makeDirectories_grows w.files w.directory (x.target a).parent
  have hshape := @Tree.makeDirectories_wellFormed w.files w.directory (x.target a).parent
  have hnull := @Tree.makeDirectories_of_null w.files w.directory (x.target a).parent
  cases hm : w.files.makeDirectories w.directory (x.target a).parent with
  | mk made t =>
    rw [hm] at hgrows hshape hnull
    refine ⟨t, hgrows, hshape, ?_⟩
    cases made with
    | error failure => exact Or.inl ⟨failure, writeArtifact_of_failed hm⟩
    | ok u =>
      rw [writeArtifact_of_made hm]
      have hn : (x.target a).parent.hasNull = false := by
        cases hn : (x.target a).parent.hasNull with
        | false => rfl
        | true => obtain ⟨failure, hf, -⟩ := hnull hn; cases hf
      cases hw : writeAt x.atomic { w with files := t } (x.target a)
          (Text.Utf8.encode a.content) with
      | mk outcome w' =>
        cases outcome with
        | error failure => rw [writeAt_error hn hw]; exact Or.inl ⟨failure, rfl⟩
        | ok u => exact Or.inr ⟨w', rfl, rfl⟩

/-! ## What a turn changes -/

/-- The place that a turn writes to, if it writes. -/
def written? (s : State) (a : Artifact) : Option Location :=
  if s.1.dryRun = false ∧ fate s a = .created then some ((s.1.target a).place s.2.directory)
  else none

/-- What no turn changes: where an exporter writes, and how. -/
structure SameSetting (s s' : State) : Prop where
  root : s'.1.root = s.1.root
  atomic : s'.1.atomic = s.1.atomic
  dryRun : s'.1.dryRun = s.1.dryRun
  umask : s'.2.umask = s.2.umask
  directory : s'.2.directory = s.2.directory

theorem SameSetting.target {s s' : State} (h : SameSetting s s') (a : Artifact) :
    s'.1.target a = s.1.target a := by
  unfold Exporter.target
  rw [h.root]

theorem sameSetting_entered (x : Exporter) (w : Workspace) (a : Artifact) (f : Fate) (t : Tree)
    (notes : List Note) :
    SameSetting (x, w) (x.entered a f, ({ w with files := t }).told notes) := by
  cases f <;> exact ⟨rfl, rfl, rfl, rfl, rfl⟩

/-- A turn that writes: its path led nowhere, directories were made, and the place of the path was set,
which was no place of a directory. -/
structure Writing (s : State) (a : Artifact) (made after : Tree) : Prop where
  missing : s.2.files.exists? s.2.directory (s.1.target a) = .ok false
  grows : Tree.Grows s.2.files made
  shape : s.2.files.WellFormed → made.WellFormed
  named : ∃ l name, made.parentAndName s.2.directory (s.1.target a) = .ok (l, some name)
  notDirectory : made.lookup ((s.1.target a).place s.2.directory) ≠ some .directory
  set : after = made.set ((s.1.target a).place s.2.directory)
    (.file (writtenMode s.1.atomic s.2.umask (made.lookup ((s.1.target a).place s.2.directory)))
      (Text.Utf8.encode a.content))

theorem Writing.ne_root {s : State} {a : Artifact} {made after : Tree}
    (h : Writing s a made after) : (s.1.target a).place s.2.directory ≠ [] := by
  obtain ⟨l, name, hp⟩ := h.named
  rw [← Tree.place_of_parentAndName hp]
  simp

/-- A turn makes some directories, or it writes one file after it has made them. -/
theorem turn_cases (s : State) (a : Artifact) :
    SameSetting s (turn s a) ∧
    ((written? s a = none ∧ Tree.Grows s.2.files (turn s a).2.files ∧
      (s.2.files.WellFormed → (turn s a).2.files.WellFormed)) ∨
    (written? s a = some ((s.1.target a).place s.2.directory) ∧
      ∃ made, Writing s a made (turn s a).2.files)) := by
  obtain ⟨x, w⟩ := s
  unfold turn written?
  rcases exportOne_cases (x, w) a with ⟨hlong, hr⟩ | ⟨he, hr⟩ | ⟨he, hdry, hr⟩ | ⟨he, hdry, w', hw⟩
  · have hfate : fate (x, w) a = .skipped := by
      unfold fate
      rw [Tree.exists?, Tree.leadsTo_eq_error (fun _ => true) hlong]
    rw [hr, hfate]
    exact ⟨⟨rfl, rfl, rfl, rfl, rfl⟩, Or.inl ⟨if_neg (by simp), Tree.Grows.refl _, id⟩⟩
  · obtain ⟨notes, hs⟩ := skip_run a (x, w)
    rw [hr, hs, fate_of_present he]
    exact ⟨sameSetting_entered x w a .skipped w.files notes,
      Or.inl ⟨if_neg (by simp), Tree.Grows.refl _, id⟩⟩
  · obtain ⟨notes, hs⟩ := accept_run a (x, w)
    rw [hr, hs, hdry]
    exact ⟨sameSetting_entered x w a .created w.files notes,
      Or.inl ⟨if_neg (by simp), Tree.Grows.refl _, id⟩⟩
  · obtain ⟨made, hgrows, hshape, ⟨failure, hwrite⟩ | ⟨w'', hwrite, hok⟩⟩ :=
      writeArtifact_cases x w a
    · rcases hw with ⟨hw, -⟩ | ⟨failure', hw, hr⟩
      · rw [hwrite] at hw; cases hw
      · rw [hwrite] at hw
        cases hw
        have hfate : fate (x, w) a = .failed failure := by rw [fate_of_write he hdry, hwrite]
        rw [hr, hfate]
        unfold reject
        split
        · exact ⟨⟨rfl, rfl, rfl, rfl, rfl⟩, Or.inl ⟨if_neg (by simp), hgrows, hshape⟩⟩
        · exact ⟨⟨rfl, rfl, rfl, rfl, rfl⟩, Or.inl ⟨if_neg (by simp), hgrows, hshape⟩⟩
    · rcases hw with ⟨hw, hr⟩ | ⟨failure, hw, -⟩
      · rw [hok] at hw
        cases hw
        obtain ⟨notes, hs⟩ := accept_run a (x, w')
        have hfate : fate (x, w) a = .created := by rw [fate_of_write he hdry, hok]
        obtain ⟨hnamed, hnot, rfl⟩ := writeAt_ok hwrite
        rw [hr, hs, hfate]
        exact ⟨sameSetting_entered x w a .created _ notes,
          Or.inr ⟨if_pos ⟨hdry, rfl⟩, made, he, hgrows, hshape, hnamed, hnot, rfl⟩⟩
      · rw [hok] at hw; cases hw

/-- The mode of the file that a write leaves over what was there before directories were made. -/
theorem Writing.mode_eq {s : State} {a : Artifact} {made after : Tree} (h : Writing s a made after) :
    writtenMode s.1.atomic s.2.umask (made.lookup ((s.1.target a).place s.2.directory)) =
      s.1.modeOver s.2.umask (((s.2.files.fileAt? ((s.1.target a).place s.2.directory)).map
        Prod.fst).getD (Tree.newFileMode s.2.umask)) := by
  rw [← h.grows.fileAt? _]
  unfold writtenMode Exporter.modeOver Tree.fileAt? Tree.keptMode
  split
  · rfl
  · split <;> rfl

/-- The file at a place after a turn: the one that the turn wrote there, or the one before. -/
theorem fileAt_turn (s : State) (a : Artifact) (l : Location) :
    (turn s a).2.files.fileAt? l =
      if written? s a = some l then
        some (s.1.modeOver s.2.umask
          (((s.2.files.fileAt? l).map Prod.fst).getD (Tree.newFileMode s.2.umask)),
          Text.Utf8.encode a.content)
      else s.2.files.fileAt? l := by
  obtain ⟨-, ⟨hn, hgrows, -⟩ | ⟨hplace, made, hwriting⟩⟩ := turn_cases s a
  · rw [hn, if_neg (by simp), hgrows.fileAt?]
  · rw [hplace, hwriting.set, Tree.fileAt?_set_file _ _ _ hwriting.ne_root, hwriting.mode_eq,
      hwriting.grows.fileAt?]
    by_cases heq : (s.1.target a).place s.2.directory = l
    · subst heq; rw [if_pos rfl, if_pos rfl]
    · rw [if_neg (Ne.symm heq), if_neg (by simpa using heq)]

/-- What a file has become after a turn. -/
theorem lookup_turn {s : State} {l : Location} {mode : Nat} {content : ByteArray}
    (h : s.2.files.lookup l = some (.file mode content)) (a : Artifact) :
    (turn s a).2.files.lookup l =
      if written? s a = some l then
        some (.file (s.1.modeOver s.2.umask mode) (Text.Utf8.encode a.content))
      else some (.file mode content) := by
  have hturn := fileAt_turn s a l
  rw [Tree.fileAt?_eq_some_iff.mpr h] at hturn
  split at hturn
  · rename_i hw
    rw [if_pos hw]
    exact Tree.fileAt?_eq_some_iff.mp hturn
  · rename_i hw
    rw [if_neg hw]
    exact Tree.fileAt?_eq_some_iff.mp hturn

theorem turn_wellFormed {s : State} (h : s.2.files.WellFormed) (a : Artifact) :
    (turn s a).2.files.WellFormed := by
  obtain ⟨-, ⟨-, -, hshape⟩ | ⟨-, made, hwriting⟩⟩ := turn_cases s a
  · exact hshape h
  · rw [hwriting.set]
    exact (hwriting.shape h).set_place hwriting.named hwriting.notDirectory

/-- The path of an artifact that is written over a file goes up by `..`. -/
theorem dots_of_written {s : State} {a : Artifact} {l : Location} {mode : Nat}
    {content : ByteArray} (hshape : s.2.files.WellFormed) (habs : s.1.root.isAbsolute = true)
    (hw : written? s a = some l) (hl : s.2.files.lookup l = some (.file mode content)) :
    ".." ∈ (s.1.target a).names := by
  obtain ⟨-, ⟨hn, -⟩ | ⟨hplace, made, hwriting⟩⟩ := turn_cases s a
  · rw [hn] at hw; cases hw
  · rw [hplace] at hw
    cases hw
    have htarget : (s.1.target a).isAbsolute = true := by
      unfold Exporter.target Path.join Path.append
      split
      · rename_i h; exact h
      · exact habs
    obtain ⟨_, _, hnamed⟩ := hwriting.named
    have hn := (Tree.checkPath_ok (Tree.parentAndName_checked hnamed)).1
    exact Tree.dots_of_hidden_file hshape htarget hn hwriting.missing hl

/-! ## What an export changes -/

/-- The places that an export writes to, with what it writes there, up to a turn that stops it. -/
def writes : State → List Artifact → List (Location × Artifact)
  | _, [] => []
  | s, a :: rest =>
    ((written? s a).map fun l => (l, a)).toList ++
      if ((exportOne a).run s).1.isOk then writes (turn s a) rest else []

/-- An export writes an artifact of its list to the place that its path names. -/
theorem mem_writes {s : State} {as : List Artifact} {l : Location} {a : Artifact}
    (h : (l, a) ∈ writes s as) :
    a ∈ as ∧ l = (s.1.target a).place s.2.directory := by
  induction as generalizing s with
  | nil => cases h
  | cons b rest ih =>
    rw [writes, List.mem_append] at h
    rcases h with h | h
    · unfold written? at h
      split at h
      · obtain ⟨rfl, rfl⟩ : l = (s.1.target b).place s.2.directory ∧ a = b := by simpa using h
        exact ⟨List.mem_cons_self, rfl⟩
      · cases h
    · split at h
      · obtain ⟨hset, -⟩ := turn_cases s b
        obtain ⟨hmem, hl⟩ := ih h
        refine ⟨List.mem_cons_of_mem _ hmem, ?_⟩
        rw [hl, hset.directory, hset.target]
      · cases h

/-- The last artifact that an export writes to a place. -/
def lastWritten (s : State) (as : List Artifact) (l : Location) : Option Artifact :=
  List.lookup l (writes s as).reverse

/-- What a file has become, given the last artifact that was written to its place. -/
def Exporter.nodeOver (x : Exporter) (umask mode : Nat) (content : ByteArray) :
    Option Artifact → Node
  | none => .file mode content
  | some a => .file (x.modeOver umask mode) (Text.Utf8.encode a.content)

theorem lastWritten_cons (s : State) (a : Artifact) (rest : List Artifact) (l : Location) :
    lastWritten s (a :: rest) l =
      (if ((exportOne a).run s).1.isOk then lastWritten (turn s a) rest l else none).or
        (if written? s a = some l then some a else none) := by
  have hhead : List.lookup l ((written? s a).map fun l => (l, a)).toList.reverse =
      if written? s a = some l then some a else none := by
    cases written? s a with
    | none => rfl
    | some q =>
      by_cases heq : q = l
      · subst heq; simp
      · simp [List.lookup_cons, beq_false_of_ne (Ne.symm heq), heq]
  unfold lastWritten
  rw [writes, List.reverse_append, List.lookup_append, hhead]
  split <;> rfl

/-- What a file that is there before an export has become after it. -/
theorem lookup_export {s : State} {as : List Artifact} {l : Location} {mode : Nat}
    {content : ByteArray} (h : s.2.files.lookup l = some (.file mode content)) :
    (exported s as).2.files.lookup l =
      some (s.1.nodeOver s.2.umask mode content (lastWritten s as l)) := by
  -- A file stays a file, so the bytes and the mode that a turn leaves are what the next one finds.
  induction as generalizing s mode content with
  | nil => exact h
  | cons a rest ih =>
    have hturn := lookup_turn h a
    obtain ⟨hset, -⟩ := turn_cases s a
    rw [exported_cons, lastWritten_cons]
    cases hok : ((exportOne a).run s).1.isOk with
    | false =>
      simp only [Bool.false_eq_true, if_false, Option.none_or]
      rw [hturn]
      split <;> rfl
    | true =>
      simp only [if_true]
      split at hturn
      · rename_i hw
        rw [ih hturn, if_pos hw]
        cases lastWritten (turn s a) rest l with
        | none => rfl
        | some b =>
          simp only [Exporter.nodeOver, Exporter.modeOver, Option.some_or, hset.atomic, hset.umask]
          cases s.1.atomic <;> rfl
      · rename_i hw
        rw [ih hturn, if_neg hw, Option.or_none]
        cases lastWritten (turn s a) rest l with
        | none => rfl
        | some b =>
          simp only [Exporter.nodeOver, Exporter.modeOver, hset.atomic, hset.umask]

/-- Every file of the first tree is in the second, with the same bytes and the same mode. -/
def Keeps (t t' : Tree) : Prop :=
  ∀ l mode content, t.lookup l = some (.file mode content) →
    t'.lookup l = some (.file mode content)

/-- An artifact that leaves a file as it is when it is written over it. -/
def Harmless (s : State) (mode : Nat) (content : ByteArray) (a : Artifact) : Prop :=
  s.1.modeOver s.2.umask mode = mode ∧ Text.Utf8.encode a.content = content

/-- An export keeps all files exactly if the last artifact written to the place of a file, if there
is one, says the same as the file. -/
theorem keeps_iff (s : State) (as : List Artifact) :
    Keeps s.2.files (exported s as).2.files ↔
      ∀ l mode content, s.2.files.lookup l = some (.file mode content) →
        ∀ a, lastWritten s as l = some a → Harmless s mode content a := by
  constructor
  · intro hkeeps l mode content hl a ha
    have hafter := hkeeps l mode content hl
    rw [lookup_export hl, ha] at hafter
    simp only [Exporter.nodeOver, Option.some.injEq, Node.file.injEq] at hafter
    exact hafter
  · intro hharmless l mode content hl
    rw [lookup_export hl]
    cases ha : lastWritten s as l with
    | none => rfl
    | some a =>
      obtain ⟨hmode, hcontent⟩ := hharmless l mode content hl a ha
      simp only [Exporter.nodeOver, hmode, hcontent]

/-- Where everything stands in a directory, the path of an artifact that is written to the place of
a file goes up by `..`. -/
theorem dots_of_overwriting {s : State} {as : List Artifact} {l : Location} {a : Artifact}
    {mode : Nat} {content : ByteArray} (hshape : s.2.files.WellFormed)
    (habs : s.1.root.isAbsolute = true) (hl : s.2.files.lookup l = some (.file mode content))
    (ha : (l, a) ∈ writes s as) : ".." ∈ (s.1.root.join a.relativePath).names := by
  -- The turns before the writing one keep the shape of the tree and a file at the place.
  induction as generalizing s mode content with
  | nil => cases ha
  | cons b rest ih =>
    obtain ⟨hset, -⟩ := turn_cases s b
    rw [writes, List.mem_append] at ha
    rcases ha with ha | ha
    · cases hw : written? s b with
      | none => rw [hw] at ha; cases ha
      | some q =>
        rw [hw] at ha
        simp only [Option.map_some, Option.toList_some, List.mem_singleton, Prod.mk.injEq] at ha
        obtain ⟨rfl, rfl⟩ := ha
        exact dots_of_written hshape habs hw hl
    · split at ha
      · have hturn := lookup_turn hl b
        rw [← hset.root]
        split at hturn
        · exact ih (turn_wellFormed hshape b) (by rw [hset.root]; exact habs) hturn ha
        · exact ih (turn_wellFormed hshape b) (by rw [hset.root]; exact habs) hturn ha
      · cases ha

end Scaffold.Export
