import Mathlib.Data.List.Forall2
import Scaffold.Proofs.Artifact.Filled
import Scaffold.Proofs.Export.Accounting
import Scaffold.Proofs.Generator.Faults

/-!
# Stubs of the user's own

A directory of the user's own stubs may hold any of the stubs, or none. Each stub is sought on its own,
there first and then among the packaged ones, and each is filled into one artifact: two are put into
another stub first. So what a directory says of one stub is seen in one artifact and in no other.

* `ownFile`, `packagedFile`: the bytes that a stub has in either place.
* `Finding`: all that looking a stub up can come to.
* `stubAt_missing_iff`: when a stub is reported as missing.
* `stubsOf`: the stubs that go into an artifact of some kind; over the artifacts of a plan these are
  just the stubs that are read.
* `DrawsOn`: an artifact is determined by the stubs that go into it.
* `artifactsAt_missing_iff`: when rendering reports a missing stub.
* `overrides_independent`: two directories that agree on all stubs but one give the same artifacts,
  apart from the one which that stub goes into; and rendering reports a missing stub exactly if it
  comes to one that is in neither place.
* `long_directory_hides_missing`: it does not come to one if the system refuses the directory.
-/
namespace Scaffold

open Files (Path Tree)

/-! ## Looking a stub up -/

namespace Stub

variable {w w₁ w₂ : Workspace} {overrides o₁ o₂ : Option Path} {stub : String}

/-- The bytes of the user's own file of a stub, if there is one. -/
def ownFile (w : Workspace) (overrides : Option Path) (stub : String) : Option ByteArray :=
  overrides.bind fun directory => w.files.bytesAt? w.directory (directory.join stub)

/-- The bytes of the packaged file of a stub, if there is one. -/
def packagedFile (w : Workspace) (stub : String) : Option ByteArray :=
  w.files.bytesAt? w.directory (packagedPath w stub)

/-- The bytes that a stub is read from: the user's own, or else the packaged ones. -/
def bytesOf (w : Workspace) (overrides : Option Path) (stub : String) : Option ByteArray :=
  (ownFile w overrides stub).or (packagedFile w stub)

/-- A stub that is a file in neither place. -/
structure Missing (w : Workspace) (overrides : Option Path) (stub : String) : Prop where
  own : ownFile w overrides stub = none
  packaged : packagedFile w stub = none

/-- A stub that cannot be looked up: the system refuses its path among the user's own, or the user has
none and it refuses the packaged path. -/
inductive Refused (w : Workspace) (overrides : Option Path) (stub : String) : Prop where
  | own {directory : Path} :
      overrides = some directory → w.files.TooLong w.directory (directory.join stub) →
      Refused w overrides stub
  | packaged :
      ownFile w overrides stub = none → w.files.TooLong w.directory (packagedPath w stub) →
      Refused w overrides stub

/-- Two workspaces, each with a directory of the user's own stubs, that have the same files for all
stubs but one. -/
structure AgreeBut (odd : Name) (w₁ : Workspace) (o₁ : Option Path) (w₂ : Workspace)
    (o₂ : Option Path) : Prop where
  own : ∀ name, name ≠ odd → ownFile w₁ o₁ name.fileName = ownFile w₂ o₂ name.fileName
  packaged : ∀ name, name ≠ odd → packagedFile w₁ name.fileName = packagedFile w₂ name.fileName

/-- All that looking a stub up can come to. -/
inductive Finding (w : Workspace) (overrides : Option Path) (stub : String) :
    Except Fault Path → Prop where
  | own {directory : Path} {bytes : ByteArray} :
      overrides = some directory →
      w.files.bytesAt? w.directory (directory.join stub) = some bytes →
      ¬ Refused w overrides stub → Finding w overrides stub (.ok (directory.join stub))
  | packaged {bytes : ByteArray} :
      ownFile w overrides stub = none → packagedFile w stub = some bytes →
      ¬ Refused w overrides stub → Finding w overrides stub (.ok (packagedPath w stub))
  | missing {m : MissingStub} :
      Missing w overrides stub → ¬ Refused w overrides stub →
      Finding w overrides stub (.error (.stub m))
  | refused {failure : Files.Failure} :
      Refused w overrides stub → Finding w overrides stub (.error (.file failure))

theorem ownFile_some {directory : Path} :
    ownFile w (some directory) stub = w.files.bytesAt? w.directory (directory.join stub) := by
  rw [ownFile, Option.bind_some]

theorem eq_none_of_isSome {α : Type} {o : Option α} (h : false = o.isSome) : o = none :=
  Option.isNone_iff_eq_none.mp (Option.isSome_eq_false_iff.mp h.symm)

theorem overridingAt_error {e : Fault} (h : overridingAt w overrides stub = .error e) :
    ∃ directory, overrides = some directory ∧
      w.files.TooLong w.directory (directory.join stub) ∧ ∃ failure, e = .file failure := by
  cases overrides with
  | none => cases h
  | some directory =>
    rcases bind_eq_error.mp h with h | ⟨_, -, h⟩
    · obtain ⟨hlong, rfl⟩ := Schema.isFile_fault_iff.mp h
      exact ⟨directory, rfl, hlong, _, rfl⟩
    · cases h

/-- The user's own file of a stub is a file at a path that is not refused; where there is none, the
path is not refused either. -/
theorem overridingAt_ok {found : Option Path} (h : overridingAt w overrides stub = .ok found) :
    (∀ directory, overrides = some directory →
      ¬ w.files.TooLong w.directory (directory.join stub)) ∧
    match found with
    | some path => ∃ directory bytes, overrides = some directory ∧ path = directory.join stub ∧
        w.files.bytesAt? w.directory (directory.join stub) = some bytes
    | none => ownFile w overrides stub = none := by
  cases overrides with
  | none => cases h; exact ⟨fun _ h => (by cases h), rfl⟩
  | some directory =>
    obtain ⟨there, hthere, h⟩ := bind_eq_ok.mp h
    obtain ⟨hshort, hsome⟩ := Tree.isFile_ok_iff.mp (mapError_eq_ok.mp hthere)
    refine ⟨by rintro _ ⟨⟩; exact hshort, ?_⟩
    cases there with
    | false => cases h; exact eq_none_of_isSome hsome
    | true =>
      cases h
      obtain ⟨bytes, hbytes⟩ := Option.isSome_iff_exists.mp hsome.symm
      exact ⟨directory, bytes, rfl, rfl, hbytes⟩

theorem finding (w : Workspace) (overrides : Option Path) (stub : String) :
    Finding w overrides stub (stubPathAt w overrides stub) := by
  unfold stubPathAt
  cases hown : overridingAt w overrides stub with
  | error e =>
    obtain ⟨directory, ho, hlong, failure, rfl⟩ := overridingAt_error hown
    exact .refused (.own ho hlong)
  | ok found =>
    obtain ⟨hshort, hfound⟩ := overridingAt_ok hown
    cases found with
    | some path =>
      obtain ⟨directory, bytes, rfl, rfl, hbytes⟩ := hfound
      refine .own rfl hbytes ?_
      rintro (⟨ho, hlong⟩ | ⟨hnone, -⟩)
      · exact hshort _ ho hlong
      · rw [ownFile_some, hbytes] at hnone
        cases hnone
    | none =>
      change Finding w overrides stub
        ((w.files.isFile w.directory (packagedPath w stub)).mapError Fault.file >>= _)
      cases hpackaged : w.files.isFile w.directory (packagedPath w stub) with
      | error failure => exact .refused (.packaged hfound (Tree.leadsTo_error_iff.mp hpackaged).1)
      | ok there =>
        obtain ⟨hallowed, hsome⟩ := Tree.isFile_ok_iff.mp hpackaged
        have hnot : ¬ Refused w overrides stub := by
          rintro (⟨ho, hlong⟩ | ⟨-, hlong⟩)
          · exact hshort _ ho hlong
          · exact hallowed hlong
        cases there with
        | true =>
          obtain ⟨bytes, hbytes⟩ := Option.isSome_iff_exists.mp hsome.symm
          exact .packaged hfound hbytes hnot
        | false => exact .missing ⟨hfound, eq_none_of_isSome hsome⟩ hnot

/-- The file of a stub that was found holds its bytes, and the stub can be looked up. -/
theorem bytesAt_of_stubPathAt {path : Path} (h : stubPathAt w overrides stub = .ok path) :
    bytesOf w overrides stub = w.files.bytesAt? w.directory path ∧ ¬ Refused w overrides stub := by
  have hfind := finding w overrides stub
  rw [h] at hfind
  unfold bytesOf
  cases hfind with
  | own ho hbytes hnot =>
    subst ho
    exact ⟨by rw [ownFile_some, hbytes, Option.some_or], hnot⟩
  | packaged hnone hbytes hnot => exact ⟨by rw [hnone, Option.none_or]; rfl, hnot⟩

theorem not_refused_of_stubAt {text : String} (h : stubAt w overrides stub = .ok text) :
    ¬ Refused w overrides stub := by
  obtain ⟨path, hpath, -⟩ := bind_eq_ok.mp h
  exact (bytesAt_of_stubPathAt hpath).2

/-- The text of a file is made from its bytes alone. -/
theorem textAt_congr {t₁ t₂ : Tree} {d₁ d₂ : Files.Location} {p₁ p₂ : Path} {text₁ text₂ : String}
    (hbytes : t₁.bytesAt? d₁ p₁ = t₂.bytesAt? d₂ p₂) (h₁ : Workspace.textAt t₁ d₁ p₁ = .ok text₁)
    (h₂ : Workspace.textAt t₂ d₂ p₂ = .ok text₂) : text₁ = text₂ := by
  unfold Workspace.textAt at h₁ h₂
  split at h₁
  · cases h₁
  · rename_i bytes hcontent
    rw [Tree.contentAt_ok_iff.mpr (hbytes ▸ Tree.contentAt_ok_iff.mp hcontent)] at h₂
    exact Except.ok.inj (h₁.symm.trans h₂)

/-- Two places that have the same bytes for a stub give it the same text. -/
theorem stubAt_congr {text₁ text₂ : String} (hbytes : bytesOf w₁ o₁ stub = bytesOf w₂ o₂ stub)
    (h₁ : stubAt w₁ o₁ stub = .ok text₁) (h₂ : stubAt w₂ o₂ stub = .ok text₂) : text₁ = text₂ := by
  obtain ⟨path₁, hpath₁, hread₁⟩ := bind_eq_ok.mp h₁
  obtain ⟨path₂, hpath₂, hread₂⟩ := bind_eq_ok.mp h₂
  have hsame : w₁.files.bytesAt? w₁.directory path₁ = w₂.files.bytesAt? w₂.directory path₂ := by
    rw [← (bytesAt_of_stubPathAt hpath₁).1, ← (bytesAt_of_stubPathAt hpath₂).1, hbytes]
  exact textAt_congr hsame (mapError_eq_ok.mp hread₁) (mapError_eq_ok.mp hread₂)

/-- A stub is reported as missing exactly if it is a file in neither place and can be looked up. -/
theorem stubAt_missing_iff :
    (∃ m, stubAt w overrides stub = .error (.stub m)) ↔
      Missing w overrides stub ∧ ¬ Refused w overrides stub := by
  unfold stubAt
  have hfind := finding w overrides stub
  constructor
  · rintro ⟨m, h⟩
    rcases bind_eq_error.mp h with h | ⟨path, -, h⟩
    · rw [h] at hfind
      cases hfind with
      | missing hmissing hnot => exact ⟨hmissing, hnot⟩
    · obtain ⟨failure, -, h⟩ := mapError_eq_error.mp h
      cases h
  · rintro ⟨⟨hown, hpackaged⟩, hnot⟩
    generalize stubPathAt w overrides stub = found at hfind
    cases hfind with
    | own ho hbytes => rw [ho, ownFile_some, hbytes] at hown; cases hown
    | packaged _ hbytes => rw [hbytes] at hpackaged; cases hpackaged
    | missing => exact ⟨_, rfl⟩
    | refused hrefused => exact absurd hrefused hnot

/-- A stub that can be looked up and is read as UTF-8 fails only by being missing. -/
theorem missing_of_stubAt_error {e : Fault} (h : stubAt w overrides stub = .error e)
    (hnot : ¬ Refused w overrides stub) (hdecodes : ¬ Undecodable w overrides stub) :
    ∃ m, e = .stub m := by
  rcases bind_eq_error.mp h with hpath | ⟨path, hpath, hread⟩
  · have hfind := finding w overrides stub
    rw [hpath] at hfind
    cases hfind with
    | missing => exact ⟨_, rfl⟩
    | refused hrefused => exact absurd hrefused hnot
  · obtain ⟨failure, htext, -⟩ := mapError_eq_error.mp hread
    exact absurd (undecodable_of_textAt hpath htext) hdecodes

end Stub

/-! ## Which stub goes where -/

namespace Render

open Stub (AgreeBut Missing Name Refused Undecodable)

/-- The stubs that go into the artifact of some kind, those that are put into its own stub first. -/
def stubsOf (plan : Plan) : String → List Name
  | "model" => [.model]
  | "repository" =>
    (if (restoring? plan).isSome then [.repositoryRestore] else []) ++ [.repository]
  | "controller" => (if plan.hasSoftDelete then [.controllerRestore] else []) ++ [.controller]
  | "database_bootstrap" => [.database]
  | "env_example" => [.environment]
  | "router" => [.router]
  | "htaccess" => [.apache]
  | "nginx" => [.nginx]
  | _ => []

/-- The stubs that are read for a plan are those that go into its artifacts, one artifact after the
other. -/
theorem stubsFor_eq (stubs : Stubs) (settings : Settings) (plan : Plan) :
    stubsFor settings plan =
      (artifacts stubs settings plan).flatMap fun a => stubsOf plan a.kind := by
  have hserver : ∀ mode, stubsOf plan (serverConfig stubs mode).kind = [serverStub mode] := by
    intro mode
    cases mode <;> rfl
  unfold stubsFor artifacts controllerPart setupPart
  cases settings.controllerEnabled <;> cases settings.setupMode <;>
    simp only [hserver, List.flatMap_append, List.flatMap_cons, List.flatMap_nil] <;>
    simp [stubsOf, model, repository, controller, databaseBootstrap, environmentExample, router]

/-- A way to make an artifact that draws on no stub but those of its kind. -/
structure DrawsOn (plan : Plan) (make : Stubs → Artifact) : Prop where
  kind : ∀ s t, (make s).kind = (make t).kind
  relativePath : ∀ s t, (make s).relativePath = (make t).relativePath
  label : ∀ s t, (make s).label = (make t).label
  content : ∀ s t, (∀ name ∈ stubsOf plan (make s).kind, s name = t name) →
    (make s).content = (make t).content

/-- One stub that is filled with nothing of another. -/
theorem drawsOn_of_single {plan : Plan} {make : Stubs → Artifact} {kind path label : String}
    {name : Name} {filling : Stub.Filling}
    (hmake : ∀ stubs, make stubs = ⟨kind, path, Stub.render (stubs name) filling, label⟩)
    (hkind : stubsOf plan kind = [name]) : DrawsOn plan make where
  kind s t := by rw [hmake, hmake]
  relativePath s t := by rw [hmake, hmake]
  label s t := by rw [hmake, hmake]
  content s t h := by
    have hsame : s name = t name := h name (by rw [hmake, hkind]; exact List.mem_singleton.mpr rfl)
    rw [hmake, hmake, hsame]

theorem drawsOn_repository (settings : Settings) (plan : Plan) :
    DrawsOn plan fun stubs => repository stubs settings plan where
  -- Not by `rfl`: it would try whether the contents are equal first.
  kind s t := by simp only [repository]
  relativePath s t := by simp only [repository]
  label s t := by simp only [repository]
  content s t h := by
    have hrepository : s .repository = t .repository :=
      h _ (List.mem_append_right _ (List.mem_singleton.mpr rfl))
    have hrestore : repositoryRestore s plan = repositoryRestore t plan := by
      unfold repositoryRestore
      cases hr : restoring? plan with
      | none => rfl
      | some statement =>
        have hmem : Name.repositoryRestore ∈ stubsOf plan "repository" :=
          List.mem_append_left _ (by rw [hr]; exact List.mem_singleton.mpr rfl)
        simp only [h _ hmem]
    simp only [repository, repositoryFilling, hrepository, hrestore]

theorem drawsOn_controller (settings : Settings) (plan : Plan) :
    DrawsOn plan fun stubs => controller stubs settings plan where
  kind s t := by simp only [controller]
  relativePath s t := by simp only [controller]
  label s t := by simp only [controller]
  content s t h := by
    have hcontroller : s .controller = t .controller :=
      h _ (List.mem_append_right _ (List.mem_singleton.mpr rfl))
    have hrestore : controllerRestore s plan = controllerRestore t plan := by
      unfold controllerRestore
      split
      · rename_i hsoft
        have hmem : Name.controllerRestore ∈ stubsOf plan "controller" :=
          List.mem_append_left _ (by rw [if_pos hsoft]; exact List.mem_singleton.mpr rfl)
        rw [h _ hmem]
      · rfl
    simp only [controller, controllerFilling, hcontroller, hrestore]

/-- The ways to make the artifacts of a plan. -/
def makers (settings : Settings) (plan : Plan) : List (Stubs → Artifact) :=
  [fun stubs => model stubs settings plan, fun stubs => repository stubs settings plan] ++
    (if settings.controllerEnabled then
      [fun stubs => controller stubs settings plan, databaseBootstrap, environmentExample]
    else []) ++
    (match settings.setupMode with
    | some mode => [fun stubs => router stubs settings plan, fun stubs => serverConfig stubs mode]
    | none => [])

theorem map_makers (stubs : Stubs) (settings : Settings) (plan : Plan) :
    (makers settings plan).map (fun make => make stubs) = artifacts stubs settings plan := by
  unfold makers artifacts controllerPart setupPart
  cases settings.controllerEnabled <;> cases settings.setupMode <;> rfl

theorem drawsOn_of_mem {settings : Settings} {plan : Plan} :
    ∀ make ∈ makers settings plan, DrawsOn plan make := by
  have hmodel : DrawsOn plan fun stubs => model stubs settings plan :=
    drawsOn_of_single (fun _ => rfl) rfl
  have hdatabase : DrawsOn plan databaseBootstrap := drawsOn_of_single (fun _ => rfl) rfl
  have henvironment : DrawsOn plan environmentExample := drawsOn_of_single (fun _ => rfl) rfl
  have hrouter : DrawsOn plan fun stubs => router stubs settings plan :=
    drawsOn_of_single (fun _ => rfl) rfl
  have hserver : ∀ mode, DrawsOn plan fun stubs => serverConfig stubs mode := by
    intro mode
    cases mode <;> exact drawsOn_of_single (fun _ => rfl) rfl
  unfold makers
  simp only [List.forall_mem_append, List.forall_mem_cons]
  refine ⟨⟨⟨hmodel, drawsOn_repository settings plan, by simp⟩, ?_⟩, ?_⟩
  · split
    · simp only [List.forall_mem_cons]
      exact ⟨drawsOn_controller settings plan, hdatabase, henvironment, by simp⟩
    · simp
  · split
    · simp only [List.forall_mem_cons]
      exact ⟨hrouter, hserver _, by simp⟩
    · simp

/-- Two artifacts that one stub alone can tell apart: they have one kind, one path and one label, and
where that stub does not go into them, one content. -/
structure Alike (plan : Plan) (odd : Name) (a b : Artifact) : Prop where
  kind : a.kind = b.kind
  relativePath : a.relativePath = b.relativePath
  label : a.label = b.label
  content : odd ∉ stubsOf plan a.kind → a.content = b.content

theorem artifacts_alike (settings : Settings) {plan : Plan} {odd : Name} {s t : Stubs}
    (h : ∀ name ∈ stubsFor settings plan, name ≠ odd → s name = t name) :
    List.Forall₂ (Alike plan odd) (artifacts s settings plan) (artifacts t settings plan) := by
  rw [← map_makers, ← map_makers, List.forall₂_map_left_iff, List.forall₂_map_right_iff,
    List.forall₂_same]
  intro make hmake
  obtain ⟨hkind, hpath, hlabel, hcontent⟩ := drawsOn_of_mem make hmake
  refine ⟨hkind s t, hpath s t, hlabel s t, fun hodd => hcontent s t fun name hname => h name ?_ ?_⟩
  · have hmem : make s ∈ artifacts s settings plan :=
      map_makers s settings plan ▸ List.mem_map_of_mem hmake
    rw [stubsFor_eq s]
    exact List.mem_flatMap.mpr ⟨make s, hmem, hname⟩
  · rintro rfl
    exact hodd hname

/-! ## Rendering -/

theorem textsAt_ok {w : Workspace} {overrides : Option Path} {names : List Name}
    {texts : List (Name × String)} (h : textsAt w overrides names = .ok texts) :
    ∀ name ∈ names, Stub.stubAt w overrides name.fileName = .ok (stubText texts name) := by
  unfold stubText
  induction names generalizing texts with
  | nil => simp
  | cons first rest ih =>
    unfold textsAt at h
    rw [List.mapM_cons] at h
    obtain ⟨entry, hentry, h⟩ := bind_eq_ok.mp h
    obtain ⟨text, htext, hpair⟩ := bind_eq_ok.mp hentry
    obtain ⟨others, hothers, h⟩ := bind_eq_ok.mp h
    cases hpair
    cases h
    intro name hname
    rw [List.lookup_cons]
    by_cases heq : name = first
    · subst heq
      simpa using htext
    · rw [beq_eq_false_iff_ne.mpr heq]
      exact ih hothers name (List.mem_of_ne_of_mem heq hname)

/-- What rendering comes to in a workspace. -/
theorem produce_run (settings : Settings) (plan : Plan) (w : Workspace) :
    ((produce settings plan).run w).1 = artifactsAt settings plan w := by
  obtain ⟨w', hr, -⟩ := produce_answers w settings plan w (Told.refl w)
  rw [hr]

/-- Artifacts that were rendered are filled from the stubs as they were read. -/
theorem produce_ok {settings : Settings} {plan : Plan} {w w' : Workspace} {found : List Artifact}
    (h : (produce settings plan).run w = (.ok found, w')) :
    ∃ stubs : Stubs, found = artifacts stubs settings plan ∧ ∀ name ∈ stubsFor settings plan,
      Stub.stubAt w (overridesOf settings) name.fileName = .ok (stubs name) := by
  have hrun := produce_run settings plan w
  rw [h] at hrun
  obtain ⟨texts, htexts, hfound⟩ := bind_eq_ok.mp hrun.symm
  cases hfound
  exact ⟨stubText texts, rfl, textsAt_ok htexts⟩

/-- Where every stub that is found is UTF-8, rendering reports a missing stub exactly if it comes to
one, which it does unless a stub before it, or that one, cannot be looked up. -/
theorem artifactsAt_missing_iff {settings : Settings} {plan : Plan} {w : Workspace}
    (hdecodes : ∀ name ∈ stubsFor settings plan,
      ¬ Undecodable w (overridesOf settings) name.fileName) :
    (∃ m, artifactsAt settings plan w = .error (.stub m)) ↔
      ∃ before name after, stubsFor settings plan = before ++ name :: after ∧
        Missing w (overridesOf settings) name.fileName ∧
        ∀ b ∈ before ++ [name], ¬ Refused w (overridesOf settings) (Name.fileName b) := by
  constructor
  · rintro ⟨m, h⟩
    obtain ⟨before, name, after, hsplit, hbefore, hname⟩ := artifactsAt_error_iff.mp h
    obtain ⟨hmissing, hnot⟩ := Stub.stubAt_missing_iff.mp ⟨m, hname⟩
    refine ⟨before, name, after, hsplit, hmissing, List.forall_mem_append.mpr ⟨fun b hb => ?_, ?_⟩⟩
    · obtain ⟨text, htext⟩ := hbefore b hb
      exact Stub.not_refused_of_stubAt htext
    · exact List.forall_mem_singleton.mpr hnot
  · rintro ⟨before, name, after, hsplit, hmissing, hallowed⟩
    obtain ⟨m, hname⟩ :=
      Stub.stubAt_missing_iff.mpr ⟨hmissing, hallowed name (by simp)⟩
    -- The first stub that fails is this one or one before it, so it fails by being missing too.
    have hfailing : ∃ n ∈ before ++ [name], ∃ e,
        Stub.stubAt w (overridesOf settings) (Name.fileName n) = .error e :=
      ⟨name, by simp, _, hname⟩
    obtain ⟨e, hfails⟩ := exists_mapM_error_iff.mpr hfailing
    obtain ⟨earlier, first, later, hfirst, hearlier, he⟩ := mapM_error_iff.mp hfails
    have hwhole : stubsFor settings plan = earlier ++ first :: (later ++ after) := by
      rw [hsplit, List.append_cons, hfirst, List.append_assoc, List.cons_append]
    have hnot := hallowed first (by rw [hfirst]; simp)
    obtain ⟨m', rfl⟩ := Stub.missing_of_stubAt_error he hnot (hdecodes first (by rw [hwhole]; simp))
    exact ⟨m', artifactsAt_error_iff.mpr ⟨earlier, first, later ++ after, hwhole, hearlier, he⟩⟩

/-- What the user overrides of one stub reaches the artifact that the stub goes into, and no other: if
two directories of stubs, of one workspace or two, have the same files for all stubs but one and
rendering succeeds with both, the artifacts are the same but for the content of that one. The stubs that
are read are those that go into the artifacts. Where all that are found are UTF-8, rendering reports a
missing stub exactly if one of them is a file in neither place, and neither it nor a stub before it has a
path that the system refuses. -/
theorem overrides_independent (settings : Settings) (plan : Plan) :
    (∀ (odd : Name) (d₁ d₂ : Option String) (w₁ w₂ w₁' w₂' : Workspace)
      (found₁ found₂ : List Artifact),
      AgreeBut odd w₁ (overridesOf { settings with stubsDir := d₁ })
        w₂ (overridesOf { settings with stubsDir := d₂ }) →
      (produce { settings with stubsDir := d₁ } plan).run w₁ = (.ok found₁, w₁') →
      (produce { settings with stubsDir := d₂ } plan).run w₂ = (.ok found₂, w₂') →
      List.Forall₂ (Alike plan odd) found₁ found₂) ∧
    (∀ stubs, stubsFor settings plan =
      (artifacts stubs settings plan).flatMap fun a => stubsOf plan a.kind) ∧
    ∀ w, (∀ name ∈ stubsFor settings plan,
        ¬ Undecodable w (overridesOf settings) name.fileName) →
      ((∃ missing w', (produce settings plan).run w = (.error (.stub missing), w')) ↔
        ∃ before name after, stubsFor settings plan = before ++ name :: after ∧
          Missing w (overridesOf settings) name.fileName ∧
          ∀ b ∈ before ++ [name], ¬ Refused w (overridesOf settings) (Name.fileName b)) := by
  refine ⟨?_, fun stubs => stubsFor_eq stubs settings plan, fun w hdecodes => ?_⟩
  · intro odd d₁ d₂ w₁ w₂ w₁' w₂' found₁ found₂ hagree h₁ h₂
    obtain ⟨s, rfl, hs⟩ := produce_ok h₁
    obtain ⟨t, rfl, ht⟩ := produce_ok h₂
    refine artifacts_alike settings fun name hname hodd => ?_
    have hbytes : Stub.bytesOf w₁ (overridesOf { settings with stubsDir := d₁ }) name.fileName =
        Stub.bytesOf w₂ (overridesOf { settings with stubsDir := d₂ }) name.fileName := by
      unfold Stub.bytesOf
      rw [hagree.own name hodd, hagree.packaged name hodd]
    exact Stub.stubAt_congr hbytes (hs name hname) (ht name hname)
  · rw [← artifactsAt_missing_iff hdecodes, ← produce_run]
    constructor
    · rintro ⟨m, w', h⟩
      exact ⟨m, by rw [h]⟩
    · rintro ⟨m, h⟩
      exact ⟨m, _, Prod.ext h rfl⟩

/-- A project whose user has two directories of stubs, with a restore method in each. There is no
packaged one, but the packaged repository takes one. -/
def overridingProject : Workspace where
  files := ⟨[(["s"], .directory), (["s", "model_with_relations.stub"], .file 0o644 ⟨#[120]⟩),
    (["s", "repository_with_join.stub"], .file 0o644 "\x7b\x7b restoreMethod \x7d\x7d".toUTF8),
    (["a"], .directory), (["a", "repository_restore_method.stub"], .file 0o644 ⟨#[121]⟩),
    (["b"], .directory), (["b", "repository_restore_method.stub"], .file 0o644 ⟨#[122]⟩)]⟩
  stubs := ["s"]

/-- Settings with a directory of the user's own stubs. -/
def overriding (directory : String) : Settings := { stubsDir := some directory }

theorem agreeBut_restore : AgreeBut .repositoryRestore overridingProject
    (overridesOf (overriding "/a")) overridingProject (overridesOf (overriding "/b")) where
  own name hodd := by
    cases name with
    | repositoryRestore => exact absurd rfl hodd
    | _ => decide +kernel
  packaged _ _ := rfl

theorem stubsFor_posts : stubsFor (overriding "/c") postsPlan =
    [.model] ++ .repositoryRestore :: [.repository] := by
  decide +kernel

theorem exists_found {x : Action Workspace (List Artifact)} {w : Workspace}
    (h : (x.run w).1.toOption.isSome = true) : ∃ found w', x.run w = (.ok found, w') := by
  obtain ⟨found, hfound⟩ := Option.isSome_iff_exists.mp h
  exact ⟨found, Action.exists_run hfound⟩

theorem model_read : ∃ text, Stub.stubAt overridingProject (overridesOf (overriding "/c"))
    (Name.fileName .model) = .ok text := by
  obtain ⟨text, htext⟩ := Option.isSome_iff_exists.mp (show (Stub.stubAt overridingProject
    (overridesOf (overriding "/c")) (Name.fileName .model)).toOption.isSome = true by decide +kernel)
  exact ⟨text, toOption_eq_some.mp htext⟩

theorem restore_missing : Stub.stubAt overridingProject (overridesOf (overriding "/c"))
    (Name.fileName .repositoryRestore) =
      .error (.stub ⟨"repository_restore_method.stub", "/c"⟩) := by
  rfl

theorem decodes_overridingProject : ∀ name ∈ stubsFor (overriding "/c") postsPlan,
    ¬ Undecodable overridingProject (overridesOf (overriding "/c")) name.fileName := by
  have hcheck : ∀ name ∈ [Name.model, .repositoryRestore, .repository],
      (match Stub.stubAt overridingProject (overridesOf (overriding "/c")) name.fileName with
        | .ok _ => true
        | .error e => Generator.isStubFault e) = true := by
    decide +kernel
  rw [stubsFor_posts]
  intro name hname hundecodable
  obtain ⟨e, h, he⟩ := Stub.stubAt_fault_iff.mpr hundecodable
  have hname := hcheck name hname
  rw [h] at hname
  exact Bool.noConfusion (hname.symm.trans he)

/-- A restore method of the user's own is put into the packaged repository and changes that artifact
alone; where the user has none, rendering ends at the missing stub. -/
theorem restore_overridden :
    ∃ found₁ found₂ w₁ w₂,
      AgreeBut .repositoryRestore overridingProject (overridesOf (overriding "/a"))
        overridingProject (overridesOf (overriding "/b")) ∧
      (produce (overriding "/a") postsPlan).run overridingProject = (.ok found₁, w₁) ∧
      (produce (overriding "/b") postsPlan).run overridingProject = (.ok found₂, w₂) ∧
      found₁ ≠ found₂ ∧ List.Forall₂ (Alike postsPlan .repositoryRestore) found₁ found₂ ∧
      (∀ name ∈ stubsFor (overriding "/c") postsPlan,
        ¬ Undecodable overridingProject (overridesOf (overriding "/c")) name.fileName) ∧
      ∃ missing w', (produce (overriding "/c") postsPlan).run overridingProject =
        (.error (.stub missing), w') := by
  obtain ⟨found₁, w₁, h₁⟩ : ∃ found w', (produce (overriding "/a") postsPlan).run
      overridingProject = (.ok found, w') := exists_found (by decide +kernel)
  obtain ⟨found₂, w₂, h₂⟩ : ∃ found w', (produce (overriding "/b") postsPlan).run
      overridingProject = (.ok found, w') := exists_found (by decide +kernel)
  have hdiffer : ((produce (overriding "/a") postsPlan).run overridingProject).1.toOption ≠
      ((produce (overriding "/b") postsPlan).run overridingProject).1.toOption := by
    decide +kernel
  rw [h₁, h₂] at hdiffer
  obtain ⟨halike, -, hmissing⟩ := overrides_independent (overriding "/c") postsPlan
  refine ⟨found₁, found₂, w₁, w₂, agreeBut_restore, h₁, h₂, fun heq => hdiffer (by rw [heq]),
    halike .repositoryRestore _ _ _ _ _ _ _ _ agreeBut_restore h₁ h₂, decodes_overridingProject, ?_⟩
  obtain ⟨hnowhere, hallowed⟩ := Stub.stubAt_missing_iff.mp ⟨_, restore_missing⟩
  obtain ⟨text, htext⟩ := model_read
  have hread := Stub.not_refused_of_stubAt htext
  exact (hmissing _ decodes_overridingProject).mpr ⟨[.model], _, _, stubsFor_posts, hnowhere,
    List.forall_mem_append.mpr
      ⟨List.forall_mem_singleton.mpr hread, List.forall_mem_singleton.mpr hallowed⟩⟩

/-- Settings with a directory of the user's own stubs whose name is too long. -/
def longOverrides : Settings := { stubsDir := some (String.ofList Export.longName) }

theorem overridesOf_longOverrides :
    overridesOf longOverrides = some ⟨.relative, [String.ofList Export.longName]⟩ := by
  unfold overridesOf longOverrides
  rw [Option.filter_some, if_pos (by decide +kernel), Option.map_some]
  unfold Path.ofString
  rw [String.toList_ofList]
  decide +kernel

theorem tooLong_below_longName (name : Name) : ({} : Tree).TooLong []
    ((⟨.relative, [String.ofList Export.longName]⟩ : Path).join name.fileName) := by
  have hjoin : (⟨.relative, [String.ofList Export.longName]⟩ : Path).join name.fileName =
      ⟨.relative, String.ofList Export.longName :: (Path.ofString name.fileName).names⟩ := by
    unfold Path.join Path.append
    rw [if_neg (by cases name <;> decide +kernel)]
    rfl
  have hnull : (⟨.relative, String.ofList Export.longName :: (Path.ofString name.fileName).names⟩ :
      Path).hasNull = false := by
    simp only [Path.hasNull, List.any_cons, String.toList_ofList]
    cases name <;> decide +kernel
  rw [hjoin]
  exact ⟨hnull, Or.inr ⟨[], _, _, [], rfl, rfl, rfl, by decide +kernel, by decide +kernel⟩⟩

/-- Where the name of the user's directory is too long, the system refuses the paths of all stubs:
though every one of them is missing, that is not what rendering reports. -/
theorem long_directory_hides_missing :
    (∀ name, ¬ Undecodable {} (overridesOf longOverrides) (Name.fileName name)) ∧
      (∃ name ∈ stubsFor longOverrides postsPlan,
        Missing {} (overridesOf longOverrides) name.fileName) ∧
      ¬ ∃ missing w', (produce longOverrides postsPlan).run {} = (.error (.stub missing), w') := by
  have hrefused : ∀ name : Name, Refused {} (overridesOf longOverrides) name.fileName :=
    fun name => .own overridesOf_longOverrides (tooLong_below_longName name)
  have hdecodes : ∀ name, ¬ Undecodable {} (overridesOf longOverrides) (Name.fileName name) := by
    rintro name ⟨path, _, hpath, -⟩
    exact (Stub.bytesAt_of_stubPathAt hpath).2 (hrefused name)
  refine ⟨hdecodes, ⟨.model, by decide +kernel, ?_, by decide +kernel⟩, ?_⟩
  · rw [overridesOf_longOverrides, Stub.ownFile_some]
    exact Tree.bytesAt?_of_tooLong (tooLong_below_longName .model)
  · rintro ⟨m, w', h⟩
    have hrun := produce_run longOverrides postsPlan {}
    rw [h] at hrun
    obtain ⟨_, name, _, -, -, hallowed⟩ :=
      (artifactsAt_missing_iff fun name _ => hdecodes name).mp ⟨m, hrun.symm⟩
    exact hallowed name (by simp) (hrefused name)

end Render

end Scaffold
