import Scaffold.Text.Blank
import Scaffold.Validation.Field

/-!
# Settings of the generator

What a user can choose: where things are written, under which namespace, and what is generated besides
model and repository.

* `Settings.check`: settings from given data; the namespace loses outer backslashes, the directories lose
  outer slashes.
* `Settings.set`: one setting changed; a refused value changes nothing.
-/
namespace Scaffold

open Validation

/-- The web server for which files are generated. -/
inductive SetupMode where
  | apache
  | nginx
  deriving Repr, DecidableEq

/-- Every setup mode. -/
def SetupMode.all : List SetupMode := [.apache, .nginx]

/-- The name of a setup mode. -/
def SetupMode.name : SetupMode → String
  | .apache => "apache"
  | .nginx => "nginx"

/-- The setup mode of a name. -/
def SetupMode.ofName? (name : String) : Option SetupMode :=
  SetupMode.all.find? fun mode => mode.name == name

/-- The settings of a generator. -/
structure Settings where
  projectRoot : String := "."
  stubsDir : Option String := none
  modelsDir : String := "src/Models"
  repositoriesDir : String := "src/Repositories"
  controllersDir : String := "src/Http/Controllers"
  rootNamespace : String := "App"
  withController : Bool := false
  setupMode : Option SetupMode := none
  installDependencies : Bool := true
  dryRun : Bool := false
  deriving Repr, DecidableEq, Inhabited

namespace Settings

/-- Whether a controller is generated; a setup mode implies one. -/
def controllerEnabled (s : Settings) : Bool := s.withController || s.setupMode.isSome

/-- The namespace of the models. -/
def modelsNamespace (s : Settings) : String := s.rootNamespace ++ "\\Models"

/-- The namespace of the repositories. -/
def repositoriesNamespace (s : Settings) : String := s.rootNamespace ++ "\\Repositories"

/-- The namespace of the controllers. -/
def controllersNamespace (s : Settings) : String := s.rootNamespace ++ "\\Http\\Controllers"

/-- A text without the occurrences of a character on either side. -/
def trimChar (c : Char) (s : String) : String := .ofList (Text.stripWhile (· == c) s.toList)

/-- A namespace: at least one segment between backslashes, without backslashes around it. -/
def checkNamespace : Check String := fun v =>
  (filledText v).then fun s =>
    let trimmed := trimChar '\\' s
    if trimmed.isEmpty then .flawed .emptyNamespace else .ok trimmed

/-- A directory of the project, without slashes around it. -/
def checkDirectory : Check String := fun v => (filledText v).map (trimChar '/')

/-- A setup mode by its name. -/
def checkSetupMode : Check SetupMode := fun v =>
  match text v with
  | .ok s => match SetupMode.ofName? s with
    | some mode => .ok mode
    | none => .flawed .notSetupMode
  | .bad _ => .flawed .notSetupMode

/-- The name of the record of the settings. -/
def record : String := "GenerationConfig"

/-- The names of the settings. -/
def fields : List String :=
  ["project_root", "stubs_dir", "models_dir", "repositories_dir", "controllers_dir", "namespace",
    "with_controller", "setup_mode", "install_dependencies", "dry_run"]

/-- Checks the data for settings; what is not given keeps its default. -/
def check : Check Settings :=
  Validation.record record fields fun entries =>
    let base : Settings := {}
    Checked.ok Settings.mk
      |>.and (given "project_root" base.projectRoot text entries)
      |>.and (given "stubs_dir" base.stubsDir (optional text) entries)
      |>.and (given "models_dir" base.modelsDir checkDirectory entries)
      |>.and (given "repositories_dir" base.repositoriesDir checkDirectory entries)
      |>.and (given "controllers_dir" base.controllersDir checkDirectory entries)
      |>.and (given "namespace" base.rootNamespace checkNamespace entries)
      |>.and (given "with_controller" base.withController bool entries)
      |>.and (given "setup_mode" base.setupMode (optional checkSetupMode) entries)
      |>.and (given "install_dependencies" base.installDependencies bool entries)
      |>.and (given "dry_run" base.dryRun bool entries)

/-- Settings from given data, or everything that is wrong with it. -/
def ofValue (v : Value) : Except Rejection Settings := (check v).toExcept record

/-- Settings as data. -/
def toValue (s : Settings) : Value :=
  .record [("project_root", .text s.projectRoot), ("stubs_dir", .optionalText s.stubsDir),
    ("models_dir", .text s.modelsDir), ("repositories_dir", .text s.repositoriesDir),
    ("controllers_dir", .text s.controllersDir), ("namespace", .text s.rootNamespace),
    ("with_controller", .bool s.withController),
    ("setup_mode", .optionalText (s.setupMode.map SetupMode.name)),
    ("install_dependencies", .bool s.installDependencies), ("dry_run", .bool s.dryRun)]

/-- What follows from the settings and cannot be set. -/
def derivedFields : List String :=
  ["controller_enabled", "models_namespace", "repositories_namespace", "controllers_namespace"]

/-- One setting changed to a checked value. -/
def set (s : Settings) (field : String) (value : Value) : Except Refusal Settings :=
  match field with
  | "project_root" => setField record field (text value) fun x => { s with projectRoot := x }
  | "stubs_dir" => setField record field (optional text value) fun x => { s with stubsDir := x }
  | "models_dir" => setField record field (checkDirectory value) fun x => { s with modelsDir := x }
  | "repositories_dir" => setField record field (checkDirectory value) fun x =>
      { s with repositoriesDir := x }
  | "controllers_dir" => setField record field (checkDirectory value) fun x =>
      { s with controllersDir := x }
  | "namespace" => setField record field (checkNamespace value) fun x => { s with rootNamespace := x }
  | "with_controller" => setField record field (bool value) fun x => { s with withController := x }
  | "setup_mode" => setField record field (optional checkSetupMode value) fun x =>
      { s with setupMode := x }
  | "install_dependencies" => setField record field (bool value) fun x =>
      { s with installDependencies := x }
  | "dry_run" => setField record field (bool value) fun x => { s with dryRun := x }
  | _ => setOther record derivedFields s field

end Settings

end Scaffold
