import Scaffold.Artifact.Basic
import Scaffold.Artifact.Fragment
import Scaffold.Hydration.Block
import Scaffold.Settings.Basic
import Scaffold.Stub.Name
import Scaffold.Stub.Template

/-!
# Rendering

The files that belong to a plan, filled from their stubs.

* `stubsFor`: the stubs that a plan needs under given settings, in the order in which they are read.
* `artifacts`: the files, given the text of every stub.
-/
namespace Scaffold.Render

open Stub (Filling Name)

/-- The text of every stub. -/
abbrev Stubs := Name → String

/-- The class of the repository of a plan. -/
def repositoryName (plan : Plan) : String := plan.modelName ++ "Repository"

/-- The class of the controller of a plan. -/
def controllerName (plan : Plan) : String := plan.modelName ++ "Controller"

/-- The statement of the restore method, if the repository has one. -/
def restoring? (plan : Plan) : Option String :=
  if plan.hasSoftDelete then plan.restoreStatement.filter fun s => !s.isEmpty else none

/-- What fills the model. -/
def modelFilling (settings : Settings) (plan : Plan) : Filling :=
  let uses := Php.useLines settings.modelsNamespace (plan.relations.map (·.parentModel))
    [plan.modelName]
  [("namespace", settings.modelsNamespace),
    ("useStatements", if uses.isEmpty then "" else Text.join "\n" uses ++ "\n\n"),
    ("modelName", plan.modelName),
    ("properties", Php.modelProperties plan settings.modelsNamespace)]

/-- The model. -/
def model (stubs : Stubs) (settings : Settings) (plan : Plan) : Artifact where
  kind := "model"
  relativePath := settings.modelsDir ++ "/" ++ plan.modelName ++ ".php"
  content := Stub.render (stubs .model) (modelFilling settings plan)
  label := "Model `" ++ plan.modelName ++ "`"

/-- The restore method of the repository, or nothing. -/
def repositoryRestore (stubs : Stubs) (plan : Plan) : String :=
  match restoring? plan with
  | some statement => Stub.render (stubs .repositoryRestore)
      [("restoreStatement", statement), ("tableName", plan.tableName)]
  | none => ""

/-- What separates the selected columns. -/
def selectSeparator : String := ",\n               "

/-- What fills the repository. -/
def repositoryFilling (stubs : Stubs) (settings : Settings) (plan : Plan) : Filling :=
  let uses := Php.useLines settings.modelsNamespace
    (plan.modelName :: plan.relations.map (·.parentModel)) []
  [("namespace", settings.repositoriesNamespace),
    ("repositoryName", repositoryName plan),
    ("useStatements", Text.join "\n" uses),
    ("modelName", plan.modelName),
    ("tableName", plan.tableName),
    ("selectColumns", Text.join selectSeparator plan.selectColumns),
    ("joinClause", Php.joinLines plan.joinClauses),
    ("hydrationLogic", String.join (plan.hydrationRules.map Hydration.Rule.text)),
    ("softDeleteWhereClause", plan.whereLive),
    ("softDeleteAndWhereClause", plan.andLive),
    ("insertColumns", Text.join ", " plan.insertColumns),
    ("insertPlaceholders", Text.join ", " plan.placeholders),
    ("executeArrayParamsCreate", Php.executeParams plan.fillableColumns),
    ("updateSetClause", Text.join ", " plan.assignments),
    ("executeArrayParamsUpdate", Php.executeParams plan.fillableColumns),
    ("deleteStatement", plan.deleteStatement),
    ("restoreMethod", repositoryRestore stubs plan)]

/-- The repository. -/
def repository (stubs : Stubs) (settings : Settings) (plan : Plan) : Artifact where
  kind := "repository"
  relativePath := settings.repositoriesDir ++ "/" ++ repositoryName plan ++ ".php"
  content := Stub.render (stubs .repository) (repositoryFilling stubs settings plan)
  label := "Repository `" ++ repositoryName plan ++ "`"

/-- The property of the controller that holds the repository. -/
def repositoryVariable (plan : Plan) : String := Naming.uncapitalise (repositoryName plan)

/-- The restore action of the controller, or nothing. -/
def controllerRestore (stubs : Stubs) (plan : Plan) : String :=
  if plan.hasSoftDelete then
    Stub.render (stubs .controllerRestore) [("repositoryVariable", repositoryVariable plan)]
  else ""

/-- What fills the controller. -/
def controllerFilling (stubs : Stubs) (settings : Settings) (plan : Plan) : Filling :=
  [("namespace", settings.controllersNamespace),
    ("controllerName", controllerName plan),
    ("modelName", plan.modelName),
    ("modelNamespace", settings.modelsNamespace ++ "\\" ++ plan.modelName),
    ("repositoryName", repositoryName plan),
    ("repositoryNamespace", settings.repositoriesNamespace ++ "\\" ++ repositoryName plan),
    ("repositoryVariable", repositoryVariable plan),
    ("restoreMethod", controllerRestore stubs plan)]

/-- The controller. -/
def controller (stubs : Stubs) (settings : Settings) (plan : Plan) : Artifact where
  kind := "controller"
  relativePath := settings.controllersDir ++ "/" ++ controllerName plan ++ ".php"
  content := Stub.render (stubs .controller) (controllerFilling stubs settings plan)
  label := "Controller `" ++ controllerName plan ++ "`"

/-- The route to the restore action, or nothing. -/
def restoreRoute (plan : Plan) : String :=
  if plan.hasSoftDelete then
    Php.indent ++ "case $method === 'POST' && $id !== null && $action === 'restore':\n" ++
      Php.indent2 ++ "$controller->restore($id);\n" ++ Php.indent2 ++ "break;\n"
  else ""

/-- What fills the router. -/
def routerFilling (settings : Settings) (plan : Plan) : Filling :=
  [("modelName", plan.modelName),
    ("controllerName", controllerName plan),
    ("controllerClass", settings.controllersNamespace ++ "\\" ++ controllerName plan),
    ("repositoryName", repositoryName plan),
    ("repositoryClass", settings.repositoriesNamespace ++ "\\" ++ repositoryName plan),
    ("resourceName", plan.tableName),
    ("restoreRoute", restoreRoute plan)]

/-- The entry point of the web server. -/
def router (stubs : Stubs) (settings : Settings) (plan : Plan) : Artifact where
  kind := "router"
  relativePath := "public/index.php"
  content := Stub.render (stubs .router) (routerFilling settings plan)
  label := "Router (index.php)"

/-- The file that opens the database connection. -/
def databaseBootstrap (stubs : Stubs) : Artifact where
  kind := "database_bootstrap"
  relativePath := "bootstrap/database.php"
  content := Stub.render (stubs .database) []
  label := "Database bootstrap"

/-- The example of an environment file. -/
def environmentExample (stubs : Stubs) : Artifact where
  kind := "env_example"
  relativePath := ".env.example"
  content := Stub.render (stubs .environment) []
  label := "Environment example (.env.example)"

/-- The settings of the web server. -/
def serverConfig (stubs : Stubs) : SetupMode → Artifact
  | .apache => {
      kind := "htaccess"
      relativePath := "public/.htaccess"
      content := Stub.render (stubs .apache) []
      label := "Apache config (.htaccess)" }
  | .nginx => {
      kind := "nginx"
      relativePath := "nginx.conf.example"
      content := Stub.render (stubs .nginx) []
      label := "Nginx config example" }

/-- The controller and what it brings along, if it is asked for. -/
def controllerPart (stubs : Stubs) (settings : Settings) (plan : Plan) : List Artifact :=
  if settings.controllerEnabled then
    [controller stubs settings plan, databaseBootstrap stubs, environmentExample stubs]
  else []

/-- The entry point and the settings of the web server, if they are asked for. -/
def setupPart (stubs : Stubs) (settings : Settings) (plan : Plan) : List Artifact :=
  match settings.setupMode with
  | some mode => [router stubs settings plan, serverConfig stubs mode]
  | none => []

/-- Every file of a plan: model and repository always, the others as the settings ask. -/
def artifacts (stubs : Stubs) (settings : Settings) (plan : Plan) : List Artifact :=
  [model stubs settings plan, repository stubs settings plan] ++
    controllerPart stubs settings plan ++ setupPart stubs settings plan

/-- The stub of the settings of a web server. -/
def serverStub : SetupMode → Name
  | .apache => .apache
  | .nginx => .nginx

/-- The stubs that `artifacts` reads, in this order. -/
def stubsFor (settings : Settings) (plan : Plan) : List Name :=
  [.model] ++ (if (restoring? plan).isSome then [.repositoryRestore] else []) ++ [.repository] ++
    (if settings.controllerEnabled then
      (if plan.hasSoftDelete then [.controllerRestore] else []) ++
        [.controller, .database, .environment]
    else []) ++
    (match settings.setupMode with
    | some mode => [.router, serverStub mode]
    | none => [])

end Scaffold.Render
