/-!
# The stubs

Each stub is a template file. A user may override any of them by a file of the same name.
-/
namespace Scaffold.Stub

/-- The stubs that the generator knows. -/
inductive Name where
  | model
  | repository
  | repositoryRestore
  | controller
  | controllerRestore
  | database
  | environment
  | router
  | apache
  | nginx
  deriving Repr, DecidableEq

/-- Every stub. -/
def Name.all : List Name :=
  [.controller, .controllerRestore, .model, .repositoryRestore, .repository, .database, .environment,
    .apache, .nginx, .router]

/-- The file of a stub, relative to the directory of the stubs. -/
def Name.fileName : Name → String
  | .model => "model_with_relations.stub"
  | .repository => "repository_with_join.stub"
  | .repositoryRestore => "repository_restore_method.stub"
  | .controller => "controller.stub"
  | .controllerRestore => "controller_restore_method.stub"
  | .database => "setup/database.php.stub"
  | .environment => "setup/env.example.stub"
  | .router => "setup/router.php.stub"
  | .apache => "setup/htaccess.stub"
  | .nginx => "setup/nginx.conf.stub"

end Scaffold.Stub
