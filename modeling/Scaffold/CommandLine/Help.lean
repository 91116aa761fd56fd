import Scaffold.Text.Blank

/-!
# Help texts

What the command line tells about itself.
-/
namespace Scaffold.CommandLine

/-- The name of the command. -/
def commandName : String := "crudgen"

/-- The version of the program. -/
def version : String := "1.0.0"

/-- Lines, each with its line end. -/
def linesText (lines : List String) : String := String.join (lines.map (· ++ "\n"))

/-- How the command is used. -/
def usage : String := linesText
  ["usage: crudgen [-h] [--version] [--controller] [--setup [\x7bapache,nginx\x7d]]",
  "               [--project-root DIR] [--config PATH] [--stubs DIR]",
  "               [--namespace NS] [--no-install] [--dry-run] [-v] [-q]",
  "               SQL_FILE"]

/-- The options in full, with examples. -/
def helpText : String := usage ++ linesText
  ["",
  "crudgen — PHP CRUD Generator.",
  "",
  "Reads a single CREATE TABLE statement and generates a PDO model, repository and (optionally) controller plus deployment scaffolding.",
  "",
  "positional arguments:",
  "  SQL_FILE              Path to the .sql file holding the CREATE TABLE",
  "                        statement.",
  "",
  "options:",
  "  -h, --help            show this help message and exit",
  "  --version             show program's version number and exit",
  "",
  "artifacts:",
  "  --controller          Also generate the controller, database bootstrap and",
  "                        .env.example.",
  "  --setup [\x7bapache,nginx\x7d]",
  "                        Also generate public/index.php and web-server config",
  "                        (default: apache). Implies --controller.",
  "",
  "locations:",
  "  --project-root DIR    Directory generated files are written under (default:",
  "                        cwd).",
  "  --config PATH         Configuration file (YAML or JSON). Defaults to",
  "                        crudgen.yaml in the project root.",
  "  --stubs DIR           Directory with stub overrides.",
  "",
  "configuration overrides:",
  "  --namespace NS        Root PHP namespace (default: App).",
  "  --no-install          Don't run composer to install vlucas/phpdotenv.",
  "  --dry-run             Run the full pipeline but don't write files to disk.",
  "",
  "verbosity:",
  "  -v, --verbose         Increase verbosity (-v for INFO, -vv for DEBUG).",
  "  -q, --quiet           Suppress all output except errors.",
  "",
  "Examples:",
  "  crudgen database/orders.sql",
  "  crudgen database/orders.sql --controller",
  "  crudgen database/orders.sql --setup nginx",
  "  crudgen schema/orders.sql --project-root ../shop --dry-run"]

/-- The version, as shown to the user. -/
def versionText : String := linesText [commandName ++ " v" ++ version]

end Scaffold.CommandLine
