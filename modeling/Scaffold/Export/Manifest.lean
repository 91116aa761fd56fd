import Scaffold.Digest.Sha256
import Scaffold.Markup.Json
import Scaffold.Text.Count

/-!
# The manifest of an export

What was written, file by file, with sizes and digests, and the totals.

* `Manifest.json`: the manifest as JSON text.
-/
namespace Scaffold.Export

/-- A written file. -/
structure FileRecord where
  relativePath : String
  absolutePath : String
  label : String
  bytes : Nat
  lines : Nat
  digest : String
  deriving Repr, DecidableEq

/-- All written files and their totals; in a dry run the files that would be written. -/
structure Manifest where
  projectRoot : String := ""
  dryRun : Bool := false
  totalFiles : Nat := 0
  totalBytes : Nat := 0
  totalLines : Nat := 0
  files : List FileRecord := []
  deriving Repr, DecidableEq

open Markup.Json (Indent quote bracket)

/-- A member of a JSON object. -/
def member (key value : String) : String := quote key ++ ": " ++ value

/-- A written file as JSON text. -/
def FileRecord.json (indent : Indent) (level : Nat) (r : FileRecord) : String :=
  bracket indent level "\x7b" "\x7d"
    [member "relative_path" (quote r.relativePath), member "label" (quote r.label),
      member "size_bytes" (toString r.bytes), member "line_count" (toString r.lines),
      member "sha256" (quote r.digest)]

/-- The manifest as JSON text. -/
def Manifest.json (indent : Indent) (m : Manifest) : String :=
  bracket indent 0 "\x7b" "\x7d"
    [member "project_root" (quote m.projectRoot),
      member "dry_run" (if m.dryRun then "true" else "false"),
      member "total_files" (toString m.totalFiles), member "total_bytes" (toString m.totalBytes),
      member "total_lines" (toString m.totalLines),
      member "files" (bracket indent 1 "[" "]" (m.files.map (FileRecord.json indent 2)))]

end Scaffold.Export
