/-!
# Counting lines
-/
namespace Scaffold.Text

/-- The number of lines of a text: a last line counts even without its line feed, if it is not empty. -/
def countLines (s : String) : Nat :=
  let cs := s.toList
  if cs.isEmpty then 0 else cs.count '\n' + (if cs.getLast? = some '\n' then 0 else 1)

end Scaffold.Text
