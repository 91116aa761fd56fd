import Scaffold.Text.CaseTable
import Scaffold.Text.CasedTable

/-!
# Letter case

Upper and lower case by the full mappings, where one letter may become several, and the comparison of a
character with an ASCII letter that ignores case.

* `upper`, `lower`: a text in upper or lower case; a sigma at the end of a word has a lower case of its own.
-/
namespace Scaffold.Text

/-- Whether the run holds the code point. -/
def CaseRun.covers (run : CaseRun) (n : Nat) : Bool :=
  run.first ≤ n && n ≤ run.last && (n - run.first) % run.step == 0

/-- The letters that `c` becomes under a case mapping given by its two tables. -/
def mapCase (expansions : List (Nat × List Nat)) (runs : List CaseRun) (c : Char) : List Char :=
  match expansions.lookup c.toNat with
  | some letters => letters.map Char.ofNat
  | none =>
    match runs.find? (·.covers c.toNat) with
    | some run => [Char.ofNat (c.toNat + run.shift).toNat]
    | none => [c]

/-- The upper case of a character, one or more letters. -/
def upperChar (c : Char) : List Char :=
  if c.toNat < 0x80 then [c.toUpper] else mapCase upperExpansions upperRuns c

/-- The lower case of a character that stands alone, one or more letters. -/
def lowerChar (c : Char) : List Char :=
  if c.toNat < 0x80 then [c.toLower] else mapCase lowerExpansions lowerRuns c

/-- A text in upper case. -/
def upper (cs : List Char) : List Char := cs.flatMap upperChar

/-- Whether a character is passed over in looking for the end of a word. -/
def isPassed (c : Char) : Bool := passedRanges.covers c.toNat

/-- Whether a character is a letter with case. -/
def isCased (c : Char) : Bool := casedRanges.covers c.toNat

/-- Whether a letter with case comes next, some characters being passed over. -/
def wordGoesOn (cs : List Char) : Bool := (cs.find? fun c => !isPassed c).any isCased

/-- A text in lower case; `inWord` tells whether a letter with case stands before it. -/
def lowerFrom (inWord : Bool) : List Char → List Char
  | [] => []
  | c :: cs =>
    (if c = 'Σ' then [if inWord && !wordGoesOn cs then 'ς' else 'σ'] else lowerChar c) ++
      lowerFrom (if isPassed c then inWord else isCased c) cs

/-- A text in lower case. -/
def lower (cs : List Char) : List Char := lowerFrom false cs

/-- Letters beyond ASCII that count as an ASCII letter when case is ignored. -/
def foldedLetters : List (Char × Char) :=
  [('\u0130', 'i'), ('\u0131', 'i'), ('\u017f', 's'), ('\u212a', 'k')]

/-- The ASCII lower-case letter that a character counts as when case is ignored, if it is not the
character itself. -/
def foldChar (c : Char) : Char := (foldedLetters.lookup c).getD c.toLower

/-- Whether a text begins with an ASCII keyword, case ignored; the rest if it does. -/
def keyword? : List Char → List Char → Option (List Char)
  | [], cs => some cs
  | _ :: _, [] => none
  | k :: ks, c :: cs => if foldChar c = k.toLower then keyword? ks cs else none

end Scaffold.Text
