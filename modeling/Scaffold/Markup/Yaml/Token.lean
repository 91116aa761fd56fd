import Scaffold.Markup.Number
import Scaffold.Text.Utf8

/-!
# The tokens of a YAML text

A YAML text is cut into tokens. Indentation opens and closes block collections, so the tokens for that are
put in between; a simple key is only known when its colon is found, and its token is then put in front
of it. The text is read no further than it must be to know the next token.

* `Scanner.ofText`: where the reading of a text begins.
* `tokenAt`: the token with some number.
-/
namespace Scaffold.Markup.Yaml

/-- The tokens. A tag has a handle, unless it is given in full. -/
inductive Token where
  | yamlDirective (major : Nat)
  | tagDirective (handle tagStart : String)
  | otherDirective
  | documentStart
  | documentEnd
  | blockSequenceStart
  | blockMappingStart
  | blockEnd
  | flowSequenceStart
  | flowSequenceEnd
  | flowMappingStart
  | flowMappingEnd
  | blockEntry
  | flowEntry
  | key
  | value
  | aliasOf (anchor : String)
  | anchor (name : String)
  | tag (handle : Option String) (rest : String)
  | scalar (text : String) (plain : Bool)
  deriving Repr, DecidableEq, Inhabited

/-- A place where a simple key may have started: before which token, where, and whether a key must follow. -/
structure SimpleKey where
  token : Nat
  required : Bool
  index : Nat
  line : Nat
  column : Nat
  deriving Repr

/-- What is left of the text, where it stands, and what was found so far. Indentations are counted from one,
zero being outside of all blocks. The length of the whole text bounds every loop. -/
structure Scanner where
  text : List Char
  size : Nat
  index : Nat := 0
  line : Nat := 0
  column : Nat := 0
  indent : Nat := 0
  indents : List Nat := []
  flowLevel : Nat := 0
  allowKey : Bool := true
  keys : List (Nat × SimpleKey) := []
  tokens : Array Token := #[]
  done : Bool := false

/-- A step of the scanner. -/
abbrev Scan := StateT Scanner (Except Fault)

/-- Refuses the text. -/
def refuse {α : Type} (detail : String) : Scan α := fun s =>
  .error (.malformed ("line " ++ toString (s.line + 1) ++ ": " ++ detail))

/-- The character some places ahead, null at the end. -/
def Scanner.ahead (s : Scanner) (n : Nat) : Char := s.text.getD n '\x00'

/-- Whether a character ends a line. -/
def isBreak (c : Char) : Bool :=
  c == '\r' || c == '\n' || c == '\u0085' || c == '\u2028' || c == '\u2029'

/-- Whether a character ends a line or the text. -/
def isLineEnd (c : Char) : Bool := c == '\x00' || isBreak c

/-- Whether a character is a space or ends a line or the text. -/
def isSpaceOrEnd (c : Char) : Bool := c == ' ' || isLineEnd c

/-- Whether a character is a space or tab or ends a line or the text. -/
def isBlankOrEnd (c : Char) : Bool := c == '\t' || isSpaceOrEnd c

/-- Whether a character may stand in the name of an anchor, a directive or a tag handle. -/
def isNameChar (c : Char) : Bool := c.isAlphanum || c == '-' || c == '_'

/-- The scanner one character further. -/
def Scanner.advance (s : Scanner) : Scanner :=
  match s.text with
  | [] => s
  | c :: rest =>
    let newLine := c != '\r' && isBreak c || c == '\r' && rest.head? != some '\n'
    { s with
      text := rest
      index := s.index + 1
      line := if newLine then s.line + 1 else s.line
      column := if newLine then 0 else if c = '\ufeff' then s.column else s.column + 1 }

/-- The scanner some characters further. -/
def Scanner.advanceBy : Nat → Scanner → Scanner
  | 0, s => s
  | n + 1, s => Scanner.advanceBy n s.advance

/-- The character some places ahead. -/
def peek (n : Nat := 0) : Scan Char := fun s => .ok (s.ahead n, s)

/-- Goes some characters further. -/
def forward (n : Nat := 1) : Scan Unit := modify (Scanner.advanceBy n)

/-- Takes the characters at the start that satisfy `p`. -/
def takeWhile (p : Char → Bool) : Scan (List Char) := fun s =>
  let taken := s.text.takeWhile p
  .ok (taken, s.advanceBy taken.length)

/-- Adds a token. -/
def emit (t : Token) : Scan Unit := modify fun s => { s with tokens := s.tokens.push t }

/-- Takes a line end, if there is one; it is written as a line feed unless it is one of the two separators. -/
def lineBreak : Scan (List Char) := do
  let c ← peek
  if c = '\r' ∧ (← peek 1) = '\n' then
    forward 2
    return ['\n']
  else if c = '\r' ∨ c = '\n' ∨ c = '\u0085' then
    forward
    return ['\n']
  else if isBreak c then
    forward
    return [c]
  else return []

/-- Whether the text goes on with the mark that starts or ends a document. -/
def Scanner.atDocumentMark (s : Scanner) : Bool :=
  (['-', '-', '-'].isPrefixOf s.text || ['.', '.', '.'].isPrefixOf s.text) && isBlankOrEnd (s.ahead 3)

/-! ## Simple keys and indentation -/

/-- Whether a key that has not found its colon is out of reach. -/
def SimpleKey.isStale (k : SimpleKey) (s : Scanner) : Bool :=
  k.line != s.line || s.index - k.index > 1024

/-- Drops the keys that are out of reach; one that must be a key is an error. -/
def dropStaleKeys : Scan Unit := do
  let s ← get
  if s.keys.any fun entry => entry.2.isStale s && entry.2.required then
    refuse "could not find expected ':'"
  else set { s with keys := s.keys.filter fun entry => !entry.2.isStale s }

/-- Drops the possible key of this flow level. -/
def dropKey : Scan Unit := do
  let s ← get
  if s.keys.any fun entry => entry.1 == s.flowLevel && entry.2.required then
    refuse "could not find expected ':'"
  else set { s with keys := s.keys.filter fun entry => entry.1 != s.flowLevel }

/-- Remembers that a simple key may start here. -/
def saveKey : Scan Unit := do
  let s ← get
  if s.allowKey then
    dropKey
    let k : SimpleKey := {
      token := s.tokens.size
      required := s.flowLevel == 0 && s.indent == s.column + 1
      index := s.index
      line := s.line
      column := s.column }
    modify fun s => { s with keys := (s.flowLevel, k) :: s.keys }

/-- Allows or forbids a simple key at what follows. -/
def setAllowKey (allow : Bool) : Scan Unit := modify fun s => { s with allowKey := allow }

/-- Closes the blocks that are indented deeper than `indent`. -/
def closeBlocks (indent : Nat) : Nat → Scanner → Scanner
  | 0, s => s
  | fuel + 1, s =>
    if s.indent > indent then
      closeBlocks indent fuel { s with
        indent := s.indents.headD 0
        indents := s.indents.drop 1
        tokens := s.tokens.push .blockEnd }
    else s

/-- Closes the blocks that are indented deeper than `indent`; inside of flow collections indentation has
no meaning. -/
def unwind (indent : Nat) : Scan Unit := modify fun s =>
  if s.flowLevel > 0 then s else closeBlocks indent (s.indents.length + 1) s

/-- Opens a block at a column unless it is open already; answers whether it was opened. -/
def openBlock (column : Nat) : Scan Bool := do
  let s ← get
  if s.indent < column + 1 then
    set { s with indent := column + 1, indents := s.indent :: s.indents }
    return true
  else return false

/-! ## Scalars -/

/-- Takes spaces and a comment up to the end of the line. -/
def skipToLineEnd : Scan Unit := do
  let _ ← takeWhile (· == ' ')
  if (← peek) = '#' then
    let _ ← takeWhile fun c => !isLineEnd c
  if isLineEnd (← peek) then
    let _ ← lineBreak
  else refuse "expected a comment or a line end"

/-- The line ends inside a quoted scalar. -/
def quotedBreaks : Nat → Scan (List Char)
  | 0 => return []
  | fuel + 1 => do
    if (← get).atDocumentMark then refuse "found unexpected document separator"
    let _ ← takeWhile fun c => c == ' ' || c == '\t'
    if isBreak (← peek) then
      let b ← lineBreak
      return b ++ (← quotedBreaks fuel)
    else return []

/-- How line ends inside a scalar are read: one as a space, several as all but the first. -/
def folded (first breaks : List Char) : List Char :=
  (if first != ['\n'] then first else if breaks.isEmpty then [' '] else []) ++ breaks

/-- The blanks inside a quoted scalar. -/
def quotedBlanks : Scan (List Char) := do
  let blanks ← takeWhile fun c => c == ' ' || c == '\t'
  let c ← peek
  if c = '\x00' then refuse "found unexpected end of text in a quoted scalar"
  else if isBreak c then
    let first ← lineBreak
    let breaks ← quotedBreaks ((← get).size + 1)
    return folded first breaks
  else return blanks

/-- The escapes of one character. -/
def shortEscapes : List (Char × Char) :=
  [('0', '\x00'), ('a', '\x07'), ('b', '\x08'), ('t', '\t'), ('\t', '\t'), ('n', '\n'), ('v', '\x0b'),
    ('f', '\x0c'), ('r', '\r'), ('e', '\x1b'), (' ', ' '), ('"', '"'), ('\\', '\\'), ('/', '/'),
    ('N', '\u0085'), ('_', '\u00a0'), ('L', '\u2028'), ('P', '\u2029')]

/-- The escapes by number, with the count of their digits. -/
def numberEscapes : List (Char × Nat) := [('x', 2), ('u', 4), ('U', 8)]

/-- Whether a character is a hexadecimal digit. -/
def isHex (c : Char) : Bool := digitValue c < 16

/-- The second half of a pair of escapes, if one follows. -/
def lowHalf? : List Char → Option Nat
  | '\\' :: 'u' :: rest =>
    let digits := rest.take 4
    let n := natOfDigits 16 digits
    if digits.length = 4 ∧ digits.all isHex ∧ 0xdc00 ≤ n ∧ n ≤ 0xdfff then some n else none
  | _ => none

/-- A character by its number in hexadecimal digits. Two halves stand for one character; one alone is
replaced. -/
def numberedChar (count : Nat) : Scan (List Char) := do
  let digits := (← get).text.take count
  if digits.length < count ∨ !digits.all isHex then refuse "expected hexadecimal digits"
  else
    let n := natOfDigits 16 digits
    if n > 0x7fffffff then fun _ => .error (.unreadable .hugeCodePoint)
    else if n > 0x10ffff then fun _ => .error (.unreadable .noCodePoint)
    else
      forward count
      if 0xd800 ≤ n ∧ n ≤ 0xdbff then
        match lowHalf? (← get).text with
        | some m =>
          forward 6
          return [Char.ofNat (0x10000 + (n - 0xd800) * 0x400 + (m - 0xdc00))]
        | none => return ['\ufffd']
      else return [if 0xdc00 ≤ n ∧ n ≤ 0xdfff then '\ufffd' else Char.ofNat n]

/-- What an escape in double quotes stands for. -/
def escape : Scan (List Char) := do
  forward
  let c ← peek
  match shortEscapes.lookup c, numberEscapes.lookup c with
  | some d, _ =>
    forward
    return [d]
  | none, some count =>
    forward
    numberedChar count
  | none, none =>
    if isBreak c then
      let _ ← lineBreak
      quotedBreaks ((← get).size + 1)
    else refuse "found unknown escape character"

/-- The characters of a quoted scalar up to a blank or the closing quote. -/
def quotedText (double : Bool) : Nat → Scan (List Char)
  | 0 => return []
  | fuel + 1 => do
    let run ← takeWhile fun c => !(c == '\'' || c == '"' || c == '\\' || isBlankOrEnd c)
    let c ← peek
    if !double && c == '\'' && (← peek 1) == '\'' then
      forward 2
      return run ++ ['\''] ++ (← quotedText double fuel)
    else if double && c == '\'' || !double && (c == '"' || c == '\\') then
      forward
      return run ++ [c] ++ (← quotedText double fuel)
    else if double && c == '\\' then
      let found ← escape
      return run ++ found ++ (← quotedText double fuel)
    else return run

/-- The parts of a quoted scalar up to the closing quote. -/
def quotedParts (quote : Char) : Nat → Scan (List Char)
  | 0 => refuse "found unexpected end of text in a quoted scalar"
  | fuel + 1 => do
    if (← peek) = quote then return []
    else
      let blanks ← quotedBlanks
      let text ← quotedText (quote == '"') ((← get).size + 1)
      return blanks ++ text ++ (← quotedParts quote fuel)

/-- A quoted scalar. -/
def quotedScalar : Scan Token := do
  let quote ← peek
  forward
  let start ← quotedText (quote == '"') ((← get).size + 1)
  let rest ← quotedParts quote ((← get).size + 1)
  forward
  return .scalar (.ofList (start ++ rest)) false

/-- The line ends inside a plain scalar, none if a document mark follows one. -/
def plainBreaks : Nat → Scan (Option (List Char))
  | 0 => return some []
  | fuel + 1 => do
    let _ ← takeWhile (· == ' ')
    if isBreak (← peek) then
      let b ← lineBreak
      if (← get).atDocumentMark then return none
      else return (← plainBreaks fuel).map (b ++ ·)
    else return some []

/-- The blanks inside a plain scalar, none if the scalar ends here. -/
def plainBlanks : Scan (List Char) := do
  let blanks ← takeWhile (· == ' ')
  if isBreak (← peek) then
    let first ← lineBreak
    setAllowKey true
    if (← get).atDocumentMark then return []
    else
      match ← plainBreaks ((← get).size + 1) with
      | none => return []
      | some breaks => return folded first breaks
  else return blanks

/-- The length of the part of a plain scalar at the start of a text. -/
def plainLength (flow : Bool) : List Char → Nat
  | [] => 0
  | c :: rest =>
    let next := rest.headD '\x00'
    if isBlankOrEnd c then 0
    else if c = ':' ∧ (isBlankOrEnd next ∨ (flow ∧ [',', '[', ']', '\x7b', '\x7d'].contains next)) then 0
    else if flow ∧ [',', '?', '[', ']', '\x7b', '\x7d'].contains c then 0
    else 1 + plainLength flow rest

/-- The parts of a plain scalar; `blanks` stand before the next one. -/
def plainParts (indent : Nat) (blanks : List Char) : Nat → Scan (List Char)
  | 0 => return []
  | fuel + 1 => do
    let s ← get
    let flow := s.flowLevel > 0
    let length := plainLength flow s.text
    if s.ahead 0 = '#' ∨ length = 0 then return []
    else
      let part := s.text.take length
      setAllowKey false
      forward length
      let next ← plainBlanks
      let s ← get
      if next.isEmpty ∨ s.ahead 0 = '#' ∨ (!flow ∧ s.column < indent) then return blanks ++ part
      else return blanks ++ part ++ (← plainParts indent next fuel)

/-- A plain scalar. -/
def plainScalar : Scan Token := do
  let s ← get
  return .scalar (.ofList (← plainParts s.indent [] (s.size + 1))) true

/-- The signs after the mark of a block scalar: whether line ends at its end are kept or dropped, and its
indentation. -/
def blockSigns : Scan (Option Bool × Option Nat) := do
  let keepOf (c : Char) : Option Bool := if c = '+' then some true else if c = '-' then some false else none
  let indentOf (c : Char) : Option Nat := if c.isDigit then some (digitValue c) else none
  let first ← peek
  let second ← peek 1
  let found ← match keepOf first, indentOf first with
    | some keep, _ =>
      match indentOf second with
      | some n => do
        forward 2
        pure (some keep, some n)
      | none => do
        forward
        pure (some keep, none)
    | none, some n =>
      match keepOf second with
      | some keep => do
        forward 2
        pure (some keep, some n)
      | none => do
        forward
        pure (none, some n)
    | none, none => pure (none, none)
  if found.2 = some 0 then refuse "expected an indentation from 1 to 9"
  else if isSpaceOrEnd (← peek) then return found
  else refuse "expected signs for chomping or indentation"

/-- Takes spaces up to a column. -/
def spacesUpTo (column : Nat) : Scan Unit := do
  let s ← get
  let count := (s.text.takeWhile (· == ' ')).length
  forward (min count (column - s.column))

/-- The line ends before the first line of a block scalar, and its indentation. -/
def blockStart (deepest : Nat) : Nat → Scan (List (List Char) × Nat)
  | 0 => return ([], deepest)
  | fuel + 1 => do
    let _ ← takeWhile (· == ' ')
    let deepest := max deepest (← get).column
    if isBreak (← peek) then
      let b ← lineBreak
      let (breaks, deepest) ← blockStart deepest fuel
      return (b :: breaks, deepest)
    else return ([], deepest)

/-- The line ends between two lines of a block scalar. -/
def blockBreaks (indent : Nat) : Nat → Scan (List (List Char))
  | 0 => return []
  | fuel + 1 => do
    spacesUpTo indent
    if isBreak (← peek) then
      let b ← lineBreak
      return b :: (← blockBreaks indent fuel)
    else return []

/-- Whether a character is a space or a tab. -/
def isSpaceOrTab (c : Char) : Bool := c == ' ' || c == '\t'

/-- The lines of a block scalar, the line end after the last one, and those behind it. -/
def blockLines (fold : Bool) (indent : Nat) (breaks : List (List Char)) :
    Nat → Scan (List Char × List Char × List (List Char))
  | 0 => return ([], [], breaks)
  | fuel + 1 => do
    let s ← get
    if s.column = indent ∧ s.ahead 0 ≠ '\x00' then
      let leading := !isSpaceOrTab (s.ahead 0)
      let line ← takeWhile fun c => !isLineEnd c
      let b ← lineBreak
      let next ← blockBreaks indent ((← get).size + 1)
      let s ← get
      if s.column = indent ∧ s.ahead 0 ≠ '\x00' then
        let between :=
          if fold && b == ['\n'] && leading && !isSpaceOrTab (s.ahead 0) then
            if next.isEmpty then [' '] else []
          else b
        let (rest, lastBreak, tail) ← blockLines fold indent next fuel
        return (breaks.flatten ++ line ++ between ++ rest, lastBreak, tail)
      else return (breaks.flatten ++ line, b, next)
    else return ([], [], breaks)

/-- A block scalar. -/
def blockScalar (fold : Bool) : Scan Token := do
  forward
  let (keep, increment) ← blockSigns
  skipToLineEnd
  let s ← get
  let least := max s.indent 1
  let (breaks, indent) ← match increment with
    | none => do
      let (breaks, deepest) ← blockStart 0 (s.size + 1)
      pure (breaks, max least deepest)
    | some n => do
      let indent := least + n - 1
      pure (← blockBreaks indent (s.size + 1), indent)
  let (lines, lastBreak, tail) ← blockLines fold indent breaks (s.size + 1)
  let text :=
    lines ++ (if keep = some false then [] else lastBreak) ++
      (if keep = some true then tail.flatten else [])
  return .scalar (.ofList text) false

/-! ## Anchors, tags and directives -/

/-- The name of an anchor. -/
def anchorName : Scan String := do
  forward
  let name ← takeWhile isNameChar
  if name.isEmpty then refuse "expected the name of an anchor"
  else
    let c ← peek
    if isBlankOrEnd c ∨ ['?', ':', ',', ']', '\x7d', '%', '@', '`'].contains c then
      return .ofList name
    else refuse "unexpected character in the name of an anchor"

/-- Whether a character may stand in a tag. -/
def isUriChar (c : Char) : Bool := c.isAlphanum || "-;/?:@&=+$,_.!~*'()[]%".toList.contains c

/-- The bytes of escapes in a tag. -/
def uriBytes : Nat → Scan (List UInt8)
  | 0 => return []
  | fuel + 1 => do
    if (← peek) = '%' then
      forward
      let digits := (← get).text.take 2
      if digits.length < 2 ∨ !digits.all isHex then refuse "expected two hexadecimal digits in a tag"
      else
        forward 2
        return UInt8.ofNat (natOfDigits 16 digits) :: (← uriBytes fuel)
    else return []

/-- The parts of a tag. -/
def uriParts : Nat → Scan (List Char)
  | 0 => return []
  | fuel + 1 => do
    let run ← takeWhile fun c => isUriChar c && c != '%'
    if (← peek) = '%' then
      let bytes ← uriBytes ((← get).size + 1)
      match Text.Utf8.decode bytes with
      | .error _ => refuse "malformed escape in a tag"
      | .ok cs => return run ++ cs ++ (← uriParts fuel)
    else return run

/-- A tag without its handle. -/
def uri : Scan String := do
  let cs ← uriParts ((← get).size + 1)
  if cs.isEmpty then refuse "expected a tag" else return .ofList cs

/-- The handle of a tag. -/
def tagHandle : Scan String := do
  if (← peek) ≠ '!' then refuse "expected '!'"
  forward
  if (← peek) = ' ' then return "!"
  else
    let name ← takeWhile isNameChar
    if (← peek) = '!' then
      forward
      return .ofList (['!'] ++ name ++ ['!'])
    else refuse "expected '!'"

/-- A tag. -/
def tagToken : Scan Token := do
  let c ← peek 1
  let found ← if c = '<' then do
      forward 2
      let rest ← uri
      if (← peek) ≠ '>' then refuse "expected '>'"
      forward
      pure (Token.tag none rest)
    else if isBlankOrEnd c then do
      forward
      pure (Token.tag none "!")
    else do
      let word := ((← get).text.drop 1).takeWhile fun c => !isSpaceOrEnd c
      if word.contains '!' then
        let handle ← tagHandle
        pure (Token.tag (some handle) (← uri))
      else
        forward
        pure (Token.tag (some "!") (← uri))
  if isSpaceOrEnd (← peek) then return found else refuse "expected a space after a tag"

/-- A number of a version. -/
def versionNumber : Scan Nat := do
  let digits ← takeWhile Char.isDigit
  if digits.isEmpty then refuse "expected a digit"
  else
    match decimal digits with
    | .ok n => return n
    | .error flaw => fun _ => .error (.unreadable flaw)

/-- A directive. -/
def directive : Scan Token := do
  forward
  let name ← takeWhile isNameChar
  if name.isEmpty ∨ !isSpaceOrEnd (← peek) then refuse "expected the name of a directive"
  let found ← if name = "YAML".toList then do
      let _ ← takeWhile (· == ' ')
      let major ← versionNumber
      if (← peek) ≠ '.' then refuse "expected '.'"
      forward
      let _ ← versionNumber
      if !isSpaceOrEnd (← peek) then refuse "expected a space after a version"
      pure (Token.yamlDirective major)
    else if name = "TAG".toList then do
      let _ ← takeWhile (· == ' ')
      let handle ← tagHandle
      if (← peek) ≠ ' ' then refuse "expected a space after a handle"
      let _ ← takeWhile (· == ' ')
      let start ← uri
      if !isSpaceOrEnd (← peek) then refuse "expected a space after a tag"
      pure (Token.tagDirective handle start)
    else do
      let _ ← takeWhile fun c => !isLineEnd c
      pure Token.otherDirective
  skipToLineEnd
  return found

/-! ## The next token -/

/-- Takes spaces, comments and line ends; in a block a key may follow a line end. -/
def skipToToken : Nat → Scan Unit
  | 0 => return ()
  | fuel + 1 => do
    let _ ← takeWhile (· == ' ')
    if (← peek) = '#' then
      let _ ← takeWhile fun c => !isLineEnd c
    if (← lineBreak).isEmpty then return ()
    else
      if (← get).flowLevel = 0 then setAllowKey true
      skipToToken fuel

/-- A token of one character after which a simple key may follow or not. -/
def single (t : Token) (allowKey : Bool) : Scan Unit := do
  setAllowKey allowKey
  forward
  emit t

/-- The start of a flow collection. -/
def openFlow (t : Token) : Scan Unit := do
  saveKey
  modify fun s => { s with flowLevel := s.flowLevel + 1 }
  single t true

/-- The end of a flow collection. -/
def closeFlow (t : Token) : Scan Unit := do
  dropKey
  modify fun s => { s with flowLevel := s.flowLevel - 1 }
  single t false

/-- Opens a block here for an entry or a key, where one may stand. -/
def blockHere (start : Token) (detail : String) : Scan Unit := do
  let s ← get
  if s.flowLevel = 0 then
    if !s.allowKey then refuse detail
    if ← openBlock s.column then emit start

/-- The mark of an entry. -/
def entryMark : Scan Unit := do
  blockHere .blockSequenceStart "sequence entries are not allowed here"
  dropKey
  single .blockEntry true

/-- The mark of a key. -/
def keyMark : Scan Unit := do
  blockHere .blockMappingStart "mapping keys are not allowed here"
  dropKey
  single .key ((← get).flowLevel = 0)

/-- The mark of a value; if a simple key may have started before, it has. -/
def valueMark : Scan Unit := do
  let s ← get
  match s.keys.lookup s.flowLevel with
  | some k =>
    set { s with
      keys := s.keys.filter fun entry => entry.1 != s.flowLevel
      tokens := s.tokens.insertIdxIfInBounds k.token .key }
    if s.flowLevel = 0 then
      if ← openBlock k.column then
        modify fun s => { s with tokens := s.tokens.insertIdxIfInBounds k.token .blockMappingStart }
    single .value false
  | none =>
    blockHere .blockMappingStart "mapping values are not allowed here"
    dropKey
    single .value (s.flowLevel = 0)

/-- A token that may be a simple key. -/
def keyable (token : Scan Token) : Scan Unit := do
  saveKey
  setAllowKey false
  emit (← token)

/-- A mark that belongs to no block. -/
def outermost (token : Scan Token) : Scan Unit := do
  unwind 0
  dropKey
  setAllowKey false
  emit (← token)

/-- Whether a plain scalar may start here. -/
def Scanner.atPlain (s : Scanner) : Bool :=
  let c := s.ahead 0
  let special := "-?:,[]#&*!|>'\"%@`".toList ++ ['\x7b', '\x7d']
  !(isBlankOrEnd c || special.contains c) ||
    (!isBlankOrEnd (s.ahead 1) && (c == '-' || s.flowLevel == 0 && (c == '?' || c == ':')))

/-- Takes the next token, if there is one. -/
def next : Scan Unit := do
  skipToToken ((← get).size + 1)
  dropStaleKeys
  unwind ((← get).column + 1)
  let s ← get
  let c := s.ahead 0
  let gap := isBlankOrEnd (s.ahead 1)
  let flow := s.flowLevel > 0
  if c = '\x00' then
    unwind 0
    dropKey
    modify fun s => { s with done := true }
  else if c = '%' && s.column = 0 then outermost directive
  else if s.column = 0 && s.atDocumentMark then
    outermost do
      forward 3
      return if c = '-' then .documentStart else .documentEnd
  else if c = '[' then openFlow .flowSequenceStart
  else if c = '\x7b' then openFlow .flowMappingStart
  else if c = ']' then closeFlow .flowSequenceEnd
  else if c = '\x7d' then closeFlow .flowMappingEnd
  else if c = ',' then
    dropKey
    single .flowEntry true
  else if c = '-' && gap then entryMark
  else if c = '?' && (flow || gap) then keyMark
  else if c = ':' && (flow || gap) then valueMark
  else if c = '*' then keyable (return .aliasOf (← anchorName))
  else if c = '&' then keyable (return .anchor (← anchorName))
  else if c = '!' then keyable tagToken
  else if (c = '|' || c = '>') && !flow then
    setAllowKey true
    dropKey
    emit (← blockScalar (c == '>'))
  else if c = '\'' || c = '"' then keyable quotedScalar
  else if s.atPlain then keyable plainScalar
  else refuse "found a character that cannot start any token"

/-- Whether the token with some number is not known yet: it is not there, or a key may start with it. -/
def isUnknown (number : Nat) : Scan Bool := do
  let s ← get
  if s.done then return false
  else if s.tokens.size ≤ number then return true
  else
    dropStaleKeys
    return (← get).keys.any fun entry => entry.2.token == number

/-- Takes tokens until the one with some number is known. -/
def scanTo (number : Nat) : Nat → Scan Unit
  | 0 => return ()
  | fuel + 1 => do
    if ← isUnknown number then
      next
      scanTo number fuel
    else return ()

/-- The token with some number, if there are so many. -/
def tokenAt (number : Nat) : Scan (Option Token) := do
  scanTo number ((← get).size + 2)
  return (← get).tokens[number]?

/-- Whether a character may stand in a YAML text. -/
def isAllowed (c : Char) : Bool :=
  let n := c.toNat
  n == 0x9 || n == 0xa || n == 0xd || 0x20 ≤ n && n ≤ 0x7e || n == 0x85 ||
    0xa0 ≤ n && n ≤ 0xfffd || 0x10000 ≤ n

/-- Where the reading of a text begins. A byte order mark at its start is skipped. -/
def Scanner.ofText (cs : List Char) : Except Fault Scanner :=
  if !cs.all isAllowed then .error (.malformed "special characters are not allowed")
  else
    let start : Scanner := { text := cs, size := cs.length }
    .ok (if cs.head? = some '\ufeff' then start.advance else start)

end Scaffold.Markup.Yaml
