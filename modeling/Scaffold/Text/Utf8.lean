/-!
# Strict UTF-8

Files hold bytes; a text file is read as UTF-8 without repair. The first malformed sequence is
reported by the bytes it takes: the longest beginning of a well-formed sequence, at least one byte.

* `decode`: the characters of well-formed bytes, or the first malformed sequence.
* `encode`: the bytes of a text.
-/
namespace Scaffold.Text.Utf8

/-- Why a byte sequence is not well-formed. -/
inductive Flaw where
  | badStart
  | badContinuation
  | truncated
  deriving Repr, DecidableEq

/-- The wording of a flaw. -/
def Flaw.reason : Flaw → String
  | .badStart => "invalid start byte"
  | .badContinuation => "invalid continuation byte"
  | .truncated => "unexpected end of data"

/-- A malformed sequence: the first byte, where it stands, and how many bytes are malformed. -/
structure Malformed where
  flaw : Flaw
  byte : UInt8
  position : Nat
  length : Nat
  deriving Repr, DecidableEq

/-- What one sequence at the start of some bytes amounts to. -/
inductive Step where
  | char (c : Char) (length : Nat)
  | malformed (flaw : Flaw) (length : Nat)
  deriving Repr, DecidableEq

/-- The second byte allowed after a first byte of a three- or four-byte sequence: surrogates, overlong
forms and code points beyond the last are excluded here. -/
def secondRange (first : UInt8) : UInt8 × UInt8 :=
  if first = 0xe0 then (0xa0, 0xbf)
  else if first = 0xed then (0x80, 0x9f)
  else if first = 0xf0 then (0x90, 0xbf)
  else if first = 0xf4 then (0x80, 0x8f)
  else (0x80, 0xbf)

/-- Whether a byte may continue a sequence. -/
def isContinuation (b : UInt8) : Bool := 0x80 ≤ b && b ≤ 0xbf

/-- How many bytes a first byte announces; none for a byte that starts no sequence. -/
def announced (first : UInt8) : Option Nat :=
  if first < 0x80 then some 1
  else if 0xc2 ≤ first && first ≤ 0xdf then some 2
  else if 0xe0 ≤ first && first ≤ 0xef then some 3
  else if 0xf0 ≤ first && first ≤ 0xf4 then some 4
  else none

/-- How many of the bytes after `first` can continue its sequence, at most `wanted`. -/
def accepted (first : UInt8) (wanted : Nat) (rest : List UInt8) : Nat :=
  match rest with
  | [] => 0
  | b :: more =>
    let (low, high) := secondRange first
    if wanted = 0 then 0
    else if low ≤ b && b ≤ high then 1 + ((more.take (wanted - 1)).takeWhile isContinuation).length
    else 0

/-- The code point of a complete sequence. -/
def codePoint (first : UInt8) (length : Nat) (rest : List UInt8) : Nat :=
  let head := if length = 1 then first.toNat else first.toNat % Nat.pow 2 (7 - length)
  (rest.take (length - 1)).foldl (fun n b => n * 64 + b.toNat % 64) head

/-- Reads one sequence. -/
def step (first : UInt8) (rest : List UInt8) : Step :=
  match announced first with
  | none => .malformed .badStart 1
  | some length =>
    let found := accepted first (length - 1) rest
    if found = length - 1 then .char (Char.ofNat (codePoint first length rest)) length
    else if found = rest.length then .malformed .truncated (1 + found)
    else .malformed .badContinuation (1 + found)

/-- The characters of the bytes from `position` on; `skip` bytes belong to the character before. -/
def decodeFrom (position skip : Nat) : List UInt8 → Except Malformed (List Char)
  | [] => .ok []
  | b :: rest =>
    match skip with
    | n + 1 => decodeFrom (position + 1) n rest
    | 0 =>
      match step b rest with
      | .char c length => (decodeFrom (position + 1) (length - 1) rest).map (c :: ·)
      | .malformed flaw length => .error ⟨flaw, b, position, length⟩

/-- The characters of a byte sequence, or its first malformed part. -/
def decode (bytes : List UInt8) : Except Malformed (List Char) := decodeFrom 0 0 bytes

/-- The bytes of a text. -/
def encode (s : String) : ByteArray := s.toUTF8

end Scaffold.Text.Utf8
