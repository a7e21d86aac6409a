import RepoWitness.SourceIdentity
import RepoWitness.Utf8Text

namespace RepoWitness

/-!
# Ranges of a SCIP document

A range is given by lines and characters of the exact source.  Its positions
are turned into byte offsets with the encoding that the document declares.
-/

inductive ScipWireError where
  | sourceNotUtf8
  | invalidSourceRange
  deriving DecidableEq

inductive ScipWirePositionEncoding where
  | utf8
  | utf16
  | utf32
  deriving DecidableEq

/-- A zero-based source position. -/
structure ScipWireSourcePosition where
  line : Nat
  character : Nat
  deriving DecidableEq

structure ScipWireSourceRange where
  start : ScipWireSourcePosition
  stop : ScipWireSourcePosition
  deriving DecidableEq

namespace Text

def splitInclusive (terminator : Char) : Text → List Text
  | [] => []
  | first :: rest =>
    if first = terminator then
      [first] :: splitInclusive terminator rest
    else
      match splitInclusive terminator rest with
      | [] => [[first]]
      | line :: lines => (first :: line) :: lines

/-- A line without its terminator. -/
def stripTerminator (line : Text) : Text :=
  ((stripSuffix ['\r', '\n'] line).or (stripSuffix ['\n'] line)).getD line

end Text

/-- The loop of `source_line`; `terminated` tells that the source ends with a newline. -/
def sourceLineFrom (terminated : Bool) (requested : Nat) :
    Nat → Nat → List Text → Except ScipWireError (Nat × Text)
  | index, start, [] =>
    if terminated ∧ requested = index then .ok (start, []) else .error .invalidSourceRange
  | index, start, line :: lines =>
    if index = requested then
      .ok (start, Text.stripTerminator line)
    else
      sourceLineFrom terminated requested (index + 1) (start + Text.byteLength line) lines

def sourceLine (source : Text) (requested : Nat) : Except ScipWireError (Nat × Text) :=
  if source = [] then
    if requested = 0 then .ok (0, source) else .error .invalidSourceRange
  else
    sourceLineFrom (source.getLast? = some '\n') requested 0 0 (Text.splitInclusive '\n' source)

/-- The loop of `unit_offset_to_byte_offset` over the characters that are left. -/
def unitOffsetFrom (unitCount : Char → Nat) (requested : Nat) :
    Nat → Nat → Text → Except ScipWireError Nat
  | units, offset, [] => if units = requested then .ok offset else .error .invalidSourceRange
  | units, offset, character :: rest =>
    if units = requested then
      .ok offset
    else if requested < units + unitCount character then
      .error .invalidSourceRange
    else
      unitOffsetFrom unitCount requested (units + unitCount character)
        (offset + character.utf8Size) rest

def unitOffsetToByteOffset (unitCount : Char → Nat) (line : Text) (requested : Nat) :
    Except ScipWireError Nat :=
  unitOffsetFrom unitCount requested 0 0 line

def lenUtf16 (character : Char) : Nat := if character.toNat < 0x10000 then 1 else 2

def lineCharacterToByteOffset (line : Text) (character : Nat) :
    ScipWirePositionEncoding → Except ScipWireError Nat
  | .utf8 =>
    if Text.byteLength line < character ∨ ¬Text.isCharBoundary line character then
      .error .invalidSourceRange
    else
      .ok character
  | .utf16 => unitOffsetToByteOffset lenUtf16 line character
  | .utf32 => unitOffsetToByteOffset (fun _ => 1) line character

def sourcePositionToByteOffset (source : Text) (position : ScipWireSourcePosition)
    (encoding : ScipWirePositionEncoding) : Except ScipWireError Nat := do
  let (lineStart, line) ← sourceLine source position.line
  let relative ← lineCharacterToByteOffset line position.character encoding
  .ok (lineStart + relative)

def validateScipSourceRange (range : ScipWireSourceRange) (encoding : ScipWirePositionEncoding)
    (sourceBytes : List UInt8) : Except ScipWireError ByteSpan :=
  match Text.decodeUtf8 sourceBytes with
  | none => .error .sourceNotUtf8
  | some source => do
    let start ← sourcePositionToByteOffset source range.start encoding
    let stop ← sourcePositionToByteOffset source range.stop encoding
    if ordered : start ≤ stop then .ok ⟨start, stop, ordered⟩ else .error .invalidSourceRange

end RepoWitness
