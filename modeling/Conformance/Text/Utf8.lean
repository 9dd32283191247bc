/-!
# UTF-8

Source files are read leniently, pattern files strictly.

**Lenient reading.** `decodeLossy` never fails: each maximal ill-formed part of the bytes becomes
one replacement character U+FFFD.

**Strict reading.** `decodeStrict` returns the longest well-formed text together with the first
fault, if there is one: which bytes are at fault and why (`Fault`, `Fault.message`).

**Chunks.** `decodeChunks` reads strictly what comes in pieces.  A character that a chunk breaks off
is put together with the next chunk.  A chunk with a fault gives no text at all, and the bytes at
fault are counted from its beginning.

All are built on `step`, which reads one character or one ill-formed part.
-/

namespace Conformance
namespace Utf8

/-- Why bytes are not well-formed. -/
inductive Cause
  /-- The byte can open no character. -/
  | invalidStart
  /-- The byte after these cannot continue the character they open. -/
  | invalidContinuation
  /-- The bytes end within a character. -/
  | unexpectedEnd
deriving DecidableEq, Repr

/-- The wording of a cause. -/
def Cause.message : Cause → String
  | .invalidStart => "invalid start byte"
  | .invalidContinuation => "invalid continuation byte"
  | .unexpectedEnd => "unexpected end of data"

/-- What opens a byte sequence: a character, or an ill-formed part of `size` bytes. -/
inductive Step
  | char (c : Char) (size : Nat)
  | fault (cause : Cause) (size : Nat)
deriving DecidableEq, Repr

section Defs

/-- The low six bits of a continuation byte in `lo .. hi`. -/
def continuation? (lo hi : UInt8) (b : UInt8) : Option Nat :=
  if lo ≤ b && b ≤ hi then some (b.toNat % 64) else none

/--
Reads `count` more continuation bytes after `used` bytes with value `acc`; only the first of them
is confined to `lo .. hi`, which rules out overlong forms, surrogates and values past U+10FFFF.
-/
def continueChar : Nat → UInt8 → UInt8 → Nat → Nat → List UInt8 → Step
  | 0, _, _, acc, used, _ => .char (Char.ofNat acc) used
  | _ + 1, _, _, _, used, [] => .fault .unexpectedEnd used
  | count + 1, lo, hi, acc, used, b :: rest =>
      match continuation? lo hi b with
      | none => .fault .invalidContinuation used
      | some bits => continueChar count 0x80 0xBF (acc * 64 + bits) (used + 1) rest

/-- Reads one character, or one maximal ill-formed part, from the byte `b` and the bytes after it. -/
def step (b : UInt8) (rest : List UInt8) : Step :=
  if b < 0x80 then .char (Char.ofNat b.toNat) 1
  else if b < 0xC2 then .fault .invalidStart 1
  else if b < 0xE0 then continueChar 1 0x80 0xBF (b.toNat % 32) 1 rest
  else if b == 0xE0 then continueChar 2 0xA0 0xBF (b.toNat % 16) 1 rest
  else if b == 0xED then continueChar 2 0x80 0x9F (b.toNat % 16) 1 rest
  else if b < 0xF0 then continueChar 2 0x80 0xBF (b.toNat % 16) 1 rest
  else if b == 0xF0 then continueChar 3 0x90 0xBF (b.toNat % 8) 1 rest
  else if b < 0xF4 then continueChar 3 0x80 0xBF (b.toNat % 8) 1 rest
  else if b == 0xF4 then continueChar 3 0x80 0x8F (b.toNat % 8) 1 rest
  else .fault .invalidStart 1

/-- The text of the bytes, with one U+FFFD for each maximal ill-formed part. -/
def decodeLossy : List UInt8 → List Char
  | [] => []
  | b :: rest =>
      match step b rest with
      | .char c size => c :: decodeLossy (rest.drop (size - 1))
      | .fault _ size => '\uFFFD' :: decodeLossy (rest.drop (size - 1))
termination_by bytes => bytes.length
decreasing_by all_goals simp only [List.length_drop, List.length_cons]; omega

/-- Ill-formed bytes met by a strict reading, with the offset of the first of them. -/
structure Fault where
  cause : Cause
  offset : Nat
  bytes : List UInt8
deriving DecidableEq, Repr

/-- The well-formed text before the first fault, and that fault. -/
def decodeStrictFrom (offset : Nat) : List UInt8 → List Char × Option Fault
  | [] => ([], none)
  | b :: rest =>
      match step b rest with
      | .char c size =>
          let (text, fault) := decodeStrictFrom (offset + size) (rest.drop (size - 1))
          (c :: text, fault)
      | .fault cause size => ([], some ⟨cause, offset, (b :: rest).take size⟩)
termination_by bytes => bytes.length
decreasing_by simp only [List.length_drop, List.length_cons]; omega

/-- The well-formed text at the start of the bytes, and the fault that ends it if any. -/
def decodeStrict (bytes : List UInt8) : List Char × Option Fault :=
  decodeStrictFrom 0 bytes

/-- The bytes in chunks of a size; the last one may be shorter. -/
def chunks (size : Nat) : List UInt8 → List (List UInt8)
  | [] => []
  | b :: rest => (b :: rest.take (size - 1)) :: chunks size (rest.drop (size - 1))
termination_by bytes => bytes.length
decreasing_by simp only [List.length_drop, List.length_cons]; omega

/--
The text of the chunks before the first fault, and that fault.  The bytes `kept` open a character
and are read before the chunks.
-/
def decodeChunks (kept : List UInt8) : List (List UInt8) → List Char × Option Fault
  | [] => ([], if kept.isEmpty then none else some ⟨.unexpectedEnd, 0, kept⟩)
  | chunk :: later =>
      match decodeStrict (kept ++ chunk) with
      | (text, none) =>
          let (more, fault) := decodeChunks [] later
          (text ++ more, fault)
      | (text, some ⟨.unexpectedEnd, _, broken⟩) =>
          let (more, fault) := decodeChunks broken later
          (text ++ more, fault)
      | (_, some fault) => ([], some fault)

end Defs

/-- The bytes of a text. -/
def encode (text : String) : List UInt8 :=
  text.toUTF8.toList

/-- A byte in two lower-case hexadecimal digits. -/
def hexByte (b : UInt8) : String :=
  String.ofList [Nat.digitChar (b.toNat / 16), Nat.digitChar (b.toNat % 16)]

/-- The wording of a fault: a single byte is named, several are given by their positions. -/
def Fault.message (f : Fault) : String :=
  match f.bytes with
  | [b] =>
      "'utf-8' codec can't decode byte 0x" ++ hexByte b ++ " in position "
        ++ toString f.offset ++ ": " ++ f.cause.message
  | bytes =>
      "'utf-8' codec can't decode bytes in position " ++ toString f.offset ++ "-"
        ++ toString (f.offset + bytes.length - 1) ++ ": " ++ f.cause.message

end Utf8
end Conformance
