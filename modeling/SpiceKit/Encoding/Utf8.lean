/-!
# UTF-8

Bytes are read as a sequence of `Piece`s: a character, or an invalid stretch with the reason why it
is invalid. An invalid stretch is as long as it could still have been the start of a character, and
at least one byte. Strict decoding fails at the first such stretch; lossy decoding puts one
replacement character in the place of each.

Both are views of the same pieces, so they cannot disagree about where a fault lies.
-/

set_option autoImplicit false

namespace SpiceKit
namespace Utf8

inductive Reason where
  | startByte
  | continuation
  | endOfData
  deriving DecidableEq, Repr

def Reason.message : Reason → String
  | .startByte => "invalid start byte"
  | .continuation => "invalid continuation byte"
  | .endOfData => "unexpected end of data"

/-- A character, or a stretch of bytes that is none. Bytes are always cut into pieces, and what to
make of those that are none is left to `decode` and `decodeLossy`. -/
inductive Piece where
  | char (c : Char)
  | invalid (bytes : List UInt8) (reason : Reason)
  deriving DecidableEq, Repr

/-- What may follow a lead byte: how many bytes, and the range of the first of them. The others
range over all continuation bytes. -/
structure Tail where
  count : Nat
  least : Nat
  greatest : Nat
  deriving DecidableEq, Repr

/-- The tail that a lead byte above ASCII asks for. The narrowed ranges keep out overlong forms,
surrogates and values above the last code point. -/
def tail? (lead : Nat) : Option Tail :=
  if lead < 0xC2 then none
  else if lead < 0xE0 then some ⟨1, 0x80, 0xBF⟩
  else if lead = 0xE0 then some ⟨2, 0xA0, 0xBF⟩
  else if lead = 0xED then some ⟨2, 0x80, 0x9F⟩
  else if lead < 0xF0 then some ⟨2, 0x80, 0xBF⟩
  else if lead = 0xF0 then some ⟨3, 0x90, 0xBF⟩
  else if lead < 0xF4 then some ⟨3, 0x80, 0xBF⟩
  else if lead = 0xF4 then some ⟨3, 0x80, 0x8F⟩
  else none

def leadBits (lead count : Nat) : Nat :=
  lead - (if count = 1 then 0xC0 else if count = 2 then 0xE0 else 0xF0)

/-- Reads the rest of a character: so many bytes are owed, the next of them in a range. `taken` are
the bytes read so far, last first, and `value` is what they are worth. -/
def readTail (taken : List UInt8) (value : Nat) : Nat → Nat → Nat → List UInt8 → Piece
  | 0, _, _, _ => .char (Char.ofNat value)
  | _ + 1, _, _, [] => .invalid taken.reverse .endOfData
  | owed + 1, least, greatest, b :: bytes =>
    if least ≤ b.toNat ∧ b.toNat ≤ greatest then
      readTail (b :: taken) (value * 64 + (b.toNat - 0x80)) owed 0x80 0xBF bytes
    -- The byte that does not fit is left out: it may start a character of its own.
    else .invalid taken.reverse .continuation

def readPiece (lead : UInt8) (rest : List UInt8) : Piece :=
  if lead.toNat < 0x80 then .char (Char.ofNat lead.toNat)
  else match tail? lead.toNat with
    | none => .invalid [lead] .startByte
    | some tail =>
      readTail [lead] (leadBits lead.toNat tail.count) tail.count tail.least tail.greatest rest

def encodeChar (c : Char) : List UInt8 :=
  let n := c.toNat
  -- Seven, eleven, sixteen or twenty-one bits, six of them in each byte behind the first.
  if n < 0x80 then [n.toUInt8]
  else if n < 0x800 then [(0xC0 + n / 64).toUInt8, (0x80 + n % 64).toUInt8]
  else if n < 0x10000 then
    [(0xE0 + n / 4096).toUInt8, (0x80 + n / 64 % 64).toUInt8, (0x80 + n % 64).toUInt8]
  else
    [(0xF0 + n / 262144).toUInt8, (0x80 + n / 4096 % 64).toUInt8, (0x80 + n / 64 % 64).toUInt8,
      (0x80 + n % 64).toUInt8]

def encode (cs : List Char) : List UInt8 := cs.flatMap encodeChar

def Piece.size : Piece → Nat
  | .char c => (encodeChar c).length
  | .invalid bytes _ => bytes.length

/-- The pieces of some bytes, of which the given number is still part of an earlier piece. -/
def piecesFrom : Nat → List UInt8 → List Piece
  | _, [] => []
  | skip + 1, _ :: bytes => piecesFrom skip bytes
  | 0, b :: bytes => readPiece b bytes :: piecesFrom ((readPiece b bytes).size - 1) bytes

def pieces (bytes : List UInt8) : List Piece := piecesFrom 0 bytes

/-- The first stretch of bytes that is no character, and its offset. -/
structure Fault where
  offset : Nat
  bytes : List UInt8
  reason : Reason
  deriving DecidableEq, Repr

def hexByte (b : UInt8) : String :=
  String.ofList [Nat.digitChar (b.toNat / 16), Nat.digitChar (b.toNat % 16)]

/-- The wording of a fault. A single byte is named; of several, the first and last offset. -/
def Fault.message (fault : Fault) : String :=
  "'utf-8' codec can't decode " ++
  (match fault.bytes with
    | [b] => "byte 0x" ++ hexByte b ++ " in position " ++ toString fault.offset
    | bytes => "bytes in position " ++ toString fault.offset ++ "-" ++
        toString (fault.offset + bytes.length - 1)) ++
  ": " ++ fault.reason.message

/-- The text of some pieces, the first of which starts at an offset. -/
def textOf (offset : Nat) : List Piece → Except Fault (List Char)
  | [] => .ok []
  | .char c :: rest => (textOf (offset + (encodeChar c).length) rest).map (c :: ·)
  | .invalid bytes reason :: _ => .error ⟨offset, bytes, reason⟩

/-- Strict decoding: the text, or the first fault. `decode_eq_ok_iff` says that it undoes `encode`
and takes nothing else. -/
def decode (bytes : List UInt8) : Except Fault (List Char) := textOf 0 (pieces bytes)

/-- Lossy decoding: a replacement character stands for each `Piece` that is no character. What a
tool writes to standard error is decoded so, and never fails to be. -/
def decodeLossy (bytes : List UInt8) : List Char :=
  (pieces bytes).map fun
    | .char c => c
    | .invalid _ _ => '\ufffd'

end Utf8
end SpiceKit
