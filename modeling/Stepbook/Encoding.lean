import Stepbook.Text.Pieces
import Stepbook.Text.Quoted

/-!
# Text encodings

A source file is a list of bytes; a codec makes text of it.  Bytes that are
no text are refused, with the place and the reason.

## Main definitions

* `DecodeError` — where decoding stopped and why.
* `Codec` — what makes text of bytes.
* `Encoding` — six encodings, `Encoding.ofName?` finds one by name.
* `Encoding.decode`, `Encoding.codec` — the text of a list of bytes.

## Design notes

Which codecs there are, and under which names, is up to the machine that a
program runs on (see `Host`).  The six encodings here are the ones that are
written out, with their common names; they stand for all others only where a
host is described that has no others.

A text is a list of characters, and a character is a Unicode scalar value.  A
codec that makes lone surrogates of some bytes is described on other bytes only.

The Unicode byte encodings are small machines that take one byte at a time
(`Utf8.step`) or one unit at a time (`Utf16.decode`).  The byte ranges of a
UTF-8 sequence rule out overlong forms, surrogates and code points beyond the
last, so a finished sequence is always a character.
-/

namespace Stepbook

open Stepbook.Text

/-- The ways bytes can stand for text that are written out here. -/
inductive Encoding where
  | ascii
  | latin1
  | utf8
  /-- UTF-8 that may begin with a byte order mark. -/
  | utf8Marked
  | utf16LittleEndian
  | utf16BigEndian
  deriving DecidableEq, Repr

/-- Why bytes are no text. -/
inductive DecodeError.Reason where
  | invalidStart
  | invalidContinuation
  | unexpectedEnd
  | notAscii
  /-- A single byte where a pair is wanted. -/
  | truncated
  /-- A leading surrogate without a trailing one. -/
  | unpairedLeading
  /-- A trailing surrogate without a leading one. -/
  | unpairedTrailing
  /-- A reason of a codec that is not written out here, with its wording. -/
  | other (wording : String)
  deriving DecidableEq, Repr

/-- The wording of a reason. -/
def DecodeError.Reason.wording : DecodeError.Reason → String
  | invalidStart => "invalid start byte"
  | invalidContinuation => "invalid continuation byte"
  | unexpectedEnd => "unexpected end of data"
  | notAscii => "ordinal not in range(128)"
  | truncated => "truncated data"
  | unpairedLeading => "illegal UTF-16 surrogate"
  | unpairedTrailing => "illegal encoding"
  | other wording => wording

/-- Where decoding stopped and why. -/
structure DecodeError where
  /-- The name of the encoding. -/
  encoding : String
  /-- The first byte that is refused. -/
  byte : UInt8
  /-- Its position. -/
  position : Nat
  /-- The number of bytes that are refused. -/
  count : Nat
  reason : DecodeError.Reason
  deriving DecidableEq, Repr

/-- The message for the user. -/
def DecodeError.message (e : DecodeError) : String :=
  let range :=
    if e.count = 1 then
      "byte 0x" ++ String.ofList (hex 2 e.byte.toNat) ++ " in position " ++ toString e.position
    else
      "bytes in position " ++ toString e.position ++ "-" ++ toString (e.position + e.count - 1)
  "'" ++ e.encoding ++ "' codec can't decode " ++ range ++ ": " ++ e.reason.wording

/-- Why a codec makes no text of bytes. -/
inductive Codec.Failure where
  /-- The bytes are no text. -/
  | decoding (error : DecodeError)
  /-- The codec gives up and names no place: a mark is missing at the start, or
  the codec is none for text at all. -/
  | other (message : String)
  deriving DecidableEq

/-- What makes text of bytes. -/
abbrev Codec := List UInt8 → Except Codec.Failure (List Char)

/-! ### UTF-8 -/

namespace Utf8

/-- An unfinished sequence. -/
structure Sequence where
  /-- The first byte. -/
  lead : UInt8
  /-- The position of the first byte. -/
  start : Nat
  /-- The code point as far as it is known. -/
  value : Nat
  /-- The number of bytes still missing. -/
  missing : Nat
  /-- The least next byte. -/
  least : Nat
  /-- The greatest next byte. -/
  greatest : Nat

/-- The machine between two bytes. -/
structure State where
  /-- The characters so far, the last one first. -/
  text : List Char := []
  /-- The number of bytes so far. -/
  position : Nat := 0
  unfinished : Option Sequence := none

/-- The sequence that a byte beyond ASCII opens. -/
def lead? (b : UInt8) (position : Nat) : Option Sequence :=
  let n := b.toNat
  if 0xC2 ≤ n && n ≤ 0xDF then some ⟨b, position, n - 0xC0, 1, 0x80, 0xBF⟩
  else if n = 0xE0 then some ⟨b, position, 0, 2, 0xA0, 0xBF⟩
  else if n = 0xED then some ⟨b, position, 0xD, 2, 0x80, 0x9F⟩
  else if 0xE1 ≤ n && n ≤ 0xEF then some ⟨b, position, n - 0xE0, 2, 0x80, 0xBF⟩
  else if n = 0xF0 then some ⟨b, position, 0, 3, 0x90, 0xBF⟩
  else if n = 0xF4 then some ⟨b, position, 4, 3, 0x80, 0x8F⟩
  else if 0xF1 ≤ n && n ≤ 0xF3 then some ⟨b, position, n - 0xF0, 3, 0x80, 0xBF⟩
  else none

/-- The refusal of an unfinished sequence at a position. -/
def Sequence.refusal (q : Sequence) (position : Nat) (reason : DecodeError.Reason) : DecodeError :=
  ⟨"utf-8", q.lead, q.start, position - q.start, reason⟩

/-- Take one byte. -/
def step (s : State) (b : UInt8) : Except DecodeError State :=
  match s.unfinished with
  | none =>
    if b.toNat < 0x80 then
      .ok { text := Char.ofNat b.toNat :: s.text, position := s.position + 1 }
    else
      match lead? b s.position with
      | some q => .ok { s with position := s.position + 1, unfinished := some q }
      | none => .error ⟨"utf-8", b, s.position, 1, .invalidStart⟩
  | some q =>
    if q.least ≤ b.toNat && b.toNat ≤ q.greatest then
      let value := q.value * 0x40 + (b.toNat - 0x80)
      if q.missing = 1 then
        .ok { text := Char.ofNat value :: s.text, position := s.position + 1 }
      else
        let q := { q with value := value, missing := q.missing - 1, least := 0x80, greatest := 0xBF }
        .ok { s with position := s.position + 1, unfinished := some q }
    else .error (q.refusal s.position .invalidContinuation)

/-- The text of UTF-8 bytes. -/
def decode (bytes : List UInt8) : Except DecodeError (List Char) := do
  let s ← bytes.foldlM step {}
  match s.unfinished with
  | none => return s.text.reverse
  | some q => throw (q.refusal s.position .unexpectedEnd)

/-- The byte order mark. -/
def mark : List UInt8 := [0xEF, 0xBB, 0xBF]

/-- The text of UTF-8 bytes behind a byte order mark, which may be absent.  A
file that ends within the mark is empty, and positions count from behind the
mark. -/
def decodeMarked (bytes : List UInt8) : Except DecodeError (List Char) :=
  if bytes.length < 3 && bytes.isPrefixOf mark then .ok []
  else if mark.isPrefixOf bytes then decode (bytes.drop 3)
  else decode bytes

end Utf8

/-! ### UTF-16 -/

namespace Utf16

/-- Whether a unit is a leading surrogate. -/
def isLeading (u : Nat) : Bool := 0xD800 ≤ u && u < 0xDC00

/-- Whether a unit is a trailing surrogate. -/
def isTrailing (u : Nat) : Bool := 0xDC00 ≤ u && u < 0xE000

/-- The text of units, each made of two bytes by `unit`.  The accumulator holds
the characters so far, the last one first. -/
def decode (encoding : String) (unit : UInt8 → UInt8 → Nat) (acc : List Char) (position : Nat) :
    List UInt8 → Except DecodeError (List Char)
  | [] => .ok acc.reverse
  | [b] => .error ⟨encoding, b, position, 1, .truncated⟩
  | a :: b :: rest =>
    let u := unit a b
    if isTrailing u then .error ⟨encoding, a, position, 2, .unpairedTrailing⟩
    else if isLeading u then
      match rest with
      | c :: d :: rest =>
        let v := unit c d
        if isTrailing v then
          let value := 0x10000 + (u - 0xD800) * 0x400 + (v - 0xDC00)
          decode encoding unit (Char.ofNat value :: acc) (position + 4) rest
        else .error ⟨encoding, a, position, 2, .unpairedLeading⟩
      | _ => .error ⟨encoding, a, position, 2 + rest.length, .unexpectedEnd⟩
    else decode encoding unit (Char.ofNat u :: acc) (position + 2) rest

end Utf16

namespace Encoding

/-- The ASCII text of bytes, from a position on. -/
def decodeAscii (acc : List Char) (position : Nat) : List UInt8 → Except DecodeError (List Char)
  | [] => .ok acc.reverse
  | b :: rest =>
    if b.toNat < 0x80 then decodeAscii (Char.ofNat b.toNat :: acc) (position + 1) rest
    else .error ⟨"ascii", b, position, 1, .notAscii⟩

/-- The text of bytes. -/
def decode : Encoding → List UInt8 → Except DecodeError (List Char)
  | ascii, bytes => decodeAscii [] 0 bytes
  | latin1, bytes => .ok (bytes.map fun b => Char.ofNat b.toNat)
  | utf8, bytes => Utf8.decode bytes
  | utf8Marked, bytes => Utf8.decodeMarked bytes
  | utf16LittleEndian, bytes =>
    Utf16.decode "utf-16-le" (fun a b => a.toNat + b.toNat * 0x100) [] 0 bytes
  | utf16BigEndian, bytes =>
    Utf16.decode "utf-16-be" (fun a b => a.toNat * 0x100 + b.toNat) [] 0 bytes

/-- An encoding as a codec.  It refuses bytes for being no text only. -/
def codec (e : Encoding) : Codec := fun bytes => (e.decode bytes).mapError .decoding

/-- The names of the encodings, in the form of `canonicalName`. -/
def names : List (String × Encoding) :=
  [("utf_8", utf8), ("utf8", utf8), ("u8", utf8), ("utf", utf8), ("utf8_ucs2", utf8),
   ("utf8_ucs4", utf8), ("cp65001", utf8), ("utf_8_sig", utf8Marked),
   ("ascii", ascii), ("us_ascii", ascii), ("us", ascii), ("646", ascii), ("iso646_us", ascii),
   ("iso_ir_6", ascii), ("cp367", ascii), ("ibm367", ascii), ("csascii", ascii),
   ("latin_1", latin1), ("latin1", latin1), ("latin", latin1), ("l1", latin1), ("8859", latin1),
   ("iso8859", latin1), ("iso8859_1", latin1), ("iso_8859_1", latin1), ("iso_ir_100", latin1),
   ("cp819", latin1), ("ibm819", latin1), ("csisolatin1", latin1),
   ("utf_16_le", utf16LittleEndian), ("utf_16le", utf16LittleEndian),
   ("unicodelittleunmarked", utf16LittleEndian),
   ("utf_16_be", utf16BigEndian), ("utf_16be", utf16BigEndian),
   ("unicodebigunmarked", utf16BigEndian)]

/-- A name in lower case, with one underscore for whatever stands between its
runs of letters, digits and points. -/
def canonicalName (name : String) : String :=
  let inRun (c : Char) : Bool := c.isAlphanum || c == '.'
  let runs := (pieces (fun c => !inRun c) name.toList).filter fun r => !r.isEmpty
  "_".intercalate (runs.map fun r => String.ofList (r.map Char.toLower))

/-- The encoding of a name, if it is one of the six.  Letter case and the
separators within the name do not matter. -/
def ofName? (name : String) : Option Encoding :=
  (names.find? fun n => n.1 == canonicalName name).map (·.2)

end Encoding

end Stepbook
