import Reflow.Text.Quoted

/-!
# UTF-8

Bytes are read as text one after the other. A character of several bytes starts with a byte that
tells their number and the range of the second byte; every further byte is from `0x80` to `0xBF`.

* `decode` gives the text, or the first place where the bytes are none.
* `unifyLineEnds` turns the line ends of a file into line feeds.
-/

namespace Reflow.Text.Utf8

/-- What is wrong with bytes that are no text. -/
inductive Reason where
  | start
  | continuation
  | ending
deriving DecidableEq, Repr

/-- The wording of a reason. -/
def Reason.message : Reason → String
  | start => "invalid start byte"
  | continuation => "invalid continuation byte"
  | ending => "unexpected end of data"

/-- Bytes that are no text: the first of them, its offset and the offset behind the last one. -/
structure DecodeError where
  first : Nat
  start : Nat
  stop : Nat
  reason : Reason
deriving DecidableEq, Repr

/-- The message of an error. -/
def DecodeError.message (e : DecodeError) : String :=
  let place :=
    if e.stop = e.start + 1 then
      "byte 0x" ++ String.ofList (hexadecimal 2 e.first) ++ " in position " ++ toString e.start
    else "bytes in position " ++ toString e.start ++ "-" ++ toString (e.stop - 1)
  "'utf-8' codec can't decode " ++ place ++ ": " ++ e.reason.message

/-- A character whose last bytes are still to come. -/
structure Pending where
  first : Nat
  start : Nat
  value : Nat
  missing : Nat
  low : Nat
  high : Nat
deriving DecidableEq, Repr

/-- The character that a byte of `0x80` or more starts. -/
def lead? (byte offset : Nat) : Option Pending :=
  if byte < 0xC2 then none
  else if byte < 0xE0 then some ⟨byte, offset, byte - 0xC0, 1, 0x80, 0xBF⟩
  else if byte < 0xF0 then
    some ⟨byte, offset, byte - 0xE0, 2, if byte = 0xE0 then 0xA0 else 0x80,
      if byte = 0xED then 0x9F else 0xBF⟩
  else if byte < 0xF5 then
    some ⟨byte, offset, byte - 0xF0, 3, if byte = 0xF0 then 0x90 else 0x80,
      if byte = 0xF4 then 0x8F else 0xBF⟩
  else none

/-- The text of the bytes from an offset on, after the first bytes of a character or none. -/
def decodeFrom (offset : Nat) : Option Pending → List UInt8 → Except DecodeError (List Char)
  | none, [] => .ok []
  | some p, [] => .error ⟨p.first, p.start, offset, .ending⟩
  | none, byte :: rest =>
    if byte.toNat < 0x80 then
      (decodeFrom (offset + 1) none rest).map (Char.ofNat byte.toNat :: ·)
    else match lead? byte.toNat offset with
      | some p => decodeFrom (offset + 1) (some p) rest
      | none => .error ⟨byte.toNat, offset, offset + 1, .start⟩
  | some p, byte :: rest =>
    if p.low ≤ byte.toNat ∧ byte.toNat ≤ p.high then
      let value := p.value * 64 + (byte.toNat - 0x80)
      if p.missing ≤ 1 then (decodeFrom (offset + 1) none rest).map (Char.ofNat value :: ·)
      else decodeFrom (offset + 1)
        (some ⟨p.first, p.start, value, p.missing - 1, 0x80, 0xBF⟩) rest
    else .error ⟨p.first, p.start, offset, .continuation⟩

/-- The text of the bytes. -/
def decode (bytes : List UInt8) : Except DecodeError (List Char) := decodeFrom 0 none bytes

/-- The text with a line feed for every carriage return, with or without a line feed after it. -/
def unifyLineEnds : List Char → List Char
  | '\r' :: '\n' :: rest => '\n' :: unifyLineEnds rest
  | '\r' :: rest => '\n' :: unifyLineEnds rest
  | c :: rest => c :: unifyLineEnds rest
  | [] => []

end Reflow.Text.Utf8
