import QbLint.Bytes

/-!
# Text files

The text in the bytes of a file. The bytes are decoded as UTF-8, strictly: overlong forms,
surrogates and code points beyond the last one are refused, with the bytes at fault and the reason.
A line may end with a carriage return, a line feed or both, and is read as ending with a line feed.

* `Utf8.decode`: the characters of some bytes, or the first fault;
* `Utf8.encode`: the bytes of a text;
* `Text.unifyLines`: a text whose lines end with line feeds.
-/

namespace QbLint

namespace Utf8

/-- Why some bytes are no character. -/
inductive Reason
  | invalidStart | invalidContinuation | unexpectedEnd
  deriving DecidableEq

/-- A reason in words. -/
def Reason.message : Reason → String
  | invalidStart => "invalid start byte"
  | invalidContinuation => "invalid continuation byte"
  | unexpectedEnd => "unexpected end of data"

/-- Bytes that are no character: where the first of them stands, which byte it is, how many they
are, and what is wrong. -/
structure Fault where
  position : Nat
  byte : UInt8
  size : Nat
  reason : Reason
  deriving DecidableEq

/-- A fault in words. -/
def Fault.message (fault : Fault) : String :=
  let place :=
    if fault.size = 1 then
      "byte 0x" ++ Hex.ofByte fault.byte ++ " in position " ++ toString fault.position
    else
      "bytes in position " ++ toString fault.position ++ "-" ++
        toString (fault.position + fault.size - 1)
  "'utf-8' codec can't decode " ++ place ++ ": " ++ fault.reason.message

/-- A character of which some bytes have been read: its first byte, its code point as far as it is
known, how many bytes are still to come, and the bounds of the next one. -/
structure Pending where
  start : Nat
  byte : UInt8
  value : Nat
  missing : Nat
  low : Nat
  high : Nat

/-- The character that begins with a byte beyond ASCII. The bounds of its second byte exclude
overlong forms, surrogates and code points beyond the last one. -/
def Pending.ofByte? (start : Nat) (byte : UInt8) : Option Pending :=
  let b := byte.toNat
  if b < 0xC2 then none
  else if b < 0xE0 then some ⟨start, byte, b - 0xC0, 1, 0x80, 0xBF⟩
  else if b < 0xF0 then
    let low := if b = 0xE0 then 0xA0 else 0x80
    let high := if b = 0xED then 0x9F else 0xBF
    some ⟨start, byte, b - 0xE0, 2, low, high⟩
  else if b < 0xF5 then
    let low := if b = 0xF0 then 0x90 else 0x80
    let high := if b = 0xF4 then 0x8F else 0xBF
    some ⟨start, byte, b - 0xF0, 3, low, high⟩
  else none

/-- The characters of the bytes from a position on, behind those of `done`, which are in reverse
order, and the character that has been begun. -/
def decodeOnto (position : Nat) (done : List Char) (pending : Option Pending) :
    List UInt8 → Except Fault (List Char)
  | [] =>
    match pending with
    | none => .ok done.reverse
    | some p => .error ⟨p.start, p.byte, position - p.start, .unexpectedEnd⟩
  | byte :: rest =>
    match pending with
    | none =>
      if byte < 0x80 then
        decodeOnto (position + 1) (Char.ofNat byte.toNat :: done) none rest
      else
        match Pending.ofByte? position byte with
        | none => .error ⟨position, byte, 1, .invalidStart⟩
        | some p => decodeOnto (position + 1) done (some p) rest
    | some p =>
      if p.low ≤ byte.toNat ∧ byte.toNat ≤ p.high then
        let value := 64 * p.value + (byte.toNat - 0x80)
        if p.missing = 1 then decodeOnto (position + 1) (Char.ofNat value :: done) none rest
        else
          decodeOnto (position + 1) done
            (some { p with value, missing := p.missing - 1, low := 0x80, high := 0xBF }) rest
      else .error ⟨p.start, p.byte, position - p.start, .invalidContinuation⟩

/-- The characters of some bytes. -/
def decode (data : Bytes) : Except Fault (List Char) := decodeOnto 0 [] none data.toList

/-- The bytes of a text. -/
def encode (s : String) : Bytes := s.toUTF8.data

end Utf8

/-- A text whose lines end with line feeds. -/
def Text.unifyLines : List Char → List Char
  | '\r' :: '\n' :: rest => '\n' :: unifyLines rest
  | '\r' :: rest => '\n' :: unifyLines rest
  | c :: rest => c :: unifyLines rest
  | [] => []

end QbLint
