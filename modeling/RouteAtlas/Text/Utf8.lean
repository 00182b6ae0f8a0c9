import RouteAtlas.Text.Basic

/-!
# Strict UTF-8

`decode` turns bytes into characters or names the first malformed sequence: where it lies, which
bytes belong to it and what is wrong with it. A malformed sequence is as long as its longest
beginning that could still have become a character. `normalizeNewlines` is the reading of a text
file: a carriage return, alone or before a line feed, is a line feed.
-/

namespace RouteAtlas.Text

/-- Whether a code is that of half of a surrogate pair, which alone is no character. -/
def isSurrogate (code : Nat) : Bool := 0xD800 ≤ code && code ≤ 0xDFFF

/-- The character of a code. Half of a surrogate pair cannot be part of a text, so the replacement
character stands for it. -/
def charOfCode (code : Nat) : Char := if isSurrogate code then '\uFFFD' else Char.ofNat code

@[simp]
theorem charOfCode_toNat (c : Char) : charOfCode c.toNat = c := by
  have hvalid := c.valid
  simp only [UInt32.isValidChar, Nat.isValidChar] at hvalid
  have hcode : isSurrogate c.toNat = false := by
    simp only [isSurrogate, Char.toNat, Bool.and_eq_false_iff, decide_eq_false_iff_not]
    omega
  rw [charOfCode, hcode, if_neg Bool.false_ne_true, Char.ofNat_toNat]

/-- What is wrong with a malformed sequence of bytes. -/
inductive Utf8Reason
  /-- The first byte begins no character. -/
  | invalidStart
  /-- A byte that had to continue the character does not. -/
  | invalidContinuation
  /-- The input ends inside a character. -/
  | unexpectedEnd

/-- A malformed sequence of bytes in an input that should be UTF-8. -/
structure Utf8Error where
  /-- The position of the first malformed byte. -/
  start : Nat
  /-- The first malformed byte. -/
  byte : UInt8
  /-- How many bytes belong to the malformed sequence. -/
  count : Nat
  /-- What is wrong. -/
  reason : Utf8Reason

/-- The wording of a reason. -/
def Utf8Reason.message : Utf8Reason → String
  | .invalidStart => "invalid start byte"
  | .invalidContinuation => "invalid continuation byte"
  | .unexpectedEnd => "unexpected end of data"

/-- The wording of a decoding failure. A sequence of one byte is shown with its value, a longer
one with its first and last position. -/
def Utf8Error.message (e : Utf8Error) : String :=
  let place :=
    if e.count ≤ 1 then "byte 0x" ++ hex 2 e.byte.toNat ++ " in position " ++ decimal e.start
    else "bytes in position " ++ decimal e.start ++ "-" ++ decimal (e.start + e.count - 1)
  "'utf-8' codec can't decode " ++ place ++ ": " ++ e.reason.message

/-- How a character that starts with a given byte goes on: the payload of the first byte, the
range of the second byte, and the number of further bytes after that. `none` for an ASCII byte or
a byte that starts no character. -/
def leadShape? (b : Nat) : Option (Nat × Nat × Nat × Nat) :=
  if 0xC2 ≤ b && b ≤ 0xDF then some (b - 0xC0, 0x80, 0xBF, 0)
  else if b == 0xE0 then some (0, 0xA0, 0xBF, 1)
  else if b == 0xED then some (0xD, 0x80, 0x9F, 1)
  else if 0xE1 ≤ b && b ≤ 0xEF then some (b - 0xE0, 0x80, 0xBF, 1)
  else if b == 0xF0 then some (0, 0x90, 0xBF, 2)
  else if 0xF1 ≤ b && b ≤ 0xF3 then some (b - 0xF0, 0x80, 0xBF, 2)
  else if b == 0xF4 then some (4, 0x80, 0x8F, 2)
  else none

/-- Reads the remaining bytes of a character. The result is the code point, or how many bytes
were good and whether the input ended there. -/
def continuation (low high more : Nat) (payload taken : Nat) :
    List UInt8 → Except (Nat × Bool) (Nat × List UInt8)
  | [] => .error (taken, true)
  | b :: rest =>
    if low ≤ b.toNat && b.toNat ≤ high then
      let payload := payload * 64 + (b.toNat - 0x80)
      match more with
      | 0 => .ok (payload, rest)
      | more + 1 => continuation 0x80 0xBF more payload (taken + 1) rest
    else .error (taken, false)

/-- Decodes with a bound on the number of characters still to be read. -/
def decodeFrom (fuel position : Nat) (bytes : List UInt8) (done : List Char) :
    Except Utf8Error (List Char) :=
  match fuel, bytes with
  | _, [] => .ok done.reverse
  | 0, _ => .ok done.reverse
  | fuel + 1, b :: rest =>
    if b.toNat < 0x80 then decodeFrom fuel (position + 1) rest (Char.ofNat b.toNat :: done)
    else
      match leadShape? b.toNat with
      | none => .error ⟨position, b, 1, .invalidStart⟩
      | some (payload, low, high, more) =>
        match continuation low high more payload 1 rest with
        | .ok (code, rest') =>
          decodeFrom fuel (position + more + 2) rest' (Char.ofNat code :: done)
        | .error (count, true) => .error ⟨position, b, count, .unexpectedEnd⟩
        | .error (count, false) => .error ⟨position, b, count, .invalidContinuation⟩

/-- Decodes strict UTF-8. -/
def decodeUtf8 (bytes : List UInt8) : Except Utf8Error String :=
  (decodeFrom bytes.length 0 bytes []).map String.ofList

/-- Reads every line end, whatever its spelling, as a line feed. -/
def newlineChars : List Char → List Char
  | '\r' :: '\n' :: cs => '\n' :: newlineChars cs
  | '\r' :: cs => '\n' :: newlineChars cs
  | c :: cs => c :: newlineChars cs
  | [] => []

/-- A text with all its line ends spelled as line feeds. -/
def normalizeNewlines (s : String) : String :=
  String.ofList (newlineChars s.toList)

end RouteAtlas.Text
