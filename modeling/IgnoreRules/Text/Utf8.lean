import IgnoreRules.Decimal.Basic

/-!
# UTF-8

Bytes are read as characters from the front. A lead byte says how many bytes
follow and between which bounds each of them lies; the bounds rule out spellings
that are too long, surrogates, and code points above the last one. The first
sequence that breaks the rules is reported with its extent: the lead byte and
the bytes behind it that were still good, or all bytes to the end when the text
stops in the middle of a sequence.
-/

namespace IgnoreRules.Utf8

/-- What is wrong with a sequence of bytes. -/
inductive Reason where
  | invalidStart
  | invalidContinuation
  | unexpectedEnd
  deriving DecidableEq, Repr

/-- A faulty sequence in a text of bytes. -/
structure Fault where
  /-- Where the sequence starts. -/
  start : Nat
  /-- How many bytes it has. -/
  length : Nat
  /-- Its first byte. -/
  lead : UInt8
  /-- What is wrong with it. -/
  reason : Reason
  deriving DecidableEq, Repr

/-- The reason in words. -/
def Reason.message : Reason → List Char
  | .invalidStart => "invalid start byte".toList
  | .invalidContinuation => "invalid continuation byte".toList
  | .unexpectedEnd => "unexpected end of data".toList

/-- Two hexadecimal digits. -/
def hexByte (b : UInt8) : List Char :=
  [Nat.digitChar (b.toNat / 16), Nat.digitChar (b.toNat % 16)]

/-- The fault in words: the byte or the range of bytes, and the reason. -/
def Fault.message (fault : Fault) : List Char :=
  let place :=
    if fault.length = 1 then
      "byte 0x".toList ++ hexByte fault.lead ++ " in position ".toList ++
        Decimal.natural fault.start
    else
      "bytes in position ".toList ++ Decimal.natural fault.start ++ ['-'] ++
        Decimal.natural (fault.start + fault.length - 1)
  "'utf-8' codec can't decode ".toList ++ place ++ ": ".toList ++ fault.reason.message

/-- A lead byte of several: its part of the code point, and the least and greatest
value of each byte that follows. -/
structure Lead where
  /-- The part of the code point that the lead byte holds. -/
  part : Nat
  /-- The bounds of the bytes that follow. -/
  bounds : List (Nat × Nat)

/-- A byte that may follow without further restriction. -/
def anyContinuation : Nat × Nat :=
  (0x80, 0xBF)

/-- Reads a lead byte of several. -/
def lead? (b : Nat) : Option Lead :=
  if b < 0xC2 then none
  else if b < 0xE0 then some ⟨b - 0xC0, [anyContinuation]⟩
  else if b = 0xE0 then some ⟨0, [(0xA0, 0xBF), anyContinuation]⟩
  else if b = 0xED then some ⟨13, [(0x80, 0x9F), anyContinuation]⟩
  else if b < 0xF0 then some ⟨b - 0xE0, [anyContinuation, anyContinuation]⟩
  else if b = 0xF0 then some ⟨0, [(0x90, 0xBF), anyContinuation, anyContinuation]⟩
  else if b < 0xF4 then
    some ⟨b - 0xF0, [anyContinuation, anyContinuation, anyContinuation]⟩
  else if b = 0xF4 then some ⟨4, [(0x80, 0x8F), anyContinuation, anyContinuation]⟩
  else none

/-- Reads the bytes that follow a lead byte into the code point; `taken` counts
the bytes of the sequence so far. -/
def continuation (code taken : Nat) :
    List (Nat × Nat) → List UInt8 → Except (Reason × Nat) (Nat × List UInt8)
  | [], bytes => .ok (code, bytes)
  | _ :: _, [] => .error (.unexpectedEnd, taken)
  | (least, greatest) :: bounds, b :: bytes =>
      if least ≤ b.toNat ∧ b.toNat ≤ greatest then
        continuation (64 * code + (b.toNat - 0x80)) (taken + 1) bounds bytes
      else .error (.invalidContinuation, taken)

/-- Reads one character, and the bytes behind it. A fault comes with the length
of the faulty sequence. -/
def decodeNext (b : UInt8) (bytes : List UInt8) :
    Except (Reason × Nat) (Char × List UInt8) :=
  if b.toNat < 0x80 then .ok (Char.ofNat b.toNat, bytes)
  else match lead? b.toNat with
    | none => .error (.invalidStart, 1)
    | some lead =>
        (continuation lead.part 1 lead.bounds bytes).map fun (code, rest) =>
          (Char.ofNat code, rest)

theorem continuation_length {code taken : Nat} {bounds : List (Nat × Nat)}
    {bytes rest : List UInt8} {result : Nat}
    (h : continuation code taken bounds bytes = .ok (result, rest)) :
    rest.length ≤ bytes.length := by
  induction bounds generalizing code taken bytes with
  | nil => cases h; exact Nat.le_refl _
  | cons bound bounds ih =>
      cases bytes with
      | nil => cases h
      | cons b bytes =>
          rw [continuation] at h
          split at h
          · exact Nat.le_succ_of_le (ih h)
          · cases h

theorem decodeNext_length {b : UInt8} {bytes rest : List UInt8} {c : Char}
    (h : decodeNext b bytes = .ok (c, rest)) : rest.length ≤ bytes.length := by
  unfold decodeNext at h
  split at h
  · cases h; exact Nat.le_refl _
  · split at h
    · cases h
    · rename_i lead _
      cases hc : continuation lead.part 1 lead.bounds bytes with
      | error fault => rw [hc] at h; cases h
      | ok result =>
          rw [hc] at h
          cases h
          exact continuation_length hc

/-- Decodes bytes of which the first stands at a position. -/
def decodeFrom (position : Nat) (bytes : List UInt8) : Except Fault (List Char) :=
  match bytes with
  | [] => .ok []
  | b :: bytes =>
      match h : decodeNext b bytes with
      | .error (reason, length) => .error { start := position, length, lead := b, reason }
      | .ok (c, rest) =>
          have := decodeNext_length h
          (decodeFrom (position + c.utf8Size) rest).map (c :: ·)
termination_by bytes.length

/-- Decodes a text. -/
def decode (bytes : List UInt8) : Except Fault (List Char) :=
  decodeFrom 0 bytes

/-- The bytes of a character. -/
def encodeChar (c : Char) : List UInt8 :=
  let code := c.toNat
  if code < 0x80 then [.ofNat code]
  else if code < 0x800 then [.ofNat (0xC0 + code / 0x40), .ofNat (0x80 + code % 0x40)]
  else if code < 0x10000 then
    [.ofNat (0xE0 + code / 0x1000), .ofNat (0x80 + code / 0x40 % 0x40),
      .ofNat (0x80 + code % 0x40)]
  else
    [.ofNat (0xF0 + code / 0x40000), .ofNat (0x80 + code / 0x1000 % 0x40),
      .ofNat (0x80 + code / 0x40 % 0x40), .ofNat (0x80 + code % 0x40)]

/-- The bytes of a text. -/
def encode (text : List Char) : List UInt8 :=
  text.flatMap encodeChar

end IgnoreRules.Utf8
