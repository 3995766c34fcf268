import LinearProgram.Fault

/-!
Decoding UTF-8. A leading byte tells how many bytes follow and which second bytes are admitted.
Bytes that stop being a sequence are named by their places. A sequence that the end of the bytes cuts
short is no fault by itself, since more bytes may come.
-/

namespace LinearProgram.Text

/-- What a leading byte announces: how many bytes follow, the least and greatest second byte, and the
bits that it contributes. -/
structure LeadingByte where
  tails : Nat
  least : Nat
  greatest : Nat
  bits : Nat

def leadingByte? (byte : Nat) : Option LeadingByte :=
  if byte < 0x80 then some ⟨0, 0x80, 0xbf, byte⟩
  else if byte < 0xc2 then none
  else if byte < 0xe0 then some ⟨1, 0x80, 0xbf, byte - 0xc0⟩
  else if byte = 0xe0 then some ⟨2, 0xa0, 0xbf, 0⟩
  else if byte = 0xed then some ⟨2, 0x80, 0x9f, 0xd⟩
  else if byte < 0xf0 then some ⟨2, 0x80, 0xbf, byte - 0xe0⟩
  else if byte = 0xf0 then some ⟨3, 0x90, 0xbf, 0⟩
  else if byte < 0xf4 then some ⟨3, 0x80, 0xbf, byte - 0xf0⟩
  else if byte = 0xf4 then some ⟨3, 0x80, 0x8f, 4⟩
  else none

/-- A sequence that has begun: its place, its first byte, how many of its bytes were read, how many
are still owed, which next byte is admitted, and the bits so far. -/
structure Sequence where
  start : Nat
  first : Nat
  read : Nat
  owed : Nat
  least : Nat
  greatest : Nat
  bits : Nat

namespace Sequence

def fault (sequence : Sequence) (cause : DecodingCause) : Fault :=
  .undecodable sequence.first sequence.start (sequence.start + sequence.read - 1) cause

end Sequence

def decodeFrom (place : Nat) : Option Sequence → List UInt8 →
    Except Fault (List Char × Option Sequence)
  | sequence, [] => .ok ([], sequence)
  | none, byte :: rest =>
      match leadingByte? byte.toNat with
      | none => .error (.undecodable byte.toNat place place .badStart)
      | some ⟨0, _, _, bits⟩ => do
          let (chars, cut) ← decodeFrom (place + 1) none rest
          pure (Char.ofNat bits :: chars, cut)
      | some ⟨tails, least, greatest, bits⟩ =>
          decodeFrom (place + 1) (some ⟨place, byte.toNat, 1, tails, least, greatest, bits⟩) rest
  | some sequence, byte :: rest =>
      let n := byte.toNat
      if sequence.least ≤ n ∧ n ≤ sequence.greatest then
        let bits := sequence.bits * 64 + (n - 0x80)
        if sequence.owed = 1 then do
          let (chars, cut) ← decodeFrom (place + 1) none rest
          pure (Char.ofNat bits :: chars, cut)
        else
          decodeFrom (place + 1)
            (some { sequence with
              read := sequence.read + 1, owed := sequence.owed - 1
              least := 0x80, greatest := 0xbf, bits }) rest
      else .error (sequence.fault .badContinuation)

end LinearProgram.Text
