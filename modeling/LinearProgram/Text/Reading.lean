import LinearProgram.Text.Utf8

/-!
Reading a text file. Its bytes come in pieces, and a fault names places within the piece that it is
in, counted from the sequence that the piece before left unfinished. Line ends of all systems become
line feeds; a carriage return at the end of a piece waits for the next one, since a line feed may
follow. The characters of the pieces before a fault are read all the same.
-/

namespace LinearProgram.Text

structure Reading where
  chars : List Char
  fault : Option Fault := none

def unifyLineEnds : List Char → List Char
  | [] => []
  | '\r' :: '\n' :: rest => '\n' :: unifyLineEnds rest
  | '\r' :: rest => '\n' :: unifyLineEnds rest
  | c :: rest => c :: unifyLineEnds rest

def holdReturn (chars : List Char) : List Char × Bool :=
  if chars.getLast? = some '\r' then (chars.dropLast, true) else (chars, false)

/-- What the pieces so far leave for the next one: an unfinished sequence and a carriage return; and
how many characters there were, and how many bytes and characters the last piece had. -/
structure Carry where
  unfinished : List UInt8 := []
  returned : Bool := false
  total : Nat := 0
  lastBytes : Nat := 0
  lastChars : Nat := 0

def blockSize : Nat := 4096

namespace Carry

/-- The size of the next piece: what the rest of a block is likely to take, going by the last piece,
and not less than a least size. -/
def pieceSize (carry : Carry) : Nat :=
  let missing := blockSize - carry.total % blockSize
  max 8192 (max missing (carry.lastBytes * missing / carry.lastChars))

end Carry

/-- The bytes of a file, piece by piece. Each piece takes at least one byte. -/
def decodePieces (carry : Carry) (bytes : List UInt8) : Reading :=
  match decodeFrom 0 none (carry.unfinished ++ bytes.take carry.pieceSize) with
  | .error fault => ⟨[], some fault⟩
  | .ok (chars, cut) =>
      let chars := if carry.returned then '\r' :: chars else chars
      if _h : bytes = [] then
        match cut with
        | none => ⟨unifyLineEnds chars, none⟩
        | some sequence => ⟨[], some (sequence.fault .cutShort)⟩
      else
        let piece := carry.unfinished ++ bytes.take carry.pieceSize
        let (ready, returned) := holdReturn chars
        let ready := unifyLineEnds ready
        let next : Carry :=
          { unfinished := (cut.map fun sequence => piece.drop sequence.start).getD []
            returned, total := carry.total + ready.length
            lastBytes := min carry.pieceSize bytes.length, lastChars := ready.length }
        let rest := decodePieces next (bytes.drop carry.pieceSize)
        { rest with chars := ready ++ rest.chars }
  termination_by bytes.length
  decreasing_by
    have : 0 < bytes.length := List.length_pos_iff.mpr _h
    have : 8192 ≤ carry.pieceSize := Nat.le_max_left ..
    simp only [List.length_drop]
    omega

def readFile (bytes : List UInt8) : Reading := decodePieces {} bytes

end LinearProgram.Text
