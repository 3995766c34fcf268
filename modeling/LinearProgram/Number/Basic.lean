import LinearProgram.Number.Layout

/-!
Numbers: whole numbers of any size and binary64 numbers. They compare by their exact values, and
not-a-number compares with nothing.
-/

namespace LinearProgram

inductive Number where
  | int (n : Int)
  | float (x : Binary64)
  deriving DecidableEq

namespace Number

instance : Inhabited Number := ⟨.int 0⟩

/-- The place of a number on the extended line: the sign of an infinity, or the exact value in
quanta. Pairs compare by their first parts, then by their second. -/
def place? : Number → Option (Int × Int)
  | int n => some (0, n * Binary64.quantaPerUnit)
  | float .nan => none
  | float x@(.signed negative ..) =>
      match x.quanta? with
      | some n => some (0, n)
      | none => some (if negative then -1 else 1, 0)

def compare? (a b : Number) : Option Ordering := do
  let x ← a.place?
  let y ← b.place?
  pure ((compare x.1 y.1).then (compare x.2 y.2))

def less (a b : Number) : Bool := compare? a b == some .lt

def atMost (a b : Number) : Bool := compare? a b == some .lt || compare? a b == some .eq

/-- Equality of values: a whole number equals a binary64 number of the same value, and zero equals
negative zero. -/
def equals (a b : Number) : Bool := compare? a b == some .eq

def isZero (a : Number) : Bool := a.equals (.int 0)

def toBinary64? : Number → Option Binary64
  | int n => Binary64.ofInt? n
  | float x => some x

def neg : Number → Number
  | int n => .int (-n)
  | float x => .float x.neg

def text : Number → String
  | int n => toString n
  | float x => x.text

end Number

end LinearProgram
