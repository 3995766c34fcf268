import LinearProgram.Fault

/-!
A place in a YAML text, and what separates tokens: blanks, comments and line ends. The separators of
lines and paragraphs end lines too.
-/

namespace LinearProgram.Yaml

inductive Obstacle where
  | fault (fault : Fault)
  | ended

namespace Obstacle

def malformed : Obstacle := .fault .malformedConfig

/-- The fault that an obstacle makes; there is a reason why nothing is left, unless that itself is
malformed. -/
def settle (reason : Option Fault) : Obstacle → Fault
  | fault f => f
  | ended => reason.getD .malformedConfig

end Obstacle

def isBreak (c : Char) : Bool :=
  c == '\n' || c == '\r' || c == '\x85' || c == '\u2028' || c == '\u2029'

def isGap (c : Char) : Bool := c == ' ' || c == '\t' || isBreak c

def gapNext : List Char → Bool
  | [] => true
  | c :: _ => isGap c

def markNext : List Char → Bool
  | '-' :: '-' :: '-' :: rest => gapNext rest
  | '.' :: '.' :: '.' :: rest => gapNext rest
  | _ => false

structure Cursor where
  rest : List Char
  index : Nat := 0
  line : Nat := 0
  column : Nat := 0

namespace Cursor

/-- The cursor behind one character; a byte order mark takes no column. -/
def step (cursor : Cursor) : Cursor :=
  match cursor.rest with
  | [] => cursor
  | c :: rest =>
      if isBreak c then ⟨rest, cursor.index + 1, cursor.line + 1, 0⟩
      else if c = '\ufeff' then ⟨rest, cursor.index + 1, cursor.line, cursor.column⟩
      else ⟨rest, cursor.index + 1, cursor.line, cursor.column + 1⟩

def steps : Nat → Cursor → Cursor
  | 0, cursor => cursor
  | count + 1, cursor => steps count cursor.step

def takeWhile (test : Char → Bool) (cursor : Cursor) : List Char × Cursor :=
  let run := cursor.rest.takeWhile test
  (run, steps run.length cursor)

end Cursor

def skipGaps (fuel : Nat) (comment : Bool) (ended : Bool) (cursor : Cursor) : Bool × Cursor :=
  match fuel, cursor.rest with
  | fuel + 1, c :: _ =>
      if isBreak c then skipGaps fuel false true cursor.step
      else if comment || c = '#' then skipGaps fuel true ended cursor.step
      else if c = ' ' then skipGaps fuel false ended cursor.step
      else (ended, cursor)
  | _, _ => (ended, cursor)

end LinearProgram.Yaml
