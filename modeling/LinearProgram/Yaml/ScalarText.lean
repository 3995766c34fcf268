import LinearProgram.Yaml.Cursor
import LinearProgram.Yaml.Scalar

/-!
The texts of plain and quoted scalars. A scalar may go on over lines: a single line end counts as a
space, and of several the first is dropped. A plain scalar ends before a comment, before a colon that
makes it a key, and where a block is left.
-/

namespace LinearProgram.Yaml

/-- A line end as it counts in a scalar: a separator keeps its kind, any other becomes a feed. -/
def breakText (c : Char) : List Char :=
  if c == '\u2028' || c == '\u2029' then [c] else ['\n']

/-- Folding a line end: alone it becomes a space, before empty lines it vanishes. -/
def foldBreak (first : Char) (others : List Char) : List Char :=
  (if breakText first != ['\n'] then breakText first else if others.isEmpty then [' '] else []) ++
    others

def plainBreaks (fuel : Nat) (cursor : Cursor) (breaks : List Char) :
    Option (List Char × Cursor) :=
  match fuel, cursor.rest with
  | fuel + 1, c :: _ =>
      if c = ' ' then plainBreaks fuel cursor.step breaks
      else if isBreak c then
        let next := cursor.step
        if markNext next.rest then none else plainBreaks fuel next (breaks ++ breakText c)
      else some (breaks, cursor)
  | _, _ => some (breaks, cursor)

/-- The blanks inside a plain scalar, folded, and the cursor behind them; also whether a line ended.
Nothing comes back when the scalar ends before a document mark. -/
def plainSpaces (cursor : Cursor) : List Char × Bool × Cursor :=
  let (blanks, behind) := cursor.takeWhile (· == ' ')
  match behind.rest with
  | c :: _ =>
      if isBreak c then
        let next := behind.step
        if markNext next.rest then ([], true, next)
        else match plainBreaks next.rest.length next [] with
          | none => ([], true, next)
          | some (breaks, cursor) => (foldBreak c breaks, true, cursor)
      else (blanks, false, behind)
  | [] => (blanks, false, behind)

def plainRun (inFlow : Bool) : List Char → List Char
  | [] => []
  | c :: rest =>
      if isGap c then []
      else if c = ':' && (gapNext rest || (inFlow && ",[]\x7b\x7d".toList.contains (rest.headD ' '))) then []
      else if inFlow && ",?[]\x7b\x7d".toList.contains c then []
      else c :: plainRun inFlow rest

structure PlainScan where
  text : List Char
  /-- Whether a line ended behind the last piece of text. -/
  ended : Bool
  cursor : Cursor

/-- A plain scalar goes on over blanks and line ends while text follows that is no comment and, in
a block, is indented further than the block. -/
def scanPlain (inFlow : Bool) (indent : Int) (fuel : Nat) (scan : PlainScan) (blanks : List Char) :
    PlainScan :=
  match fuel with
  | 0 => scan
  | fuel + 1 =>
      let run := plainRun inFlow scan.cursor.rest
      if scan.cursor.rest.head? = some '#' ∨ run.isEmpty then scan
      else
        let behind := Cursor.steps run.length scan.cursor
        let (spaces, ended, cursor) := plainSpaces behind
        let next : PlainScan := ⟨scan.text ++ blanks ++ run, ended, cursor⟩
        if spaces.isEmpty ∨ cursor.rest.head? = some '#' ∨
            (!inFlow ∧ (cursor.column : Int) < indent) then next
        else scanPlain inFlow indent fuel next spaces

def escapes : List (Char × Char) := [
  ('0', '\x00'), ('a', '\x07'), ('b', '\x08'), ('t', '\t'), ('\t', '\t'), ('n', '\n'), ('v', '\x0b'),
  ('f', '\x0c'), ('r', '\r'), ('e', '\x1b'), (' ', ' '), ('\x22', '\x22'), ('\\', '\\'), ('/', '/'),
  ('N', '\x85'), ('_', '\xa0'), ('L', '\u2028'), ('P', '\u2029')]

def codeEscapes : List (Char × Nat) := [('x', 2), ('u', 4), ('U', 8)]

def ofCode (code : Nat) : Except Obstacle Char :=
  if code < 0x110000 then .ok (Char.ofNat code)
  else .error (.fault (.noCharacter (Nat.pow 2 31 ≤ code)))

def codeEscape (width : Nat) (chars : List Char) : Except Obstacle Char :=
  let digits := chars.take width
  if !digits.all isHexDigit then .error .malformed
  else if digits.length < width then .error .ended
  else ofCode (NumberText.digitsValue 16 digits)

def quotedBreaks (fuel : Nat) (cursor : Cursor) (breaks : List Char) :
    Except Obstacle (List Char × Cursor) :=
  if markNext cursor.rest then .error .malformed
  else
    let (_, behind) := cursor.takeWhile fun c => c == ' ' || c == '\t'
    match fuel, behind.rest with
    | fuel + 1, c :: _ =>
        if isBreak c then quotedBreaks fuel behind.step (breaks ++ breakText c)
        else .ok (breaks, behind)
    | _, _ => .ok (breaks, behind)

/-- A quoted scalar from behind its opening quote, after characters that are given last first. In
single quotes a quote is written twice; in double quotes a backslash begins an escape. -/
def scanQuoted (double : Bool) (fuel : Nat) (text : List Char) (cursor : Cursor) :
    Except Obstacle (List Char × Cursor) :=
  match fuel with
  | 0 => .error .malformed
  | fuel + 1 =>
      match cursor.rest with
      | [] => .error .ended
      | c :: rest =>
          if !double && c = '\x27' then
            if rest.head? = some '\x27' then
              scanQuoted double fuel ('\x27' :: text) (Cursor.steps 2 cursor)
            else .ok (text.reverse, cursor.step)
          else if double && c = '\x22' then .ok (text.reverse, cursor.step)
          else if double && c = '\\' then
            match rest with
            | [] => .error .ended
            | letter :: tail =>
                match escapes.lookup letter, codeEscapes.lookup letter with
                | some meaning, _ => scanQuoted double fuel (meaning :: text) (Cursor.steps 2 cursor)
                | none, some width => do
                    let meaning ← codeEscape width tail
                    scanQuoted double fuel (meaning :: text) (Cursor.steps (2 + width) cursor)
                | none, none =>
                    if isBreak letter then do
                      let (breaks, behind) ←
                        quotedBreaks cursor.rest.length (Cursor.steps 2 cursor) []
                      scanQuoted double fuel (breaks.reverse ++ text) behind
                    else .error .malformed
          else if c = ' ' || c = '\t' || isBreak c then
            let (blanks, behind) := cursor.takeWhile fun c => c == ' ' || c == '\t'
            match behind.rest with
            | [] => .error .ended
            | first :: _ =>
                if isBreak first then do
                  let (breaks, behind) ← quotedBreaks behind.rest.length behind.step []
                  scanQuoted double fuel ((foldBreak first breaks).reverse ++ text) behind
                else scanQuoted double fuel (blanks.reverse ++ text) behind
          else scanQuoted double fuel (c :: text) cursor.step

end LinearProgram.Yaml
