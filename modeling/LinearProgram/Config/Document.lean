import LinearProgram.Value.Numeric
import LinearProgram.Value.Written

/-!
Documents: what a reader makes of a file. A document is a scalar, a run of bytes, or a collection of
documents, and it is written, read as a number or as a truth value like values of callers.
-/

namespace LinearProgram

inductive Scalar where
  | null
  | bool (b : Bool)
  | number (x : Number)
  | text (s : String)
  | day (d : Day)
  | moment (m : Moment)

namespace Scalar

@[match_pattern] abbrev int (n : Int) : Scalar := .number (.int n)

@[match_pattern] abbrev float (x : Binary64) : Scalar := .number (.float x)

def value : Scalar → Value
  | null => .null
  | bool b => .bool b
  | number x => .number x
  | text s => .text s
  | day d => .day d
  | moment m => .moment m

end Scalar

inductive Frame where
  | list
  | tuple
  | mapping

namespace Frame

def kindName : Frame → String
  | list => "list"
  | tuple => "tuple"
  | mapping => "dict"

def ellipsis : Frame → String
  | list => "[...]"
  | tuple => "(...)"
  | mapping => "\x7b...\x7d"

end Frame

/-- What a file may hold. A collection that holds itself is given up to the place where its text begins
anew, and there it stands as `again`. -/
inductive Document where
  | scalar (scalar : Scalar)
  | bytes (run : List UInt8)
  | list (items : List Document)
  | tuple (items : List Document)
  | set (items : List Document)
  | mapping (entries : List (Document × Document))
  | again (frame : Frame)

namespace Document

@[match_pattern] abbrev null : Document := .scalar .null

@[match_pattern] abbrev text (s : String) : Document := .scalar (.text s)

def kindName : Document → String
  | scalar s => s.value.kindName
  | bytes _ => "bytes"
  | list _ => "list"
  | tuple _ => "tuple"
  | set _ => "set"
  | mapping _ => "dict"
  | again frame => frame.kindName

def isTruthy : Document → Bool
  | scalar s => s.value.isTruthy
  | bytes run => !run.isEmpty
  | list items | tuple items | set items => !items.isEmpty
  | mapping entries => !entries.isEmpty
  | again _ => true

mutual

def quoted : Document → String
  | scalar s => s.value.quoted
  | bytes run => Text.quotedBytes run
  | list items => "[" ++ quotedItems items ++ "]"
  | tuple [item] => "(" ++ quoted item ++ ",)"
  | tuple items => "(" ++ quotedItems items ++ ")"
  | set [] => "set()"
  | set items => "\x7b" ++ quotedItems items ++ "\x7d"
  | mapping entries => "\x7b" ++ quotedEntries entries ++ "\x7d"
  | again frame => frame.ellipsis

def quotedItems : List Document → String
  | [] => ""
  | [item] => quoted item
  | item :: next :: rest => quoted item ++ ", " ++ quotedItems (next :: rest)

def quotedEntry : Document × Document → String
  | (key, value) => quoted key ++ ": " ++ quoted value

def quotedEntries : List (Document × Document) → String
  | [] => ""
  | [entry] => quotedEntry entry
  | entry :: next :: rest => quotedEntry entry ++ ", " ++ quotedEntries (next :: rest)

end

mutual

def holdsLong : Document → Bool
  | scalar s => s.value.holdsLong
  | list items | tuple items | set items => anyLong items
  | mapping entries => anyLongEntry entries
  | bytes _ | again _ => false

def anyLong : List Document → Bool
  | [] => false
  | item :: rest => holdsLong item || anyLong rest

def isLongEntry : Document × Document → Bool
  | (key, value) => holdsLong key || holdsLong value

def anyLongEntry : List (Document × Document) → Bool
  | [] => false
  | entry :: rest => isLongEntry entry || anyLongEntry rest

end

/-- A scalar is written like a value, anything else in its quoted form. -/
def written (document : Document) : Except Fault String :=
  match document with
  | scalar s => s.value.written
  | document => if document.holdsLong then .error (.tooManyDigits none) else .ok document.quoted

/-- The number that a document stands for. Bytes are read like the text of their ASCII characters. -/
def toBinary64 : Document → Except Fault Binary64
  | scalar s => s.value.toBinary64
  | bytes run =>
      let chars := run.map fun byte => Char.ofNat byte.toNat
      match if run.all (· < 0x80) then NumberText.binary64? (String.ofList chars) else none with
      | some x => .ok x
      | none => .error (.unreadableNumber (Text.quotedBytes run))
  | document => .error (.notNumeric document.kindName)

def toBool : Document → Except Fault Bool
  | scalar (.bool b) => .ok b
  | document => do
      match truth? (← document.written) with
      | some b => pure b
      | none => .error (.notBoolean document.quoted)

def isText (key : String) : Document → Bool
  | text s => s == key
  | _ => false

def entryOf? (key : String) (entries : List (Document × Document)) : Option Document :=
  (entries.find? fun entry => entry.1.isText key).map (·.2)

end Document

end LinearProgram
