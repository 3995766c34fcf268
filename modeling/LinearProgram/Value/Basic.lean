import LinearProgram.Calendar
import LinearProgram.Number.Basic
import LinearProgram.Text.Characters

/-!
The values that a caller may hand over: settings, names, bounds, column types and directions are kept
as given, and only a step that needs a number or a text converts them. Each value has a display form
and a quoted form, which differ on texts and on members of an enumeration.
-/

namespace LinearProgram

inductive ColumnType where
  | float
  | integer
  | binary
  deriving DecidableEq, Repr

inductive Direction where
  | minimize
  | maximize
  deriving DecidableEq, Repr

inductive EntityKind where
  | column
  | row
  | objective
  deriving DecidableEq, Repr

/-- A value. An entity is known by the number of its problem, its kind and its key; the key is a text,
unless the entity is an objective that was named by something else. -/
inductive Value where
  | null
  | bool (b : Bool)
  | number (x : Number)
  | text (s : String)
  | list (items : List Value)
  | columnType (t : ColumnType)
  | direction (d : Direction)
  | entity (problem : Nat) (kind : EntityKind) (key : Value)
  | mapping (entries : List (Value × Value))
  | day (d : Day)
  | moment (m : Moment)

namespace ColumnType

def word : ColumnType → String
  | float => "float"
  | integer => "integer"
  | binary => "binary"

def memberName : ColumnType → String
  | float => "ColumnType.FLOAT"
  | integer => "ColumnType.INTEGER"
  | binary => "ColumnType.BINARY"

end ColumnType

namespace Direction

def word : Direction → String
  | minimize => "minimize"
  | maximize => "maximize"

def memberName : Direction → String
  | minimize => "Direction.MINIMIZE"
  | maximize => "Direction.MAXIMIZE"

end Direction

namespace EntityKind

def name : EntityKind → String
  | column => "Column"
  | row => "Row"
  | objective => "Objective"

/-- Rows and objectives share one name space, columns have another. -/
def isRow : EntityKind → Bool
  | column => false
  | row | objective => true

end EntityKind

namespace Value

instance : Inhabited Value := ⟨.null⟩

@[match_pattern] abbrev int (n : Int) : Value := .number (.int n)

@[match_pattern] abbrev float (x : Binary64) : Value := .number (.float x)

def kindName : Value → String
  | null => "NoneType"
  | bool _ => "bool"
  | number (.int _) => "int"
  | number (.float _) => "float"
  | text _ => "str"
  | list _ => "list"
  | columnType _ => "ColumnType"
  | direction _ => "Direction"
  | entity _ kind _ => kind.name
  | mapping _ => "dict"
  | day _ => "datetime.date"
  | moment _ => "datetime.datetime"

def isTruthy : Value → Bool
  | null => false
  | bool b => b
  | number x => !x.isZero
  | text s => !s.isEmpty
  | list items => !items.isEmpty
  | mapping entries => !entries.isEmpty
  | columnType _ | direction _ | entity .. | day _ | moment _ => true

mutual

/-- The form in which a value stands inside another value and in messages. -/
def quoted : Value → String
  | null => "None"
  | bool b => if b then "True" else "False"
  | number x => x.text
  | text s => Text.quoted s
  | list items => "[" ++ quotedItems items ++ "]"
  | columnType t => "<" ++ t.memberName ++ ": " ++ Text.quoted t.word ++ ">"
  | direction d => "<" ++ d.memberName ++ ": " ++ Text.quoted d.word ++ ">"
  | entity _ kind key => kind.name ++ "(" ++ quoted key ++ ")"
  | mapping entries => "\x7b" ++ quotedEntries entries ++ "\x7d"
  | day d => d.quoted
  | moment m => m.quoted

def quotedItems : List Value → String
  | [] => ""
  | [item] => quoted item
  | item :: next :: rest => quoted item ++ ", " ++ quotedItems (next :: rest)

def quotedEntry : Value × Value → String
  | (key, value) => quoted key ++ ": " ++ quoted value

def quotedEntries : List (Value × Value) → String
  | [] => ""
  | [entry] => quotedEntry entry
  | entry :: next :: rest => quotedEntry entry ++ ", " ++ quotedEntries (next :: rest)

end

def display : Value → String
  | text s => s
  | columnType t => t.memberName
  | direction d => d.memberName
  | entity _ _ key => key.display
  | day d => d.display
  | moment m => m.display
  | other => other.quoted

def number? : Value → Option Number
  | bool b => some (.int (if b then 1 else 0))
  | number x => some x
  | _ => none

def isNaN : Value → Bool
  | number (.float x) => x.isNaN
  | _ => false

/-- Whether two keys of entities are one key. At most one key in a problem is no text. -/
def sameKey : Value → Value → Bool
  | text s, text t => s == t
  | text _, _ | _, text _ => false
  | _, _ => true

mutual

def equals : Value → Value → Bool
  | null, null => true
  | text s, text t => s == t
  | columnType s, columnType t => s == t
  | direction d, direction e => d == e
  | entity p kind key, entity q other key' => p == q && kind.isRow == other.isRow && sameKey key key'
  | day d, day e => d == e
  | moment m, moment n => m.same n
  | list items, list others => equalItems items others
  | mapping entries, mapping others => equalEntries entries others
  | a, b =>
      match a.number?, b.number? with
      | some x, some y => x.equals y
      | _, _ => false

def equalItems : List Value → List Value → Bool
  | [], [] => true
  | item :: rest, other :: others => equals item other && equalItems rest others
  | _, _ => false

def equalEntry : Value × Value → Value × Value → Bool
  | (key, value), (other, otherValue) => equals key other && equals value otherValue

def equalEntries : List (Value × Value) → List (Value × Value) → Bool
  | [], [] => true
  | entry :: rest, other :: others => equalEntry entry other && equalEntries rest others
  | _, _ => false

end

def isKey : Value → Bool
  | list _ | mapping _ => false
  | _ => true

end Value

structure EntityRef where
  problem : Nat
  kind : EntityKind
  key : Value

namespace EntityRef

def value (ref : EntityRef) : Value := .entity ref.problem ref.kind ref.key

def same (a b : EntityRef) : Bool := a.value.equals b.value

end EntityRef

end LinearProgram
