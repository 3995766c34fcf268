import LinearProgram.Fault
import LinearProgram.Number.Reader

/-!
Values as texts and as keys. A value is written in its display form, unless it is an entity whose key
is no text, or holds a whole number with too many digits. A key of a row or column is composed of a
name and the texts of indices. Keys compare as texts or as numbers, and entities by their keys.
-/

namespace LinearProgram

/-- A truth value as it is written: a word or digit, in any case of letters and with blanks around it. No
letter beyond ASCII has a lower case in these words. -/
def truth? (text : String) : Option Bool :=
  let word := String.ofList ((Text.trim Text.isBlank text.toList).map Char.toLower)
  if ["1", "true", "yes", "on"].contains word then some true
  else if ["0", "false", "no", "off"].contains word then some false
  else none

namespace Value

def isLong (n : Int) : Bool := NumberText.digitLimit < (decimalDigits n.natAbs).length

mutual

def holdsLong : Value → Bool
  | number (.int n) => isLong n
  | list items => anyLong items
  | mapping entries => anyLongEntry entries
  | entity _ _ key => holdsLong key
  | _ => false

def anyLong : List Value → Bool
  | [] => false
  | item :: rest => holdsLong item || anyLong rest

def isLongEntry : Value × Value → Bool
  | (key, value) => holdsLong key || holdsLong value

def anyLongEntry : List (Value × Value) → Bool
  | [] => false
  | entry :: rest => isLongEntry entry || anyLongEntry rest

end

def checkShown (value : Value) : Except Fault Unit :=
  if value.holdsLong then .error (.tooManyDigits none) else .ok ()

def shown (value : Value) : Except Fault String := value.checkShown.map fun _ => value.quoted

def written : Value → Except Fault String
  | entity _ _ (text s) => .ok s
  | entity _ _ key => .error (.notText key.kindName)
  | value => if value.holdsLong then .error (.tooManyDigits none) else .ok value.display

def toBool : Value → Except Fault Bool
  | bool b => .ok b
  | value => do
      match truth? (← value.written) with
      | some b => pure b
      | none => .error (.notBoolean value.quoted)

/-- Whether one key comes before another. What is compared with an entity is asked for its key. -/
def before : Value → Value → Except Fault Bool
  | text s, text t => .ok (s < t)
  | entity _ _ key, entity _ _ other => before key other
  | entity .., other => .error (.noSuchMember other.kindName "key")
  | value, other =>
      match value.number?, other.number? with
      | some x, some y => .ok (x.less y)
      | _, _ => .error (.unordered "<" value.kindName other.kindName)

end Value

namespace Key

def compose (name : String) : List String → String
  | [] => name
  | first :: rest => name ++ "(" ++ ",".intercalate (first :: rest) ++ ")"

def ofValues (name : Value) (indices : List Value) : Except Fault String := do
  pure (compose (← name.written) (← indices.mapM Value.written))

end Key

end LinearProgram
