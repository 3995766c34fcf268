import LinearProgram.Problem.Build

/-!
The listing of a problem: a title, one declaration per column, the objective, one line per
constraint, each in the order of the keys, and a closing line. Whole numbers are written without a
point. A term is a sign, a magnitude and the key of its column.
-/

namespace LinearProgram

namespace Binary64

def amount (x : Binary64) : String :=
  match x.truncate? with
  | some n => if x.isWhole then toString n else x.text
  | none => x.text

def isBelowZero (x : Binary64) : Bool := Number.less (.float x) (.int 0)

end Binary64

namespace Listing

def termText (belowZero : Bool) (magnitude key : String) : String :=
  (if belowZero then "- " else "+ ") ++ magnitude ++ " * " ++ key

def sumText : List String → String
  | [] => "0"
  | terms => " ".intercalate terms

def cellText (cell : String × Binary64) : String :=
  termText cell.2.isBelowZero cell.2.abs.amount cell.1

def cellsText (cells : Catalog Binary64) : String := sumText (cells.entries.map cellText)

def valueTermText (term : String × Value) : Except Fault String := do
  let x ← term.2.comparable "<" "int"
  if x.less (.int 0) then
    pure (termText true (← (Value.number x.neg).amount) term.1)
  else
    let magnitude : Number := match x with
      | .int n => .int n
      | .float y => .float y.abs
    pure (termText false (← (Value.number magnitude).amount) term.1)

/-- The terms with one more; a term for the same column gives way to it and leaves it its place. -/
def putTerm (term : String × Value) : List (String × Value) → List (String × Value)
  | [] => [term]
  | first :: rest => if first.1 = term.1 then term :: rest else first :: putTerm term rest

def valueTermsText (terms : List (String × Value)) : Except Fault String := do
  let distinct := terms.foldl (fun put term => putTerm term put) []
  pure (sumText (← distinct.mapM valueTermText))

def isBound : Value → Bool
  | .null => false
  | _ => true

def boundClause (relation : String) (bound : Value) : Except Fault (List String) :=
  if isBound bound then bound.amount.map fun amount => [relation ++ " " ++ amount] else .ok []

def boundClauses (lower upper : Value) : Except Fault (List String) :=
  if isBound lower && isBound upper && lower.equals upper then boundClause "=" lower
  else do pure ((← boundClause ">=" lower) ++ (← boundClause "<=" upper))

/-- The word for a column's type: nothing for continuous columns and for types that are none. Only
lists and mappings cannot be looked up. -/
def typeClauses : Value → Except Fault (List String)
  | .columnType .integer => .ok ["integer"]
  | .columnType .binary => .ok ["binary"]
  | value@(.list _) | value@(.mapping _) => .error (.notHashable value.kindName)
  | _ => .ok []

def columnText (key : String) (column : Column) : Except Fault String := do
  let types ← typeClauses column.type
  let bounds ← boundClauses column.lower column.upper
  pure (", ".intercalate (("var " ++ key) :: types ++ bounds) ++ ";")

/-- The line of terms with two bounds. Two different bounds stand around the sum, and the key is written before
them; other bounds stand after the sum, and the key is written after them. -/
def rowLine (key : Value) (terms : List (String × Binary64)) (lower upper : Value) : Except Fault String := do
  let sum := sumText (terms.map cellText)
  let (name, parts) ←
    if isBound lower && isBound upper && !lower.equals upper then do
      let name ← key.written
      pure (name, [← lower.amount, "<=", sum, "<=", ← upper.amount])
    else do
      let clauses ← boundClauses lower upper
      pure (← key.written, sum :: clauses)
  pure ("s.t. " ++ name ++ ": " ++ " ".intercalate parts ++ ";")

def rowText (key : Value) (row : Row) : Except Fault String :=
  rowLine key row.cells.entries row.lower row.upper

def directionText : Value → Except Fault String
  | .direction d => .ok d.word
  | .columnType t => .ok t.word
  | value => value.written

def objectiveText (key : Value) (row : Row) : Except Fault String := do
  let direction ← match row.direction with
    | some value => directionText value
    | none => pure ""
  pure (direction ++ " " ++ (← key.written) ++ ": " ++ cellsText row.cells ++ ";")

end Listing

namespace Problem

/-- The lines of the listing. The rows are put in order after the columns are written. -/
def listingLines (problem : Problem) : Except Fault (List String) := do
  let title ← if problem.name.isTruthy then
      problem.name.written.map fun name => ["\\* " ++ name ++ " *\\"]
    else pure []
  let columns ← problem.columns.entries.mapM fun (key, column) => Listing.columnText key column
  problem.checkOrder
  let objective ← problem.objective?.toList.mapM fun (key, row) => Listing.objectiveText key row
  let constraints ← problem.constraints.mapM fun (key, row) => Listing.rowText (.text key) row
  pure (title ++ columns ++ objective ++ constraints ++ ["end;"])

def listing (problem : Problem) : Except Fault String := do
  pure ("\n".intercalate (← problem.listingLines))

end Problem

end LinearProgram
