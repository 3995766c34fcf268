import LinearProgram.Problem.Listing
import LinearProgram.Solver.Solve
import LinearProgram.Yaml.Reader

/-!
The cutting stock model: products of given lengths are cut from stock items so that each demand is
met and the waste is least. A binary column per stock item tells whether it is used, and an integer
column per item and product counts the pieces. A row per stock item keeps the pieces within its
length, a row per product fixes their number, and the waste is the sum of what is left over.
-/

namespace LinearProgram.CuttingStock

def useKey (item : Nat) : String := Key.compose "u" [toString item]

def cutKey (item product : Nat) : String := Key.compose "x" [toString item, toString product]

def stockKey (item : Nat) : String := Key.compose "stock" [toString item]

def demandKey (product : Nat) : String := Key.compose "demand" [toString product]

def wasteKey : String := "waste"

def declareColumn (key : String) (type : ColumnType) (lower : Value) (problem : Problem) : Problem :=
  (problem.ensureColumn key).changeColumn key fun column =>
    { column with type := .columnType type, lower, upper := .null }

def declareItem (products : Nat) (problem : Problem) (item : Nat) : Problem :=
  (List.range products).foldl
    (fun problem product =>
      declareColumn (cutKey item product) .integer (.float .zero) problem)
    (declareColumn (useKey item) .binary .null problem)

def addTerm (row column : String) (coefficient : Value) (problem : Problem) :
    Except Fault Problem := do
  let named := problem.ensureColumn column
  pure (named.setCoefficient (.text row) column (← coefficient.toBinary64))

/-- What is left of a stock item: its length if it is used, less the lengths of its pieces. -/
def addItem (row : String) (products : List Value) (item : Nat) (length : Value)
    (problem : Problem) : Except Fault Problem := do
  let used ← addTerm row (useKey item) length problem
  products.zipIdx.foldlM (fun problem (product, index) => do
    addTerm row (cutKey item index) (← product.negated) problem) used

def declareRow (key : String) (lower upper : Value) (problem : Problem) : Except Fault Problem :=
  let (bounded, outcome) := (problem.ensureRow key).setBounds .row (.text key) lower upper
  outcome.map fun _ => bounded

def addDemand (items : Nat) (demand : List Value) (problem : Problem) (product : Nat) :
    Except Fault Problem :=
  match demand[product]? with
  | none => .error .indexOutOfRange
  | some amount => do
      let declared ← declareRow (demandKey product) amount amount problem
      (List.range items).foldlM (fun problem item =>
        addTerm (demandKey product) (cutKey item product) (.float (.ofInt 1)) problem) declared

def build (stock product demand : List Value) : Except Fault Problem := do
  let declared := (List.range stock.length).foldl (declareItem product.length)
    { name := .text "CuttingStock" }
  let aimed ← declared.createObjective (.text wasteKey) (.direction .minimize)
  let wasted ← stock.zipIdx.foldlM (fun problem (length, item) =>
    addItem wasteKey product item length problem) aimed
  let stocked ← stock.zipIdx.foldlM (fun problem (length, item) => do
    let row ← declareRow (stockKey item) (.float .zero) .null problem
    addItem (stockKey item) product item length row) wasted
  (List.range product.length).foldlM (addDemand stock.length demand) stocked

def readValue (problem : Problem) (key : String) : Value × Problem :=
  let named := problem.ensureColumn key
  (((named.columns.get? key).map (·.value)).getD .null, named)

def isCut (value : Value) : Except Fault Bool := do
  pure ((Number.float (.ofRatio false 1 2)).less (← value.comparable ">" "float"))

def itemTerms (products : List Value) (item : Nat) (problem : Problem) :
    Except Fault (List String × Problem) :=
  products.zipIdx.foldlM (fun (terms, problem) (product, index) => do
    let (value, named) := readValue problem (cutKey item index)
    if ← isCut value then
      pure (terms ++ [(← value.generalText) ++ " * " ++ product.display], named)
    else pure (terms, named)) ([], problem)

/-- What is printed up to the end or up to a fault, and the problem after reading. -/
structure Printout where
  lines : List String
  outcome : Except Fault Problem

namespace Printout

def text (printed : Printout) : String := String.join (printed.lines.map (· ++ "\n"))

end Printout

def itemLines (products : List Value) : List (Value × Nat) → Problem → Printout
  | [], problem => ⟨[], .ok problem⟩
  | (length, item) :: rest, problem =>
      match itemTerms products item problem with
      | .error fault => ⟨[], .error fault⟩
      | .ok (terms, read) =>
          let later := itemLines products rest read
          if terms.isEmpty then later
          else { later with lines := (length.display ++ " >= " ++ " + ".intercalate terms) :: later.lines }

def wasteOf (problem : Problem) : Value :=
  ((problem.objective?).map fun (_, row) => row.value).getD .null

def plan (problem : Problem) (stock products : List Value) : Printout :=
  let items := itemLines products stock.zipIdx problem
  let heading := "Production plan"
  match items.outcome with
  | .error fault => ⟨heading :: items.lines, .error fault⟩
  | .ok read =>
      match (wasteOf read).generalText with
      | .error fault => ⟨heading :: items.lines, .error fault⟩
      | .ok waste => ⟨heading :: items.lines ++ ["Waste = " ++ waste], .ok read⟩

def planFor (problem : Problem) (stock products : List Value) (values : List (String × Value))
    (waste : Option Value) : Except Fault (String × Problem) :=
  let valued := values.foldl (fun problem (key, value) =>
    (problem.ensureColumn key).changeColumn key fun column => { column with value }) problem
  let wasted := match waste with
    | some value => valued.changeRow (.text wasteKey) fun row => { row with value }
    | none => valued
  let printed := plan wasted stock products
  printed.outcome.map fun read => (printed.text, read)

def exampleStock : List Value := [50, 50, 100, 100, 100, 200, 200].map Value.int

def exampleProducts : List Value := [6, 10, 16, 25, 40, 63].map Value.int

def exampleDemand : List Value := [20, 10, 3, 7, 2, 1].map Value.int

structure Demonstration where
  output : String
  calls : List Call
  notices : List Notice

def example? : Except Fault Problem := build exampleStock exampleProducts exampleDemand

def exampleListing : Except Fault String := do
  pure ((← (← example?).listing) ++ "\n\n")

def demonstrate (source : ConfigSource) (engine : Engine) : Except Fault Demonstration := do
  let listing ← exampleListing
  let problem ← example?
  let loaded ← (← source.load).settings
  let tuned := Settings.configure {} loaded.toConfig
  let _ ← tuned.accepted
  let solved := Solver.solve { settings := tuned.settings } problem engine
  let ending ←
    if ← solved.outcome then
      let printed := plan solved.problem exampleStock exampleProducts
      printed.outcome.map fun _ => printed.text
    else pure ("No solution found (" ++ solved.solver.state.status.word ++ ").\n")
  pure ⟨listing ++ ending, solved.calls, tuned.notices ++ solved.notices⟩

end LinearProgram.CuttingStock
