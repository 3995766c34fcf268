import LinearProgram.Solver.Notice
import LinearProgram.Value.Numeric
import LinearProgram.Value.Written

/-!
Tuning settings. A gap is accepted when it compares as at least zero, a time limit when it compares
as between zero and the greatest limit; a value that is no number is rejected. An accepted value is
then converted, and a whole number too large to convert is a fault. A rejected value is reported in its
quoted form, and one that holds a whole number with too many digits is a fault. What is not accepted
leaves the settings as they were.
-/

namespace LinearProgram

structure Settings where
  presolve : Bool := true
  gap : Binary64 := .zero
  timeLimit : Option Binary64 := none
  deriving DecidableEq

/-- Values for the three settings, as a caller or a file gives them. A null limit leaves the time
limit alone. -/
structure SolverConfig where
  presolve : Value := .bool true
  gap : Value := .float .zero
  timeLimit : Value := .null

structure Tuned where
  settings : Settings
  accepted : Except Fault Bool
  notices : List Notice

namespace Settings

/-- Milliseconds in the greatest signed word of 32 bits, as seconds. -/
def greatestTimeLimit : Binary64 := .ofRatio false 2147483647 1000

def setPresolve (settings : Settings) (value : Value) : Tuned :=
  let enabled := value.isTruthy
  ⟨{ settings with presolve := enabled }, .ok true, [.presolve enabled]⟩

def acceptsGap (value : Value) : Bool :=
  match value.number? with
  | some x => Number.atMost (.int 0) x
  | none => false

def acceptsTimeLimit (value : Value) : Bool :=
  match value.number? with
  | some x => Number.atMost (.int 0) x && x.atMost (.float greatestTimeLimit)
  | none => false

def reject (settings : Settings) (value : Value) (notice : Notice) : Tuned :=
  if value.holdsLong then ⟨settings, .error (.tooManyDigits none), []⟩
  else ⟨settings, .ok false, [notice]⟩

def setGap (settings : Settings) (value : Value) : Tuned :=
  if acceptsGap value then
    match value.toBinary64 with
    | .ok gap => ⟨{ settings with gap }, .ok true, [.gapSet gap]⟩
    | .error fault => ⟨settings, .error fault, []⟩
  else settings.reject value (.gapRejected value)

def setTimeLimit (settings : Settings) (value : Value) : Tuned :=
  if acceptsTimeLimit value then
    match value.toBinary64 with
    | .ok limit => ⟨{ settings with timeLimit := some limit }, .ok true, [.timeLimitSet limit]⟩
    | .error fault => ⟨settings, .error fault, []⟩
  else settings.reject value (.timeLimitRejected value)

/-- One step after another. A fault ends the steps; otherwise both have to be accepted. -/
def andThen (first : Tuned) (next : Settings → Tuned) : Tuned :=
  match first.accepted with
  | .error _ => first
  | .ok accepted =>
      let second := next first.settings
      ⟨second.settings, second.accepted.map (· && accepted), first.notices ++ second.notices⟩

def configure (settings : Settings) (config : SolverConfig) : Tuned :=
  let tuned := andThen (settings.setPresolve config.presolve) fun s => s.setGap config.gap
  match config.timeLimit with
  | .null => tuned
  | limit => andThen tuned fun s => s.setTimeLimit limit

end Settings

end LinearProgram
