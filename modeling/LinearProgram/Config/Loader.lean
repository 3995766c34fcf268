import LinearProgram.Config.Document
import LinearProgram.Solver.Settings
import LinearProgram.Text.Reading

/-!
Loading the settings of a solver. A file gives values under the key `solver`, an environment
overrides them one by one with texts that are not empty, and defaults stand for what neither has.
Only a file that was asked for has to exist. How the text of a file becomes a document is up to a reader.
-/

namespace LinearProgram

structure Environment where
  presolve : Option String := none
  gap : Option String := none
  timeLimit : Option String := none

def TextsOnce (entries : List (Document × Document)) : Prop :=
  entries.Pairwise fun one other => ∀ key, one.1 = .text key → other.1 ≠ .text key

/-- What makes documents of texts. In a mapping that it makes, and in the mappings right under its keys, each
text is a key once. -/
structure Reader where
  read : Text.Reading → Except Fault Document
  textsOnce : ∀ text entries, read text = .ok (.mapping entries) → TextsOnce entries ∧
    ∀ entry ∈ entries, ∀ inner, entry.2 = .mapping inner → TextsOnce inner

structure SettingsSource where
  path : String
  required : Bool
  contents : Option (List UInt8)
  reader : Reader
  environment : Environment := {}

structure LoadedConfig where
  entries : List (Document × Document)
  environment : Environment

structure LoadedSettings where
  presolve : Bool
  gap : Binary64
  timeLimit : Option Binary64
  deriving DecidableEq

namespace LoadedSettings

def toConfig (loaded : LoadedSettings) : SolverConfig where
  presolve := .bool loaded.presolve
  gap := .float loaded.gap
  timeLimit := (loaded.timeLimit.map Value.float).getD .null

end LoadedSettings

namespace SettingsSource

/-- The entries under `solver` in a document. A document that counts as false is an empty mapping, and so
is a value of `solver` that does. -/
def section? (path : String) (document : Document) : Except Fault (List (Document × Document)) :=
  let entries := match document with
    | .mapping entries => some entries
    | other => if other.isTruthy then none else some []
  match entries.bind (Document.entryOf? "solver") with
  | none => .error (.solverKeyMissing path)
  | some (.mapping entries) => .ok entries
  | some other => if other.isTruthy then .error (.solverNotMapping path) else .ok []

def load (source : SettingsSource) : Except Fault LoadedConfig :=
  match source.contents with
  | none =>
      if source.required then .error (.configMissing source.path)
      else .ok ⟨[], source.environment⟩
  | some bytes => do
      let document ← source.reader.read (Text.readFile bytes)
      pure ⟨← section? source.path document, source.environment⟩

end SettingsSource

namespace LoadedConfig

/-- A text of the environment, unless it is empty. -/
def override? (text : Option String) : Option String := text.filter (!·.isEmpty)

def chosen (config : LoadedConfig) (text : Option String) (key : String) (default : Document) : Document :=
  match override? text with
  | some text => .text text
  | none => (Document.entryOf? key config.entries).getD default

def presolve (config : LoadedConfig) : Except Fault Bool :=
  (config.chosen config.environment.presolve "presolve" (.scalar (.bool true))).toBool

def gap (config : LoadedConfig) : Except Fault Binary64 :=
  (config.chosen config.environment.gap "mip_gap" (.scalar (.float .zero))).toBinary64

def timeLimit (config : LoadedConfig) : Except Fault (Option Binary64) :=
  match config.chosen config.environment.timeLimit "time_limit" .null with
  | .null => .ok none
  | value => value.toBinary64.map some

def settings (config : LoadedConfig) : Except Fault LoadedSettings := do
  pure ⟨← config.presolve, ← config.gap, ← config.timeLimit⟩

end LoadedConfig

end LinearProgram
