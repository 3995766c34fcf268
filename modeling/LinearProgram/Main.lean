import LinearProgram.CuttingStock

/-!
The command line of the cutting stock example. Settings come from `configs/solver.yaml` if it exists,
and arguments such as `mip_gap=0.1` override them. No engine is linked in, so the environment of the
engine cannot be opened and the solve reports that.
-/

namespace LinearProgram

def argument? (arguments : List String) (name : String) : Option String :=
  arguments.findSome? fun text =>
    if text.startsWith (name ++ "=") then some ((text.drop (name.length + 1)).toString) else none

def missingEngine : Script where
  failure := some ⟨.openEnvironment, 0, .reported (.int 10009) "No engine is available"⟩

end LinearProgram

open LinearProgram in
def main (arguments : List String) : IO UInt32 := do
  let path := "configs/solver.yaml"
  let contents ← try pure (some (← IO.FS.readBinFile path).toList) catch _ => pure none
  let environment : Environment :=
    { presolve := argument? arguments "presolve", gap := argument? arguments "mip_gap"
      timeLimit := argument? arguments "time_limit" }
  match CuttingStock.demonstrate ⟨path, false, contents, environment⟩ missingEngine with
  | .ok shown =>
      IO.print shown.output
      for notice in shown.notices do
        if notice.level != .debug then
          IO.eprintln (notice.level.word ++ ": " ++ notice.message)
      pure 0
  | .error fault =>
      match CuttingStock.exampleListing with
      | .ok listing => IO.print listing
      | .error _ => pure ()
      IO.eprintln fault.message
      pure 1
