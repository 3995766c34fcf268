import LinearProgram.Solver.Status

/-!
Log records. Each is a fact about a setting or a solve; its level and its wording follow from it.
-/

namespace LinearProgram

inductive NoticeLevel where
  | debug
  | info
  | warning
  | error
  deriving DecidableEq, Repr

namespace NoticeLevel

def word : NoticeLevel → String
  | debug => "DEBUG"
  | info => "INFO"
  | warning => "WARNING"
  | error => "ERROR"

end NoticeLevel

inductive Notice where
  | presolve (enabled : Bool)
  | gapRejected (value : Value)
  | gapSet (gap : Binary64)
  | timeLimitRejected (value : Value)
  | timeLimitSet (limit : Binary64)
  | formulated (title : String) (columns rows cells : Nat)
  | engineMessage (text : String)
  | unsolved (title : String) (status : SolveStatus)
  | solved (title : String) (status : SolveStatus) (objective seconds : String)
  | failed (title message : String)

namespace Notice

def level : Notice → NoticeLevel
  | presolve _ | gapSet _ | timeLimitSet _ | formulated .. | engineMessage _ => .debug
  | gapRejected _ | timeLimitRejected _ | unsolved .. => .warning
  | solved .. => .info
  | failed .. => .error

def message : Notice → String
  | presolve enabled => "Presolve " ++ (if enabled then "enabled" else "disabled")
  | gapRejected value => "Rejected MIP gap " ++ value.quoted ++ ": must be a number >= 0"
  | gapSet gap => "MIP gap set to " ++ gap.text
  | timeLimitRejected value =>
      "Rejected time limit " ++ value.quoted ++ ": must be a number within [0, 2147483.647]"
  | timeLimitSet limit => "Time limit set to " ++ limit.text ++ "s"
  | formulated title columns rows cells =>
      "Translated " ++ title ++ ": " ++ toString columns ++ " columns, " ++ toString rows ++
        " rows, " ++ toString cells ++ " nonzeros"
  | engineMessage text => text
  | unsolved title status => "No solution for " ++ title ++ ": " ++ status.word
  | solved title status objective seconds =>
      "Solved " ++ title ++ ": " ++ status.word ++ ", objective=" ++ objective ++ ", time=" ++
        seconds ++ "s"
  | failed title message => "Solving " ++ title ++ " failed: " ++ message

end Notice

end LinearProgram
