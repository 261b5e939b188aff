/-!
Failures of the parties that a session works with. A failure has a message of its own and the
chain of its causes, the nearest one first.
-/

namespace RulePyramid

structure Failure where
  message : String
  causes : List String := []
  deriving DecidableEq

/-- The message and all causes in one line. -/
def Failure.chain (f : Failure) : String := ": ".intercalate (f.message :: f.causes)

/-- The message, and the causes below it, numbered when there are several. -/
def Failure.report (f : Failure) : String :=
  let causes : String := match f.causes with
    | [] => ""
    | [cause] => "\n\nCaused by:\n    " ++ cause
    | causes => causes.zipIdx.foldl (fun text (cause, i) => text ++ s!"\n    {i}: {cause}")
      "\n\nCaused by:"
  "Error: " ++ f.message ++ causes

end RulePyramid
