import RulePyramid.CommandLine.Program

/-!
The command line: runs the program on the files of the machine and carries out its report.
-/

namespace RulePyramid.CommandLine

def causeOf : IO.Error → Files.Error
  | .noFileOrDirectory .. => .notFound
  | .alreadyExists .. => .exists
  | e => .other (toString e)

/-- The files of the machine. -/
def Access.machine : Access IO where
  readText path := do
    try
      match String.fromUTF8? (← IO.FS.readBinFile path) with
      | some text => return .ok text
      | none => return .error .notText
    catch e => return .error (causeOf e)
  writeText path text := do
    try
      IO.FS.writeFile path text
      return .ok ()
    catch e => return .error (causeOf e)

/-- Says what is to be said; gives the exit code. -/
def Report.carryOut (r : Report) : IO UInt32 := do
  IO.print r.stdout
  IO.eprint r.stderr
  return r.exitCode

end RulePyramid.CommandLine

def main (arguments : List String) : IO UInt32 := do
  (← RulePyramid.CommandLine.executeWith .machine arguments).carryOut
