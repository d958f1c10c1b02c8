import Promotions.Command.Run

/-! The program: it reads the files that its arguments and settings may name, and shows how the run
over them ends. -/
namespace Promotions

def lookUp (path : String) : IO (Except FileFault String) := do
  match ← (IO.FS.readFile path).toBaseIO with
  | .ok text => return .ok text
  | .error (.noFileOrDirectory ..) => return .error .missing
  | .error (.inappropriateType ..) => return .error .throughFile
  | .error (.invalidArgument ..) => return .error .longName
  | .error _ => return .error .isDirectory

def snapshot (paths : List String) : IO Files := do
  let found ← paths.mapM fun path => do return (path, ← lookUp path)
  return fun path => (found.lookup path).getD (.error .missing)

end Promotions

open Promotions

def main (arguments : List String) : IO UInt32 := do
  let level ← IO.getEnv Settings.levelVariable
  let context ← IO.getEnv Settings.contextVariable
  let environment : Environment := fun name =>
    if name = Settings.levelVariable then level
    else if name = Settings.contextVariable then context
    else none
  let named := (Settings.ofEnvironment environment).contextPath.toList
  let attached := arguments.filterMap fun argument => (Command.splitOption argument).2
  let given := arguments ++ attached
  let files ← snapshot (given ++ given.map Path.simplify ++ named)
  -- A promotion that is read from its text has no dates, so that no clock is asked.
  let clock : Clock := .fixed ⟨1970, 1, 1, 0, 0, 0, 0, some (.fixed 0)⟩
  let outcome := runLine files environment clock arguments
  IO.print outcome.output
  IO.eprint outcome.errors
  match outcome.exception with
  | some name => IO.eprintln name
  | none => pure ()
  return outcome.exit.toUInt32
