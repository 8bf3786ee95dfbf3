import LoopSurvey.Command.Run
import LoopSurvey.Viewer.Draw
/-!
# The program

The command line. The outline is shown as a screen of text that answers to lines of keys: a line is
the name of a key, or characters that are typed one after the other.
-/

namespace LoopSurvey.Program

/-- The name of the program. -/
def name : String := "ebt-outline"

/-- The wording of a failure to reach a file. -/
def reasonOf : IO.Error → String
  | .noFileOrDirectory .. => "No such file or directory (os error 2)"
  | .permissionDenied .. => "Permission denied (os error 13)"
  | .inappropriateType .. => "Is a directory (os error 21)"
  | e => toString e

/-- The outcome of an action that may fail. -/
def attempt (action : IO α) : IO (Except String α) := do
  match ← action.toBaseIO with
  | .ok x => pure (.ok x)
  | .error e => pure (.error (reasonOf e))

/-- The files of the machine. -/
def files : Command.Files IO where
  isFile path := do
    match ← attempt (IO.FS.readFile path) with
    | .ok _ => pure true
    | .error _ => pure false
  read path := attempt (IO.FS.readFile path)
  openLog path := attempt (do discard (IO.FS.Handle.mk path .append))

/-- The settings file of the user, if there can be one. -/
def defaultConfig : IO (Option String) := do
  let directory ← match ← IO.getEnv "XDG_CONFIG_HOME" with
    | some directory => pure (some directory)
    | none => pure ((← IO.getEnv "HOME").map (· ++ "/.config"))
  pure (directory.map (· ++ "/" ++ name ++ "/config.toml"))

/-- The variables that the program looks at. -/
def watched : List String :=
  [Settings.userVariable, Settings.baseVariable, Command.paletteVariable]

/-- Where the program runs. -/
def surroundings : IO Command.Surroundings := do
  let values ← watched.mapM fun v => do pure (v, ← IO.getEnv v)
  pure {
    program := name
    environment := fun v => (values.lookup v).join
    defaultConfig := ← defaultConfig
    defaultLog := ((← IO.getEnv "TMPDIR").getD "/tmp") ++ "/" ++ name ++ ".log"
    order := .written }

/-- The columns of the screen. -/
def screenWidth : Nat := 110

/-- The rows of the screen. -/
def screenHeight : Nat := 32

/-- Lays the viewer out and prints its screen. -/
def display (d : Desk) (output : IO.FS.Stream) : IO Desk := do
  let viewer := d.viewer.layOut screenWidth screenHeight
  for row in (viewer.draw screenWidth screenHeight).texts do
    output.putStrLn row
  output.flush
  pure { d with viewer := { viewer with notice := none } }

/-- The keys of a line. -/
def keysOf (line : String) : List Key :=
  match Key.ofName? line with
  | some key => [key]
  | none => line.toList.map .char

/-- Shows the viewer and hands it the keys of each line, until it is left or the lines end. -/
partial def converse (d : Desk) (input output : IO.FS.Stream) : IO Unit := do
  let d ← display (d.tick (← IO.monoMsNow)) output
  let line ← input.getLine
  if line.isEmpty then pure ()
  else
    let now ← IO.monoMsNow
    let d := (keysOf (String.ofList (line.toList.filter (· ≠ '\n')))).foldl (·.press now ·) d
    if d.viewer.quit then pure () else converse d input output

/-- Runs the program; a wrong use ends with status 2 and a failure with status 1. -/
def run (arguments : List String) : IO UInt32 := do
  match ← Command.run files (← surroundings) arguments with
  | .usage =>
    IO.eprint (Command.usage name)
    pure 2
  | .failed message =>
    IO.eprintln (name ++ ": " ++ message)
    pure 1
  | .printed text =>
    IO.print text
    pure 0
  | .ready prepared =>
    converse prepared.desk (← IO.getStdin) (← IO.getStdout)
    pure 0

end LoopSurvey.Program

/-- The entry point of the program. -/
def main (arguments : List String) : IO UInt32 := LoopSurvey.Program.run arguments
