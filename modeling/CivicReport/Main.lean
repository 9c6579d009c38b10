import CivicReport.Command
import Std.Time.DateTime.Timestamp

/-! The command line. -/
namespace CivicReport.Program

/-- Looks for a file. -/
def look (path : String) : IO Finding := do
  try
    pure (.text (← IO.FS.readFile path))
  catch
    | .noFileOrDirectory _ _ _ => pure (.noFile "No such file or directory (os error 2)")
    | .inappropriateType _ _ _ => pure (.noFile "Is a directory (os error 21)")
    | e => pure (.unreadable (toString e))

def finish : Course → IO Ending
  | .ends e => pure e
  | .reads path next => do finish (next (← look path))

def environment : IO Environment := do
  let home ← IO.getEnv "HOME"
  let directory := (← IO.getEnv "XDG_CONFIG_HOME").filter (·.startsWith "/")
  pure {
    home
    configurations := directory.or (home.map (· ++ "/.config"))
    remote := ← IO.getEnv Arguments.remoteVariable }

def now : IO Timestamp := do
  let t ← Std.Time.Timestamp.now
  pure (.ofUnix t.toNanosecondsSinceUnixEpoch.val)

/-- Runs the command that the arguments name, and gives the status to end with. -/
def run (words : List String) : IO UInt32 := do
  let ending ← finish (Command.run (← environment) (← now) words)
  IO.print (Printout.textOf ending.printout.lines)
  IO.eprint (Printout.textOf ending.printout.notices)
  pure ending.status.toUInt32

end CivicReport.Program

def main (words : List String) : IO UInt32 := CivicReport.Program.run words
