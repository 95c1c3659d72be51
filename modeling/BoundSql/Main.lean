import BoundSql.CommandLine.Run

/-!
# The command line program

Reads the files that the arguments may name, carries out the request, prints what it says and writes
the log files.  No database driver is linked in: opening succeeds, and every statement has an empty
result at once.  Records are dated by the clock that counts from the start of the system.
-/

namespace BoundSql.CommandLine

/-- Texts that may name files: every argument, what stands after its equals sign, and what stands
after the letter of a short option. -/
def mentioned (argument : String) : List String :=
  let cs := argument.toList
  [argument, String.ofList (cs.drop 2)] ++
    (((Usage.splitValue cs).2.map String.ofList).toList)

/-- The text of a file, if it can be read. -/
def readFile? (path : String) : IO (Option (String × String)) := do
  try
    return some (Log.Logging.normalPath path, ← IO.FS.readFile path)
  catch _ => return none

/-- Writes the files that have changed. -/
def writeChanged (before after : Files) : IO Unit := do
  for (name, text) in after do
    if before.lookup name != some text then IO.FS.writeFile name text

/-- A clock that stands at a second since the beginning of 1970. -/
def standingAt (second : Int) : Clock :=
  ⟨fun _ => ⟨second, .ofEpoch second⟩, .ofInt 0⟩

/-- Carries out what the arguments ask for. -/
def serve (arguments : List String) : IO UInt32 := do
  let paths := (arguments.flatMap mentioned).eraseDups.filter fun p => !p.isEmpty
  let files := (← paths.mapM readFile?).filterMap id
  let clock := standingAt ((← IO.monoMsNow) / 1000)
  let report := CommandLine.run clock files arguments Replies.success
  IO.print report.stdout
  IO.eprint report.stderr
  if let some f := report.fault then IO.eprintln f.message
  writeChanged files report.files
  return UInt32.ofNat report.status

end BoundSql.CommandLine

/-- The program. -/
def main (arguments : List String) : IO UInt32 := BoundSql.CommandLine.serve arguments
