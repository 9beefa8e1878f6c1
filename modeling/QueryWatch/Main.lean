import QueryWatch.Watch.Recording

/-!
# The program

Shows the recording on standard input. Sightings go to standard output, notices
from the level of information on to the error output.
-/
open QueryWatch

namespace QueryWatch.Program

def usage : String :=
  "usage: query-watch [--allow-event ID]... [--allow-all-events] [--deny-domain SUBSTR]...
    [--no-default-deny] [--verbose-output | --compact-output] [--timezone NAME]
    [--bpf-object PATH] [-q | --quiet] [-h | --help] [-V | --version]"

def version : String :=
  "query-watch 1.0"

def isShown (notice : Notice) : Bool :=
  notice.level == .info || notice.level == .warn

def refusalText : Refusal → String
  | .unknownArgument => "unexpected argument"
  | .invalidValue => "a value is required"
  | .valueValidation => "invalid value"
  | .tooManyValues => "unexpected value"
  | .argumentConflict => "arguments cannot be used together"
  | .displayHelp => usage
  | .displayVersion => version

partial def readLines (input : IO.FS.Stream) (seen : List Text) : IO (List Text) := do
  let line ← input.getLine
  if line.isEmpty then return seen.reverse
  readLines input (line.toList :: seen)

end QueryWatch.Program

open QueryWatch.Program in
/-- Exits with 0, or with 2 if the command line is refused. -/
def main (arguments : List String) : IO UInt32 := do
  match Settings.ofArguments Admission.packetDefaults .compact (arguments.map String.toList) with
  | .error .displayHelp => IO.println usage; return 0
  | .error .displayVersion => IO.println version; return 0
  | .error refusal => IO.eprintln (refusalText refusal); return 2
  | .ok settings =>
    let finished := Recording.watch settings (← readLines (← IO.getStdin) [])
    let notices := Zone.noticesOfName settings.timezone ++ finished.progress.notices
    for notice in notices.filter isShown do
      IO.eprintln (String.ofList notice.message)
    (← IO.getStdout).write (ByteArray.mk finished.progress.writer.accepted.toArray)
    return 0
