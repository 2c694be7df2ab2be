/-
The command line.
-/
import SqlDialects.Command.Outcome
import Std.Time.DateTime

open SqlDialects

/-- The present time in UTC, to the microsecond. -/
def presentTime : IO Text := do
  let now ← Std.Time.Timestamp.now
  let wall := Std.Time.WallTime.ofNanoseconds now.toNanosecondsSinceUnixEpoch
  let time := Std.Time.PlainDateTime.ofWallTime wall
  let pad (places : Nat) (n : Int) : String :=
    let digits := toString n
    String.ofList (List.replicate (places - digits.length) '0') ++ digits
  let date := pad 4 time.year.toInt ++ "-" ++ pad 2 time.month.val ++ "-" ++ pad 2 time.day.val
  let clock := pad 2 time.hour.val ++ ":" ++ pad 2 time.minute.val ++ ":" ++ pad 2 time.second.val
  let fraction := "." ++ pad 6 (time.nanosecond.val / 1000)
  return date ++ "T" ++ clock ++ fraction ++ "Z"

def usage : String :=
  "usage: dialectforge COMMAND --text TEXT [--dialect DIALECT] [--force-quotes] [--case-sensitive]" ++
    " [--no-color] [--log-format FORMAT] [-v] [--version]"

def main (arguments : List String) : IO UInt32 := do
  let errors ← IO.getStderr
  let surroundings : Command.Surroundings := { terminal := (← errors.isTty), time := (← presentTime) }
  match (Command.outcome surroundings {} (arguments.map String.toList)).1 with
  | .error e =>
    errors.putStrLn (String.ofList e.message)
    return 1
  | .ok outcome =>
    match outcome.errors with
    | some text => errors.putStr (String.ofList text)
    | none => errors.putStrLn usage
    IO.print (String.ofList outcome.output)
    return outcome.exitCode.toUInt32
