/-
# The command line of the broker

The arguments are read, the one file they name is looked at, and what was worked
out is printed. Only here does the program touch files, the clock and its
output; running the broker is letting time pass for it.
-/
import SensorBroker.CommandLine.Outcome
import SensorBroker.Run.Subscribers

namespace SensorBroker.CommandLine

/-- Looks at a file. -/
def lookAt (path : String) : IO FileContent :=
  try
    let content ← IO.FS.readBinFile path
    pure (.bytes content.toList)
  catch
    | .noFileOrDirectory .. => pure .missing
    | e => pure (.unreadable (toString e))

/-- Looks at the file that a command names. -/
def filesFor (command : Command) : IO Files :=
  match command.path? with
  | none => pure fun _ => .missing
  | some path => return Files.only path (← lookAt path)

/-- Reports what failed. -/
def complain (reason : String) : IO Unit := do
  (← IO.getStderr).putStrLn ("Error: " ++ reason)

/-- Runs the broker in real time and prints the statistics. -/
def runBroker (config : Config) (options : RunOptions) : IO UInt32 := do
  match BrokerRun.start config options.subscriptions with
  | .error e =>
    complain (CommandError.notStarted e).message
    return 1
  | .ok started =>
    let origin ← IO.monoNanosNow
    let mut run := started
    let mut now := 0
    while options.goesOnAt now do
      IO.sleep 1
      let later := (← IO.monoNanosNow) - origin
      run := run.elapse now later
      now := later
    IO.print (run.finish now).text
    return 0

/-- Carries out a command. -/
def carryOut (command : Command) : IO UInt32 := do
  match command.plan (← filesFor command) with
  | .run config options => runBroker config options
  | .print outcome =>
    IO.print outcome.output
    match outcome.error with
    | none => return 0
    | some e =>
      complain e.message
      return 1

/-- Does what a command line asks for. -/
def obey (words : List String) : IO UInt32 := do
  match Invocation.ofWords words with
  | .ok invocation => carryOut invocation.command
  | .error e =>
    if e.isRequest then
      IO.print e.answer
      return 0
    else
      complain e.answer
      return 2

end SensorBroker.CommandLine

/-- Does what the command line asks for. -/
def main (words : List String) : IO UInt32 :=
  SensorBroker.CommandLine.obey words
