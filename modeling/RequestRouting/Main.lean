import RequestRouting.CommandLine.Report
import Std.Time.DateTime.Timestamp

/-!
# The program

Reads the files that the arguments name, runs the command, and writes its output. With the option
for more output, the events are written to the standard error.
-/

set_option autoImplicit false

namespace RequestRouting.CommandLine

def variableNames : List String :=
  [Level.configVariable, RuntimeConfig.timeoutVariable, RuntimeConfig.thresholdVariable,
    RuntimeConfig.headFallbackVariable, RuntimeConfig.logRoutesVariable]

def Arguments.files (a : Arguments) : List String := a.config.toList ++ [a.command.table]

def UsageError.text : UsageError → String
  | .help | .helpOnMissingCommand =>
    "Usage: [--config FILE] [-v] check|resolve|dispatch -t FILE [METHOD PATH]"
  | .missingCommand => "error: a command is required"
  | .unknownCommand => "error: unrecognized command"
  | .unknownArgument => "error: unexpected argument"
  | .missingArgument => "error: a required argument was not provided"
  | .missingValue => "error: a value is required"
  | .unexpectedValue => "error: unexpected value"
  | .repeated => "error: an argument cannot be used multiple times"

def fieldText : String × FieldValue → String
  | (name, .text value) => " " ++ name ++ "=" ++ value
  | (name, .number n) => " " ++ name ++ "=" ++ toString n

def eventText : Event → String
  | .entry level message fields =>
    level.name ++ " " ++ message ++ String.join (fields.map fieldText)
  | .opened span fields => "SPAN " ++ span ++ String.join (fields.map fieldText)
  | .recorded span fields => "RECORD " ++ span ++ String.join (fields.map fieldText)

end RequestRouting.CommandLine

open RequestRouting CommandLine

def readFile (file : String) : IO (String × Option ByteArray) := do
  try return (file, some (← IO.FS.readBinFile file)) catch _ => return (file, none)

def mintId : IO RequestId := do
  let now ← Std.Time.Timestamp.now
  let random ← IO.rand 0 (Nat.pow 2 80 - 1)
  let millis := now.toMillisecondsSinceUnixEpoch.toInt.toNat
  return ⟨BitVec.ofNat 128 (millis * Nat.pow 2 80 + random)⟩

def main (words : List String) : IO UInt32 := do
  let values ← variableNames.mapM fun name => return (name, ← IO.getEnv name)
  let env : Environment := fun name => (values.lookup name).join
  match Arguments.read env words with
  | .error e =>
    IO.eprintln e.text
    return if e = .help then 0 else 2
  | .ok a =>
    let contents ← a.files.mapM readFile
    let report := run (fun file => (contents.lookup file).join) env (← mintId) a
    if a.verbose then
      for e in report.events do IO.eprintln (eventText e)
    IO.print report.output
    match report.failure with
    | none => return 0
    | some message =>
      IO.eprintln ("Error: " ++ message)
      return 1
