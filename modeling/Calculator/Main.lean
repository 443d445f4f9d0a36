import Calculator.CommandLine

/-!
# The program

Reads the arguments, does what they ask for and exits with its code. A session that someone types
is held line by line; any other input is read as a whole.
-/

namespace Calculator

/-- Write log lines to the standard error. -/
def writeLog (verbosity : Nat) (records : List Record) : IO Unit := do
  for r in Log.shownAt verbosity records do
    IO.eprintln r.text

/-- Report a failure, if there is one, and give its exit code. -/
def finishWith (exitCode : Nat) (message? : Option String) : IO UInt32 := do
  if let some message := message? then
    IO.eprintln message
  return exitCode.toUInt32

/-- The next line of the input with its line feed; nothing at the end of the input. -/
partial def nextLine (input : IO.FS.Stream) (read : List UInt8) : IO (List UInt8) := do
  match (← input.read 1).toList with
  | [] => return read.reverse
  | b :: _ => if b == 10 then return (b :: read).reverse else nextLine input (b :: read)

/-- Everything that is left of the input. -/
partial def restOfInput (input : IO.FS.Stream) (read : ByteArray) : IO ByteArray := do
  let bytes ← input.read 4096
  if bytes.isEmpty then return read else restOfInput input (read ++ bytes)

/-- Hold a session with someone who types. -/
partial def converse (s : Session) (verbosity : Nat) (input output : IO.FS.Stream) : IO UInt32 := do
  output.putStr s.promptText
  output.flush
  let line ← nextLine input []
  if line.isEmpty then
    writeLog verbosity (Session.logEnding .endOfInput)
    return 0
  match Entry.ofLine line with
  | .invalid => finishWith 1 (some Invocation.invalidTextMessage)
  | .exit =>
    writeLog verbosity (Session.logEnding .exit)
    return 0
  | .blank => converse s verbosity input output
  | .expression text =>
    writeLog verbosity (s.logExpression text)
    output.putStr (s.answer text)
    converse s verbosity input output

/-- Do what is asked for, with the whole input at hand. -/
def perform (request : Request) (input : List UInt8) : IO UInt32 := do
  let outcome := request.run input
  for r in outcome.log do
    IO.eprintln r.text
  (← IO.getStdout).putStr outcome.output
  finishWith outcome.exitCode outcome.message?

end Calculator

open Calculator in
def main (arguments : List String) : IO UInt32 := do
  let input ← IO.getStdin
  match Request.ofArguments arguments with
  | .invoke i =>
    if i.expression?.isSome then perform (.invoke i) []
    else if ← input.isTty then converse (i.session true) i.verbosity input (← IO.getStdout)
    else perform (.invoke i) (← restOfInput input ByteArray.empty).toList
  | request => perform request []
