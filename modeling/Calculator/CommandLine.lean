import Calculator.Session

/-!
# The command line

Arguments are read from left to right, and the first one that is wrong, or that asks for help or
for the version, decides. What remains is an invocation: one expression, or a session on the
standard input.

* `Invocation`, `Request`: what the arguments can ask for.
* `Request.ofArguments`: the reading of the arguments.
* `Outcome`, **`Request.run`**: exit code, standard output, failure message and log.
-/

namespace Calculator

/-- What is known from the arguments read so far. -/
structure Invocation where
  expression? : Option String := none
  lenient : Bool := false
  showPostfix : Bool := false
  noPrompt : Bool := false
  places? : Option Nat := none
  /-- How many times more log lines were asked for. -/
  verbosity : Nat := 0
  deriving DecidableEq, Repr

/-- What the arguments ask for. -/
inductive Request where
  | usageError
  | help
  | version
  | invoke (i : Invocation)
  deriving DecidableEq, Repr

namespace Invocation

def settings (i : Invocation) : Settings :=
  { places := i.places?.getD 15, unknownNames := if i.lenient then .drop else .reject }

/-- The session on the standard input, which has a prompt only when someone types there. -/
def session (i : Invocation) (typed : Bool) : Session :=
  { settings := i.settings, prompt := typed && !i.noPrompt, showPostfix := i.showPostfix }

/-- Take an argument that is no option. There is room for one expression. -/
def addExpression? (i : Invocation) (text : String) : Option Invocation :=
  if i.expression?.isNone then some { i with expression? := some text } else none

/-- Take the value of `--precision`: a whole number of at most 17, given once. -/
def addPlaces? (i : Invocation) (text : String) : Option Invocation :=
  let (negative, digits) := Decimal.splitSign text.toList
  let places := Decimal.ofDigits digits
  if i.places?.isNone && !digits.isEmpty && digits.all Char.isDigit
      && (!negative || places == 0) && places ≤ 17 then
    some { i with places? := some places }
  else none

/-- Take a long option without a value. All but `--verbose` are given once. -/
def addFlag? (i : Invocation) (flag : String) : Option Invocation :=
  if flag == "--lenient" && !i.lenient then some { i with lenient := true }
  else if flag == "--show-rpn" && !i.showPostfix then some { i with showPostfix := true }
  else if flag == "--no-prompt" && !i.noPrompt then some { i with noPrompt := true }
  else if flag == "--verbose" then some { i with verbosity := i.verbosity + 1 }
  else none

end Invocation

namespace Request

/-- Go on with the arguments if the last one was right. -/
def continueWith (go : Invocation → Request) : Option Invocation → Request
  | some i => go i
  | none => usageError

/-- Arguments after `--`, which are all expressions. -/
def ofExpressions (i : Invocation) : List String → Request
  | [] => invoke i
  | text :: rest => continueWith (ofExpressions · rest) (i.addExpression? text)

/-- Letters after a single `-`. -/
def ofLetters (go : Invocation → Request) (i : Invocation) : List Char → Request
  | [] => go i
  | 'v' :: rest => ofLetters go { i with verbosity := i.verbosity + 1 } rest
  | 'h' :: _ => help
  | 'V' :: _ => version
  | _ => usageError

/-- The value of an option written `--precision=value`. -/
def attachedPlaces? (argument : String) : Option String :=
  let flag := "--precision=".toList
  if flag.isPrefixOf argument.toList then some (String.ofList (argument.toList.drop flag.length))
  else none

/-- Whether an argument starts an option; a lone `-` is an expression. -/
def isOption (argument : String) : Bool :=
  argument.toList.head? == some '-' && argument != "-"

/-- Arguments before `--`. -/
def ofOptions (i : Invocation) : List String → Request
  | [] => invoke i
  | "--" :: rest => ofExpressions i rest
  | "--help" :: _ => help
  | "--version" :: _ => version
  | "--precision" :: [] => usageError
  | "--precision" :: value :: rest =>
    if isOption value then usageError else continueWith (ofOptions · rest) (i.addPlaces? value)
  | argument :: rest =>
    if !isOption argument then continueWith (ofOptions · rest) (i.addExpression? argument)
    else match attachedPlaces? argument, argument.toList with
      | some value, _ => continueWith (ofOptions · rest) (i.addPlaces? value)
      | none, '-' :: '-' :: _ => continueWith (ofOptions · rest) (i.addFlag? argument)
      | none, letters => ofLetters (ofOptions · rest) i (letters.drop 1)

/-- What the arguments ask for. -/
def ofArguments (arguments : List String) : Request := ofOptions {} arguments

end Request

/-- What a run leaves behind. -/
structure Outcome where
  exitCode : Nat
  output : String
  /-- What is reported when the run failed. -/
  message? : Option String := none
  /-- The log lines that the arguments ask for. -/
  log : List Record := []
  deriving DecidableEq, Repr

namespace Invocation

/-- The log lines for one expression; an order that is shown is made twice, if it can be made. -/
def logExpression (i : Invocation) (expression : String) : List Record :=
  match i.showPostfix, i.settings.order expression with
  | true, .error _ => Log.ofOrder i.settings expression
  | true, .ok _ => Log.ofOrder i.settings expression ++ Log.ofSolve i.settings expression
  | false, _ => Log.ofSolve i.settings expression

/-- Solve one expression. A postfix order that is shown is made first. -/
def runExpression (i : Invocation) (expression : String) : Outcome :=
  let session := i.session false
  let log := Log.shownAt i.verbosity (i.logExpression expression)
  match i.showPostfix, i.settings.order expression, i.settings.solve expression with
  | true, .error e, _ => ⟨1, "", some ("Error: " ++ e.message), log⟩
  | _, _, .error e =>
    ⟨1, session.postfixLine expression,
      some ("Error: failed to evaluate '" ++ expression ++ "': " ++ e.message), log⟩
  | _, _, .ok _ => ⟨0, session.answer expression, none, log⟩

/-- What is reported when a line of the input is not UTF-8. -/
def invalidTextMessage : String := "Error: stream did not contain valid UTF-8"

/-- Hold a session on an input that nobody types. -/
def runSession (i : Invocation) (input : List UInt8) : Outcome :=
  let session := i.session false
  let transcript := Transcript.ofBytes input
  let output := session.output transcript
  let log := Log.shownAt i.verbosity (session.log transcript)
  match transcript.ending with
  | .invalidText => ⟨1, output, some invalidTextMessage, log⟩
  | _ => ⟨0, output, none, log⟩

end Invocation

/-- What a request does, given the bytes of the standard input. The outcome has no text for wrong
arguments or for help: what there is to say of the options is no part of the calculator. -/
def Request.run (input : List UInt8) : Request → Outcome
  | usageError => ⟨2, "", none, []⟩
  | help => ⟨0, "", none, []⟩
  | version => ⟨0, "expr-solver 0.1.0\n", none, []⟩
  | invoke i =>
    match i.expression? with
    | some expression => i.runExpression expression
    | none => i.runSession input

end Calculator
