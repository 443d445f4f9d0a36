import Calculator.Failure.Report
import Calculator.Log
import Calculator.Text.Blank

/-!
# Sessions

A session reads its input line by line and answers each expression. Reading and answering are
apart: a `Transcript` is what was read, and output and log are functions of it.

* `splitLines`, `Entry.ofLine`: the lines of the input, and what one line asks for.
* `Transcript.ofBytes`: the expressions up to the end of the session, and how it ended.
* `Session.answer`: the lines written for one expression.
* **`Session.output`**, `Session.log`: the text written and the log kept.
-/

namespace Calculator

/-- The pieces of the input that end with a line feed, and the rest if there is one. -/
def splitLines : List UInt8 → List (List UInt8)
  | [] => []
  | b :: rest =>
    if b == 10 then [b] :: splitLines rest
    else match splitLines rest with
      | [] => [[b]]
      | line :: lines => (b :: line) :: lines

/-- A text without the line feeds and carriage returns at its end. -/
def withoutLineEnd (text : String) : String :=
  String.ofList (text.toList.reverse.dropWhile fun c => c == '\n' || c == '\r').reverse

/-- What a line asks for. -/
inductive Entry where
  | invalid
  | exit
  | blank
  | expression (text : String)
  deriving DecidableEq, Repr

/-- What a line asks for; a line that is not UTF-8 has no meaning. -/
def Entry.ofLine (line : List UInt8) : Entry :=
  match String.fromUTF8? ⟨line.toArray⟩ with
  | none => .invalid
  | some text =>
    let text := withoutLineEnd text
    if text == "exit" then .exit
    else if Text.isBlank text then .blank
    else .expression text

/-- Why a session ended. -/
inductive Ending where
  | endOfInput
  | exit
  | invalidText
  deriving DecidableEq, Repr

/-- What a session read before it ended: for each line its expression, unless it was blank. -/
structure Transcript where
  lines : List (Option String)
  ending : Ending
  deriving DecidableEq, Repr

namespace Transcript

def ofLines : List (List UInt8) → Transcript
  | [] => ⟨[], .endOfInput⟩
  | line :: rest =>
    match Entry.ofLine line with
    | .invalid => ⟨[], .invalidText⟩
    | .exit => ⟨[], .exit⟩
    | .blank => ⟨none :: (ofLines rest).lines, (ofLines rest).ending⟩
    | .expression text => ⟨some text :: (ofLines rest).lines, (ofLines rest).ending⟩

def ofBytes (input : List UInt8) : Transcript := ofLines (splitLines input)

end Transcript

/-- How a session answers. -/
structure Session where
  settings : Settings := {}
  /-- Whether a prompt is written before each line is read. -/
  prompt : Bool := false
  /-- Whether the postfix order is written before a result. -/
  showPostfix : Bool := false
  deriving DecidableEq, Repr

namespace Session

/-- The line with the postfix order of an expression, if that is wanted and there is one. -/
def postfixLine (s : Session) (expression : String) : String :=
  if s.showPostfix then
    match s.settings.order expression with
    | .ok tokens => "rpn: " ++ Token.display tokens ++ "\n"
    | .error _ => ""
  else ""

/-- The line with the value of an expression or with what is wrong with it. -/
def resultLine (s : Session) (expression : String) : String :=
  match s.settings.solve expression with
  | .ok x => Decimal.Style.result.write x ++ "\n"
  | .error e => "error: " ++ e.message ++ "\n"

/-- The lines written for one expression. -/
def answer (s : Session) (expression : String) : String :=
  s.postfixLine expression ++ s.resultLine expression

/-- What is written before a line is read. -/
def promptText (s : Session) : String := if s.prompt then "> " else ""

/-- The text written in a session. The last prompt belongs to the read that ended it. -/
def output (s : Session) (t : Transcript) : String :=
  String.join (t.lines.map fun line => s.promptText ++ line.elim "" s.answer) ++ s.promptText

/-- The log lines for one expression; an order that is shown is made twice. -/
def logExpression (s : Session) (expression : String) : List Record :=
  (if s.showPostfix then Log.ofOrder s.settings expression else [])
    ++ Log.ofSolve s.settings expression
    ++ match s.settings.solve expression with
      | .ok _ => []
      | .error e => [⟨.debug, .session, "'" ++ expression ++ "' failed: " ++ e.report⟩]

/-- The log lines at the end of a session; one that breaks off writes none. -/
def logEnding : Ending → List Record
  | .endOfInput =>
    [⟨.debug, .session, "end of input"⟩, ⟨.info, .session, "session finished"⟩]
  | .exit => [⟨.info, .session, "session finished"⟩]
  | .invalidText => []

/-- The log kept in a session. -/
def log (s : Session) (t : Transcript) : List Record :=
  t.lines.flatMap (fun line => line.elim [] s.logExpression) ++ logEnding t.ending

end Session

end Calculator
