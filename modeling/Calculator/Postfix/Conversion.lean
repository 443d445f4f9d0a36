import Calculator.Failure
import Calculator.Trail

/-!
# From infix to postfix order

Numbers and constants go straight to the output. Operators and functions wait: an operator until a
later one or the end of its group shows that it has both operands, a function until the group that
follows it is closed. A group still open at the end of the tokens is closed there.

* `Pending`, `Conversion`: what waits, the latest first, and what has been put out.
* `Conversion.step`: one token; it is the only place where a conversion can fail.
* **`toPostfix`**: the postfix order of a token list.
* `droppedNames`, `unclosedGroups`: what the conversion passed over and made up for.
-/

namespace Calculator

/-- What to do with a name that has no meaning. -/
inductive UnknownNames where
  | reject
  | drop
  deriving DecidableEq, Repr

/-- What waits for its place in the output. -/
inductive Pending where
  | operator (o : Operator)
  | function (f : Func)
  | group
  deriving DecidableEq, Repr

namespace Pending

/-- The token that is put out at last; a group leaves none. -/
def token? : Pending → Option Token
  | operator o => some (.operator o)
  | function f => some (.name f.name)
  | group => none

/-- Whether this is an operator that takes the operand before a coming `next`. -/
def bindsBefore (next : Operator) : Pending → Bool
  | operator o => o.bindsBefore next
  | _ => false

end Pending

/-- The state of a conversion. -/
structure Conversion where
  output : List Token
  /-- What waits, the latest first. -/
  pending : List Pending
  deriving DecidableEq, Repr

namespace Conversion

/-- Nothing is put out and nothing waits. -/
def start : Conversion := ⟨[], []⟩

/-- Put out a token. -/
def emit (s : Conversion) (t : Token) : Conversion := { s with output := s.output ++ [t] }

/-- Let something wait. -/
def push (s : Conversion) (p : Pending) : Conversion := { s with pending := p :: s.pending }

/-- Put out the waiting operators that take the operand before `next`. -/
def release (s : Conversion) (next : Operator) : Conversion :=
  ⟨s.output ++ (s.pending.takeWhile (·.bindsBefore next)).filterMap Pending.token?,
    s.pending.dropWhile (·.bindsBefore next)⟩

/-- Put out what waits in the innermost group, and the function in front of the group. -/
def close (s : Conversion) : Except ConversionError Conversion :=
  let output := s.output ++ (s.pending.takeWhile (· != .group)).filterMap Pending.token?
  match s.pending.dropWhile (· != .group) with
  | [] => .error .mismatchedClosing
  | _ :: .function f :: rest => .ok ⟨output ++ [.name f.name], rest⟩
  | _ :: rest => .ok ⟨output, rest⟩

/-- Read one token. -/
def step (unknown : UnknownNames) (s : Conversion) : Token → Except ConversionError Conversion
  | .number text => .ok (s.emit (.number text))
  | .name name =>
    match Meaning.ofName? name, unknown with
    | some (.constant _), _ => .ok (s.emit (.name name))
    | some (.function f), _ => .ok (s.push (.function f))
    | none, .reject => .error (.unknownName name)
    | none, .drop => .ok s
  | .operator o => .ok ((s.release o).push (.operator o))
  | .opening => .ok (s.push .group)
  | .closing => s.close

/-- Put out everything that still waits. -/
def finish (s : Conversion) : List Token := s.output ++ s.pending.filterMap Pending.token?

/-- How many groups are open. -/
def openGroups (s : Conversion) : Nat := s.pending.count .group

end Conversion

/-- Read all tokens. -/
def readInfix (unknown : UnknownNames) (tokens : List Token) : Except ConversionError Conversion :=
  tokens.foldlM (Conversion.step unknown) Conversion.start

/-- The postfix order of infix tokens. -/
def toPostfix (unknown : UnknownNames) (tokens : List Token) : Except ConversionError (List Token) :=
  (readInfix unknown tokens).map Conversion.finish

/-- The name of a token, if it is one without a meaning. -/
def Token.unknownName? : Token → Option String
  | .name text => if (Meaning.ofName? text).isNone then some text else none
  | _ => none

/-- The names without a meaning that were dropped, up to the end or the first failure. -/
def droppedNames (unknown : UnknownNames) (tokens : List Token) : List String :=
  (trail (Conversion.step unknown) Conversion.start tokens).filterMap fun (_, t, _) =>
    t.unknownName?

/-- How many groups were open when the tokens ended. -/
def unclosedGroups (unknown : UnknownNames) (tokens : List Token) : Nat :=
  match readInfix unknown tokens with
  | .ok s => s.openGroups
  | .error _ => 0

end Calculator
