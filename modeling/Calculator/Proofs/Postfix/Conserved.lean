import Mathlib
import Calculator.Proofs.Expression.Grammar
import Calculator.Proofs.Postfix.Dropped
import Calculator.Token.Scanner

/-!
# What a conversion puts out

Every token is put out exactly once, except for those that have done their work when they are read:
parentheses and, where they are dropped, names without a meaning. Tokens overtake each other only
where an operator or a function waits, so operands stay in their order.

* `UnknownNames.leavesOut`: the tokens that are not put out; `filter_keeps`: in tokens that can be
  read these are the ones that `Conversion.finish_perm` leaves out.
* `Conversion.Step.filter_output`, **`Conversion.filter_output`**: an operand is put out when it is
  read.
* **`toPostfix_perm`**: what the postfix order of any tokens, even malformed ones, consists of.
-/

namespace Calculator

/-- Whether the token is a parenthesis. -/
def Token.isParenthesis : Token → Bool
  | .opening | .closing => true
  | _ => false

/-- Whether a conversion does not put the token out: it is a parenthesis or a name to be dropped. -/
def UnknownNames.leavesOut (unknown : UnknownNames) (t : Token) : Bool :=
  t.isParenthesis || (unknown == .drop && t.unknownName?.isSome)

variable {unknown : UnknownNames} {tokens : List Token}

/-- In tokens that can be read the strict policy leaves out the same ones as the other. -/
theorem filter_keeps {s : Conversion} (h : readInfix unknown tokens = .ok s) :
    tokens.filter Conversion.Keeps = tokens.filter (!unknown.leavesOut ·) := by
  refine List.filter_congr fun t ht => ?_
  have hkeeps : Conversion.Keeps t = (!t.isParenthesis && t.unknownName?.isNone) := by
    cases t with
    | name text =>
      cases hm : Meaning.ofName? text <;>
        simp [Conversion.Keeps, Token.isParenthesis, Token.unknownName?, hm]
    | _ => rfl
  cases unknown with
  | reject =>
    have hn := unknownName?_of_readInfix h t ht
    simp [hkeeps, UnknownNames.leavesOut, hn]
  | drop => simp [hkeeps, UnknownNames.leavesOut]

/-! ## Operands -/

namespace Conversion

/-- What waits is no operand. -/
theorem filter_pending (pending : List Pending) :
    (pending.filterMap Pending.token?).filter Token.isOperand = [] := by
  rw [List.filter_eq_nil_iff]
  intro t ht
  obtain ⟨p, -, hp⟩ := List.mem_filterMap.mp ht
  cases p with
  | operator o =>
    cases hp
    exact Bool.false_ne_true
  | function f =>
    cases hp
    rw [isOperand_function]
    exact Bool.false_ne_true
  | group => cases hp

theorem filter_finish (s : Conversion) :
    s.finish.filter Token.isOperand = s.output.filter Token.isOperand := by
  rw [finish, List.filter_append, filter_pending, List.append_nil]

/-- **A step puts out the operand that it reads**, and no other. -/
theorem Step.filter_output {s s' : Conversion} {t : Token} (h : Step unknown s t s') :
    s'.output.filter Token.isOperand =
      s.output.filter Token.isOperand ++ [t].filter Token.isOperand := by
  cases h with
  | number text | constant c => exact List.filter_append _ _
  | function f =>
    have hf : [Token.name f.name].filter Token.isOperand = [] := by
      rw [List.filter_singleton, isOperand_function]
      rfl
    rw [hf, List.append_nil]
    rfl
  | @dropped _ name hn hu =>
    have hc := (Meaning.ofName?_eq_none_iff.mp hn).1
    simp [Token.isOperand, hc]
  | operator o =>
    -- Only operators move from what waits to the output, so its operands stay the same.
    have hr : (s.release o).output.filter Token.isOperand = s.output.filter Token.isOperand := by
      rw [← filter_finish, finish_release, filter_finish]
    exact hr.trans (List.append_nil _).symm
  | opening => exact (List.append_nil _).symm
  | closing output rest hi =>
    rw [← filter_finish, finish_attach, filter_finish, List.filter_append, filter_pending]
    rfl

/-- **Operands are put out as they are read**, in the same order. -/
theorem filter_output {s : Conversion} (h : readInfix unknown tokens = .ok s) :
    s.output.filter Token.isOperand = tokens.filter Token.isOperand := by
  refine readInfix_invariant (motive := fun before s =>
    s.output.filter Token.isOperand = before.filter Token.isOperand) h rfl ?_
  intro before s t s' hb hs
  rw [hs.filter_output, hb, List.filter_append]

end Conversion

/-! ## Outcomes -/

/-- **The postfix order consists of the tokens** other than parentheses and names that are dropped.
It has each of them as often as it was read, and numbers and constants in the order in which they
were read. -/
theorem toPostfix_perm {output : List Token} (h : toPostfix unknown tokens = .ok output) :
    output.Perm (tokens.filter (!unknown.leavesOut ·)) ∧
    output.filter Token.isOperand = tokens.filter Token.isOperand ∧
    ∀ t ∈ output, t.isParenthesis = false := by
  obtain ⟨s, hs, rfl⟩ := toPostfix_eq_ok_iff.mp h
  have hperm : s.finish.Perm (tokens.filter (!unknown.leavesOut ·)) := by
    rw [← filter_keeps hs]
    exact Conversion.finish_perm hs
  refine ⟨hperm, ?_, fun t ht => ?_⟩
  · rw [Conversion.filter_finish, Conversion.filter_output hs]
  · obtain ⟨-, hk⟩ := List.mem_filter.mp (hperm.mem_iff.mp ht)
    simp only [UnknownNames.leavesOut, Bool.not_or, Bool.and_eq_true, Bool.not_eq_true'] at hk
    exact hk.1

/-- Two operators and a function are overtaken by operands, and a name is dropped. -/
theorem toPostfix_perm_two_minus_sqrt : ∃ output,
    toPostfix .drop (Token.ofString "2x-sqrt(9*pi)") = .ok output ∧
    Token.display output = "2 9 pi * sqrt -" ∧
    output.Perm ((Token.ofString "2x-sqrt(9*pi)").filter (!UnknownNames.drop.leavesOut ·)) ∧
    output.filter Token.isOperand = (Token.ofString "2x-sqrt(9*pi)").filter Token.isOperand ∧
    ∀ t ∈ output, t.isParenthesis = false := by
  have h : toPostfix .drop (Token.ofString "2x-sqrt(9*pi)") = .ok [.number "2", .number "9",
    .name "pi", .operator .multiply, .name "sqrt", .operator .subtract] := rfl
  exact ⟨_, h, rfl, toPostfix_perm h⟩

end Calculator
