import Calculator.Decimal.Places
import Calculator.Postfix.Conversion
import Calculator.Postfix.Evaluation
import Calculator.Token.Scanner

/-!
# Solving an expression

* `Settings`: how many decimals a value is rounded to and what becomes of unknown names.
* `Settings.order`, **`Settings.solve`**: the postfix order and the value of an expression.
* `Settings.order_eq_ok_iff`, `Settings.solve_eq_ok_iff`, `Settings.solve_eq_error_iff`: the stages
  behind a postfix order, a value or an error.
-/

namespace Calculator

/-- How expressions are solved. -/
structure Settings where
  /-- The number of decimals that values are rounded to. -/
  places : Nat := 15
  unknownNames : UnknownNames := .reject
  deriving DecidableEq, Repr

namespace Settings

/-- The tokens of an expression in postfix order. -/
def order (settings : Settings) (expression : String) : Except SolveError (List Token) :=
  (toPostfix settings.unknownNames (Token.ofString expression)).mapError .conversion

/-- The value of a postfix expression, rounded. -/
def evaluate (settings : Settings) (tokens : List Token) : Except EvaluationError Float :=
  (evalPostfix tokens).map (Decimal.roundToPlaces settings.places)

/-- The value of an expression. -/
def solve (settings : Settings) (expression : String) : Except SolveError Float := do
  let tokens ← settings.order expression
  (settings.evaluate tokens).mapError .evaluation

theorem solve_of_order {settings : Settings} {expression : String} {tokens : List Token}
    (h : settings.order expression = .ok tokens) : settings.solve expression =
      ((evalPostfix tokens).map (Decimal.roundToPlaces settings.places)).mapError .evaluation := by
  rw [solve, h]
  rfl

theorem solve_of_order_error {settings : Settings} {expression : String} {err : SolveError}
    (h : settings.order expression = .error err) : settings.solve expression = .error err := by
  rw [solve, h]
  rfl

theorem isMalformed_of_order {settings : Settings} {expression : String} {err : SolveError}
    (h : settings.order expression = .error err) : err.isMalformed = true := by
  obtain ⟨e, -, rfl⟩ := exists_of_mapError_eq_error h
  rfl

theorem order_eq_ok_iff {settings : Settings} {expression : String} {tokens : List Token} :
    settings.order expression = .ok tokens ↔
      toPostfix settings.unknownNames (Token.ofString expression) = .ok tokens := by
  unfold order
  cases toPostfix settings.unknownNames (Token.ofString expression) with
  | error e => exact ⟨fun h => (nomatch h), fun h => (nomatch h)⟩
  | ok tokens' =>
    change Except.ok tokens' = _ ↔ _
    rw [Except.ok.injEq, Except.ok.injEq]

theorem exists_readInfix_of_order {settings : Settings} {expression : String}
    {tokens : List Token} (h : settings.order expression = .ok tokens) :
    ∃ s, readInfix settings.unknownNames (Token.ofString expression) = .ok s ∧
      s.finish = tokens := by
  rw [order_eq_ok_iff, toPostfix] at h
  cases hs : readInfix settings.unknownNames (Token.ofString expression) with
  | error e =>
    rw [hs] at h
    cases h
  | ok s =>
    rw [hs] at h
    cases h
    exact ⟨s, rfl, rfl⟩

theorem solve_eq_ok_iff {settings : Settings} {expression : String} {x : Float} :
    settings.solve expression = .ok x ↔ ∃ tokens y, settings.order expression = .ok tokens ∧
      evalPostfix tokens = .ok y ∧ Decimal.roundToPlaces settings.places y = x := by
  constructor
  · intro h
    cases ho : settings.order expression with
    | error err =>
      rw [solve_of_order_error ho] at h
      cases h
    | ok tokens =>
      rw [solve_of_order ho] at h
      cases hy : evalPostfix tokens with
      | error err =>
        rw [hy] at h
        cases h
      | ok y =>
        rw [hy] at h
        cases h
        exact ⟨tokens, y, rfl, hy, rfl⟩
  · rintro ⟨tokens, y, ho, hy, rfl⟩
    rw [solve_of_order ho, hy]
    rfl

theorem solve_eq_error_iff {settings : Settings} {expression : String} {err : SolveError} :
    settings.solve expression = .error err ↔ settings.order expression = .error err ∨
      ∃ tokens e, settings.order expression = .ok tokens ∧ evalPostfix tokens = .error e ∧
        err = .evaluation e := by
  constructor
  · intro h
    cases ho : settings.order expression with
    | error err' =>
      rw [solve_of_order_error ho] at h
      cases h
      exact .inl rfl
    | ok tokens =>
      rw [solve_of_order ho] at h
      cases hy : evalPostfix tokens with
      | error e =>
        rw [hy] at h
        cases h
        exact .inr ⟨tokens, e, rfl, hy, rfl⟩
      | ok y =>
        rw [hy] at h
        cases h
  · rintro (ho | ⟨tokens, e, ho, hy, rfl⟩)
    · exact solve_of_order_error ho
    · rw [solve_of_order ho, hy]
      rfl

end Settings

end Calculator
