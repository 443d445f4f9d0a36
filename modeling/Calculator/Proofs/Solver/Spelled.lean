import Mathlib
import Calculator.Proofs.Expression.Reading
import Calculator.Solver

/-!
# What a well-formed expression means

Whoever writes a tree in infix gets its value, whichever parentheses are added and whatever is
dropped between and inside its tokens.

* `Expression.SpelledBy`: the texts that write a tree in infix.
* `Expression.SpelledBy.ofString`: such a text has the tokens of the spelling.
* **`Settings.solve_of_spelledBy`**: its postfix order is the postorder of the tree, and what it is
  solved to is the value of the tree, rounded, or the first arithmetic error on the way there.
-/

namespace Calculator

/-- The significant characters of the text write the tree in infix. -/
def Expression.SpelledBy (e : Expression) (text : String) : Prop :=
  ∃ tokens, e.Spelling 0 tokens ∧ significant text.toList = Token.chars tokens

theorem Expression.SpelledBy.ofString {e : Expression} {text : String} (h : e.SpelledBy text)
    (hn : ∀ number ∈ e.numbers, Decimal.IsLiteral number) : e.Spelling 0 (Token.ofString text) := by
  obtain ⟨tokens, hs, ht⟩ := h
  rwa [Token.ofString_eq (hs.lexical hn) hs.separate ht]

namespace Settings

theorem order_of_spelledBy (settings : Settings) {e : Expression} {text : String}
    (hn : ∀ number ∈ e.numbers, Decimal.IsLiteral number) (h : e.SpelledBy text) :
    settings.order text = .ok e.postorder := by
  rw [order, (h.ofString hn).toPostfix_eq]
  rfl

/-- **A well-formed expression is solved to the value of its tree.** -/
theorem solve_of_spelledBy (settings : Settings) {e : Expression} {text : String}
    (hn : ∀ number ∈ e.numbers, Decimal.IsLiteral number) (h : e.SpelledBy text) :
    settings.order text = .ok e.postorder ∧
    settings.solve text =
      (e.value.map (Decimal.roundToPlaces settings.places)).mapError .evaluation ∧
    ∀ err, e.value = .error err → ∃ a, err = .arithmetic a := by
  have ho := settings.order_of_spelledBy hn h
  have hr : ∀ number ∈ e.numbers, (Decimal.readFloat? number).isSome :=
    fun number hm => (hn number hm).isSome_readFloat?
  refine ⟨ho, ?_, fun err he => Expression.exists_arithmetic_of_value hr he⟩
  rw [solve_of_order ho, Expression.evalPostfix_postorder]

/-- A space inside a name and a second pair of parentheses do not matter. -/
theorem solve_two_minus_sqrt_nine :
    ({} : Settings).order "2-sq rt((9))" =
      .ok (Expression.binary .subtract (.number "2") (.call .sqrt (.number "9"))).postorder ∧
    ({} : Settings).solve "2-sq rt((9))" =
      ((Expression.binary .subtract (.number "2") (.call .sqrt (.number "9"))).value.map
        (Decimal.roundToPlaces 15)).mapError .evaluation := by
  have hn : ∀ number ∈ (Expression.binary .subtract (.number "2")
      (.call .sqrt (.number "9"))).numbers, Decimal.IsLiteral number := by
    simp [Expression.numbers, Decimal.IsLiteral, Decimal.IsRun]
  have hs : Expression.SpelledBy (.binary .subtract (.number "2") (.call .sqrt (.number "9")))
      "2-sq rt((9))" :=
    ⟨_, .binary .subtract (Nat.zero_le 1) (.number 1 "2")
      (.call 2 .sqrt (.parenthesized 0 (.number 0 "9"))), by rfl⟩
  have h := solve_of_spelledBy {} hn hs
  exact ⟨h.1, h.2.1⟩

end Settings

end Calculator
