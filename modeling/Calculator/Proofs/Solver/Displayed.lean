import Mathlib
import Calculator.Proofs.Postfix.Steps
import Calculator.Proofs.Token.Display
import Calculator.Solver

/-!
# Displayed postfix orders

The text of a postfix order says all about it. Tokens in general can be displayed alike, but the
tokens of an expression can be told apart, and a conversion does not make others of them.

* `Settings.lexical_of_order`: the tokens of a postfix order are those of the expression.
* **`Settings.solve_of_display_eq`**: expressions with postfix orders that are displayed alike are
  solved alike.
-/

namespace Calculator

namespace Settings

/-- The tokens of a postfix order can be written. -/
theorem lexical_of_order {settings : Settings} {expression : String} {tokens : List Token}
    (h : settings.order expression = .ok tokens) : ∀ t ∈ tokens, t.Lexical := by
  obtain ⟨s, hs, rfl⟩ := exists_readInfix_of_order h
  intro t ht
  rw [(Conversion.finish_perm hs).mem_iff, List.mem_filter] at ht
  exact Token.lexical_of_mem_ofString ht.1

/-- **A displayed postfix order determines the expression**, whatever becomes of unknown names: it
is the display of one token list only, and all expressions that it belongs to have the same value or
the same error when they are rounded to the same places. -/
theorem solve_of_display_eq {settings settings' : Settings} {expression expression' : String}
    {tokens tokens' : List Token} (h : settings.order expression = .ok tokens)
    (h' : settings'.order expression' = .ok tokens')
    (hd : Token.display tokens = Token.display tokens') :
    tokens = tokens' ∧ ∀ places,
      ({ settings with places } : Settings).solve expression =
        ({ settings' with places } : Settings).solve expression' := by
  obtain rfl := Token.display_injective (lexical_of_order h) (lexical_of_order h') hd
  refine ⟨rfl, fun places => ?_⟩
  -- The places have no influence on the postfix order.
  have ho : ({ settings with places } : Settings).order expression = .ok tokens := h
  have ho' : ({ settings' with places } : Settings).order expression' = .ok tokens := h'
  rw [solve_of_order ho, solve_of_order ho']

/-- A name that is dropped, a space inside a number and redundant parentheses do not show. -/
theorem solve_twenty_minus_four : ∃ tokens tokens',
    ({} : Settings).order "20-4*pi" = .ok tokens ∧
    ({ unknownNames := .drop } : Settings).order "2 0x-((4)*p i" = .ok tokens' ∧
    Token.display tokens = Token.display tokens' ∧ Token.display tokens = "20 4 pi * -" ∧
    ∀ places, ({ places } : Settings).solve "20-4*pi" =
      ({ places, unknownNames := .drop } : Settings).solve "2 0x-((4)*p i" := by
  have h : ({} : Settings).order "20-4*pi" = .ok [.number "20", .number "4", .name "pi",
    .operator .multiply, .operator .subtract] := rfl
  have h' : ({ unknownNames := .drop } : Settings).order "2 0x-((4)*p i" = .ok [.number "20",
    .number "4", .name "pi", .operator .multiply, .operator .subtract] := rfl
  exact ⟨_, _, h, h', rfl, rfl, (solve_of_display_eq h h' rfl).2⟩

end Settings

end Calculator
