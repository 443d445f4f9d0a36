import Mathlib
import Calculator.Proofs.Solver.Congruence

/-!
# Groups left open

A group that is open where the tokens end is closed there. What waits in it is put out in the same
order whether the `)` is written or not, so the postfix order does not tell the two apart.

* `toPostfix_closing_of_lt`, `toPostfix_closing_of_le`, `toPostfix_append_closings`: a `)` at the
  end closes a group that is open, or else it is an error.
* `toPostfix_opening`, `toPostfix_openings`: a `(` that is never closed.
* `Settings.order_parenthesized`: an expression in parentheses behind another text.
* **`Settings.order_unclosed`**: written and implied parentheses agree.
-/

namespace Calculator

variable {unknown : UnknownNames} {tokens output : List Token}

/-! ## Closing parentheses -/

/-- The groups that are closed have been opened. -/
theorem count_closing_le (h : toPostfix unknown tokens = .ok output) :
    tokens.count .closing ≤ tokens.count .opening := by
  obtain ⟨s, hs, -⟩ := toPostfix_eq_ok_iff.mp h
  have hd := Conversion.openGroups_add_count hs
  omega

/-- A `)` that closes an open group leaves the postfix order as it is. -/
theorem toPostfix_closing_of_lt (h : toPostfix unknown tokens = .ok output)
    (hlt : tokens.count .closing < tokens.count .opening) :
    toPostfix unknown (tokens ++ [.closing]) = .ok output := by
  obtain ⟨s, hs, rfl⟩ := toPostfix_eq_ok_iff.mp h
  have hg := (Conversion.group_mem_iff hs).mpr hlt
  obtain ⟨written, inner, rest, rfl, hi⟩ := Conversion.exists_innermost_group hg
  refine toPostfix_eq_ok_iff.mpr ⟨_, ?_, Conversion.finish_closing written inner rest⟩
  rw [readInfix, foldlM_append_ok hs, foldlM_cons_eq_ok_iff]
  exact ⟨_, Conversion.close_eq written hi rest, rfl⟩

/-- A `)` is an error where no group is open. -/
theorem toPostfix_closing_of_le (h : toPostfix unknown tokens = .ok output)
    (hle : tokens.count .opening ≤ tokens.count .closing) :
    toPostfix unknown (tokens ++ [.closing]) = .error .mismatchedClosing := by
  obtain ⟨s, hs, -⟩ := toPostfix_eq_ok_iff.mp h
  have hg := mt (Conversion.group_mem_iff hs).mp (Nat.not_lt_of_le hle)
  refine toPostfix_eq_error_iff.mpr (foldlM_eq_error_iff.mpr ?_)
  exact ⟨tokens, .closing, [], s, rfl, hs, Conversion.close_eq_error hg⟩

/-- **Behind the tokens there can be a `)` for each group left open**, and no more. -/
theorem toPostfix_append_closings (h : toPostfix unknown tokens = .ok output) (j : Nat) :
    toPostfix unknown (tokens ++ List.replicate j Token.closing) =
      if j + tokens.count .closing ≤ tokens.count .opening then .ok output
      else .error .mismatchedClosing := by
  induction j generalizing tokens with
  | zero =>
    have hle := count_closing_le h
    rw [List.replicate_zero, List.append_nil, if_pos (by omega), h]
  | succ j ih =>
    rw [List.replicate_succ, List.append_cons]
    by_cases hlt : tokens.count .closing < tokens.count .opening
    · have ho : (tokens ++ [Token.closing]).count .opening = tokens.count .opening := by simp
      have hc : (tokens ++ [Token.closing]).count .closing = tokens.count .closing + 1 := by simp
      rw [ih (toPostfix_closing_of_lt h hlt), ho, hc, Nat.add_right_comm, Nat.add_assoc]
    · have he := toPostfix_closing_of_le h (Nat.le_of_not_lt hlt)
      rw [toPostfix_append_error (toPostfix_eq_error_iff.mp he), if_neg (by omega)]

/-! ## Opening parentheses -/

/-- A `(` that is never closed: what waits in front of it is put out last. -/
theorem toPostfix_opening {before : List Token} {outer : Conversion}
    (hb : readInfix unknown before = .ok outer) (h : toPostfix unknown tokens = .ok output) :
    toPostfix unknown (before ++ .opening :: tokens) =
      .ok (outer.output ++ output ++ outer.pending.filterMap Pending.token?) := by
  obtain ⟨s, hs, rfl⟩ := toPostfix_eq_ok_iff.mp h
  refine toPostfix_eq_ok_iff.mpr ⟨outer.inside s, ?_, Conversion.finish_inside outer s⟩
  rw [readInfix, foldlM_append_ok hb]
  exact Conversion.foldlM_opening hs outer

theorem toPostfix_openings (h : toPostfix unknown tokens = .ok output) (n : Nat) :
    toPostfix unknown (List.replicate n Token.opening ++ tokens) = .ok output := by
  induction n with
  | zero => exact h
  | succ n ih =>
    have hb : readInfix unknown [] = .ok Conversion.start := rfl
    have ho := toPostfix_opening hb ih
    rwa [Conversion.start, List.filterMap_nil, List.append_nil] at ho

/-! ## Expressions -/

theorem Token.ofString_function (f : Func) : ofString f.name = [.name f.name] := by
  cases f <;> rfl

namespace Settings

variable {settings : Settings} {expression : String}

/-- **An expression in parentheses is put out behind the output of the text before it** and in front
of what waits there, even if its `)` closes a group inside of it. -/
theorem order_parenthesized {before : String} {outer : Conversion}
    (hb : readInfix settings.unknownNames (Token.ofString before) = .ok outer)
    (h : settings.order expression = .ok output) :
    settings.order (before ++ "(" ++ expression ++ ")") =
      .ok (outer.output ++ output ++ outer.pending.filterMap Pending.token?) := by
  have ht : Token.ofString (before ++ "(" ++ expression ++ ")") =
      Token.ofString before ++ Token.opening :: Token.ofString expression ++ [Token.closing] := by
    have hg := Token.ofString_group before expression ""
    rw [String.append_empty] at hg
    exact hg
  have ho := toPostfix_opening hb (order_eq_ok_iff.mp h)
  -- A group is open behind the `(`, since no more groups are closed than opened on either side.
  have hlt : (Token.ofString before ++ Token.opening :: Token.ofString expression).count .closing <
      (Token.ofString before ++ Token.opening :: Token.ofString expression).count .opening := by
    have hd := Conversion.openGroups_add_count hb
    have hle := count_closing_le (order_eq_ok_iff.mp h)
    simp only [List.count_append, List.count_cons_self, List.count_cons_of_ne (by decide :
      Token.opening ≠ .closing)]
    omega
  rw [order_eq_ok_iff, ht]
  exact toPostfix_closing_of_lt ho hlt

/-- **Written and implied parentheses agree.** Tokens with a postfix order keep it when a `)` is
written for any of the groups left open, and when any number of `(` is put in front of them; one `)`
more is an error. So an expression in parentheses has its own postfix order, and as the argument of
a function it has the function behind it, even if the expression leaves groups open. -/
theorem order_unclosed (settings : Settings) :
    (∀ tokens output, toPostfix settings.unknownNames tokens = .ok output →
      (∀ j, j + tokens.count .closing ≤ tokens.count .opening →
        toPostfix settings.unknownNames (tokens ++ List.replicate j Token.closing) = .ok output) ∧
      (∀ j, tokens.count .opening < j + tokens.count .closing →
        toPostfix settings.unknownNames (tokens ++ List.replicate j Token.closing) =
          .error .mismatchedClosing) ∧
      (∀ n, toPostfix settings.unknownNames (List.replicate n Token.opening ++ tokens) =
        .ok output)) ∧
    ∀ expression output, settings.order expression = .ok output →
      settings.order ("(" ++ expression ++ ")") = .ok output ∧
      ∀ f : Func, settings.order (f.name ++ "(" ++ expression ++ ")") =
        .ok (output ++ [.name f.name]) := by
  refine ⟨fun tokens output h => ⟨fun j hj => ?_, fun j hj => ?_, toPostfix_openings h⟩,
    fun expression output h => ⟨?_, fun f => ?_⟩⟩
  · rw [toPostfix_append_closings h, if_pos hj]
  · rw [toPostfix_append_closings h, if_neg (Nat.not_le_of_lt hj)]
  · have hb : readInfix settings.unknownNames (Token.ofString "") = .ok Conversion.start := rfl
    have hp := order_parenthesized hb h
    rwa [String.empty_append, Conversion.start, List.filterMap_nil, List.append_nil] at hp
  · have hb : readInfix settings.unknownNames (Token.ofString f.name) =
        .ok (Conversion.start.push (.function f)) := by
      rw [Token.ofString_function, readInfix, foldlM_cons_eq_ok_iff]
      exact ⟨_, Conversion.step_eq_ok_iff.mpr (.function f), rfl⟩
    exact order_parenthesized hb h

/-- An expression that leaves two groups open, in parentheses and as an argument. -/
theorem order_unclosed_seven_minus : ∃ output,
    ({} : Settings).order "(7-(2*3" = .ok output ∧ Token.display output = "7 2 3 * -" ∧
    ({} : Settings).order ("(" ++ "(7-(2*3" ++ ")") = .ok output ∧
    ({} : Settings).order (Func.sqrt.name ++ "(" ++ "(7-(2*3" ++ ")") =
      .ok (output ++ [.name Func.sqrt.name]) := by
  have h : ({} : Settings).order "(7-(2*3" = .ok [.number "7", .number "2", .number "3",
    .operator .multiply, .operator .subtract] := rfl
  obtain ⟨hp, hf⟩ := (order_unclosed {}).2 _ _ h
  exact ⟨_, h, rfl, hp, hf .sqrt⟩

end Settings

end Calculator
