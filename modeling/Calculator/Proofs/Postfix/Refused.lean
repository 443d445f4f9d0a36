import Mathlib
import Calculator.Log
import Calculator.Proofs.Postfix.Steps

/-!
# Which tokens have no postfix order

A conversion is stopped by the first token that is refused, and whether a token is refused shows in
the tokens alone: it is a name without a meaning, or a `)` without a partner.

* `Refused`: the places where a token is refused, each with the error.
* `refused_length_iff`: behind tokens that can be read, what is refused is what a step refuses.
* `not_refused_of_readInfix`, `exists_first_refused`: what a run says about the places behind it.
* **`toPostfix_refused`**: the outcome of a conversion is decided by the first refused place, and
  groups that are left open are closed one by one.
-/

namespace Calculator

/-- `Refused unknown tokens i e`: the token at place `i` is refused because of `e`. -/
inductive Refused (unknown : UnknownNames) (tokens : List Token) (i : Nat) :
    ConversionError → Prop where
  | unknownName {name : String} : unknown = .reject → tokens[i]? = some (.name name) →
      Meaning.ofName? name = none → Refused unknown tokens i (.unknownName name)
  | mismatchedClosing : tokens[i]? = some .closing →
      (tokens.take (i + 1)).count .opening < (tokens.take (i + 1)).count .closing →
        Refused unknown tokens i .mismatchedClosing

variable {unknown : UnknownNames} {tokens before : List Token} {e : ConversionError}

theorem Refused.lt_length {i : Nat} (h : Refused unknown tokens i e) : i < tokens.length := by
  cases h with
  | unknownName _ ht _ => exact (List.getElem?_eq_some_iff.mp ht).1
  | mismatchedClosing ht _ => exact (List.getElem?_eq_some_iff.mp ht).1

/-- A place has one error at most. -/
theorem Refused.unique {i : Nat} {e' : ConversionError} (h : Refused unknown tokens i e)
    (h' : Refused unknown tokens i e') : e = e' := by
  cases h with
  | unknownName _ ht _ =>
    cases h' with
    | unknownName _ ht' _ =>
      cases ht.symm.trans ht'
      rfl
    | mismatchedClosing ht' _ => cases ht.symm.trans ht'
  | mismatchedClosing ht _ =>
    cases h' with
    | unknownName _ ht' _ => cases ht.symm.trans ht'
    | mismatchedClosing _ _ => rfl

/-- What follows a token has no influence on whether it is refused. -/
theorem refused_append_iff {i : Nat} (hi : i < before.length) (after : List Token) :
    Refused unknown (before ++ after) i e ↔ Refused unknown before i e := by
  have hget : (before ++ after)[i]? = before[i]? := List.getElem?_append_left hi
  have htake : (before ++ after).take (i + 1) = before.take (i + 1) := List.take_append_of_le_length hi
  constructor
  · rintro (⟨hu, ht, hn⟩ | ⟨ht, hc⟩)
    · exact .unknownName hu (hget ▸ ht) hn
    · exact .mismatchedClosing (hget ▸ ht) (htake ▸ hc)
  · rintro (⟨hu, ht, hn⟩ | ⟨ht, hc⟩)
    · exact .unknownName hu (hget.trans ht) hn
    · exact .mismatchedClosing (hget.trans ht) (by rwa [htake])

/-- **Behind tokens that can be read, the refused tokens are those that a step refuses.** -/
theorem refused_length_iff {s : Conversion} (h : readInfix unknown before = .ok s) {t : Token}
    (after : List Token) : Refused unknown (before ++ t :: after) before.length e ↔
      Conversion.step unknown s t = .error e := by
  have hget : (before ++ t :: after)[before.length]? = some t := by simp
  have htake : (before ++ t :: after).take (before.length + 1) = before ++ [t] :=
    List.take_length_add_append 1
  -- The groups that wait are the `(` without a partner, so a `)` needs one of them.
  have hcount : (before ++ [Token.closing]).count .opening <
      (before ++ [Token.closing]).count .closing ↔ .group ∉ s.pending := by
    rw [Conversion.group_mem_iff h, List.count_append, List.count_append,
      List.count_singleton_self, List.count_eq_zero.mpr (by simp : Token.opening ∉ [Token.closing])]
    omega
  rw [Conversion.step_eq_error_iff]
  constructor
  · rintro (⟨hu, ht, hn⟩ | ⟨ht, hc⟩)
    · exact .inl ⟨_, Option.some.inj (hget.symm.trans ht), hn, hu, rfl⟩
    · obtain rfl : t = .closing := Option.some.inj (hget.symm.trans ht)
      rw [htake, hcount] at hc
      exact .inr ⟨rfl, hc, rfl⟩
  · rintro (⟨name, rfl, hn, hu, rfl⟩ | ⟨rfl, hc, rfl⟩)
    · exact .unknownName hu hget hn
    · refine .mismatchedClosing hget ?_
      rwa [htake, hcount]

/-- In tokens that can be read no place is refused. -/
theorem not_refused_of_readInfix {s : Conversion} (h : readInfix unknown tokens = .ok s) (i : Nat)
    (e : ConversionError) : ¬ Refused unknown tokens i e := by
  intro hr
  have hi := hr.lt_length
  obtain ⟨before, t, after, rfl, rfl⟩ : ∃ before t after,
      tokens = before ++ t :: after ∧ before.length = i :=
    ⟨tokens.take i, tokens[i], tokens.drop (i + 1), by simp, by simp; omega⟩
  obtain ⟨s', hb, hrest⟩ := foldlM_append_eq_ok_iff.mp h
  obtain ⟨s₁, hs, -⟩ := foldlM_cons_eq_ok_iff.mp hrest
  cases hs.symm.trans ((refused_length_iff hb after).mp hr)

/-- A conversion that fails does so at the first place that is refused. -/
theorem exists_first_refused (h : readInfix unknown tokens = .error e) :
    ∃ i, Refused unknown tokens i e ∧ ∀ j < i, ∀ e', ¬ Refused unknown tokens j e' := by
  obtain ⟨before, t, after, s, rfl, hb, hs⟩ := foldlM_eq_error_iff.mp h
  refine ⟨before.length, (refused_length_iff hb after).mpr hs, fun j hj e' hr => ?_⟩
  exact not_refused_of_readInfix hb j e' ((refused_append_iff hj _).mp hr)

/-- The log has a line for each group that is left open, and no other line is like it. -/
theorem count_ofConversion {output : List Token} (h : toPostfix unknown tokens = .ok output) :
    (Log.ofConversion unknown tokens).count ⟨.debug, .conversion, "closing unbalanced '('"⟩ =
      unclosedGroups unknown tokens := by
  have hresult : (⟨.debug, .conversion, "rpn: " ++ Token.display output⟩ : Record) ≠
      ⟨.debug, .conversion, "closing unbalanced '('"⟩ := by
    intro heq
    have hc := congrArg (fun r : Record => r.text.toList.head?) heq
    simp at hc
  rw [Log.ofConversion, h, List.count_append, List.count_append, List.count_replicate_self,
    List.count_singleton, if_neg (by simpa using hresult), Nat.add_zero, Nat.add_eq_right,
    List.count_eq_zero]
  simp

/-- **The first refused place decides** whether and how a conversion fails. Without one there is a
postfix order, and then the log has a line for each `(` without a partner. -/
theorem toPostfix_refused (unknown : UnknownNames) (tokens : List Token) :
    ((∃ output, toPostfix unknown tokens = .ok output) ↔ ∀ i e, ¬ Refused unknown tokens i e) ∧
    (∀ e, toPostfix unknown tokens = .error e ↔
      ∃ i, Refused unknown tokens i e ∧ ∀ j < i, ∀ e', ¬ Refused unknown tokens j e') ∧
    (∀ output, toPostfix unknown tokens = .ok output →
      unclosedGroups unknown tokens + tokens.count .closing = tokens.count .opening ∧
      (Log.ofConversion unknown tokens).count ⟨.debug, .conversion, "closing unbalanced '('"⟩ =
        unclosedGroups unknown tokens) := by
  refine ⟨?_, fun e => ?_, fun output h => ⟨?_, count_ofConversion h⟩⟩
  · constructor
    · rintro ⟨output, h⟩
      obtain ⟨s, hs, -⟩ := toPostfix_eq_ok_iff.mp h
      exact not_refused_of_readInfix hs
    · intro h
      cases hs : toPostfix unknown tokens with
      | ok output => exact ⟨output, rfl⟩
      | error e =>
        obtain ⟨i, hi, -⟩ := exists_first_refused (toPostfix_eq_error_iff.mp hs)
        exact absurd hi (h i e)
  · rw [toPostfix_eq_error_iff]
    refine ⟨exists_first_refused, fun ⟨i, hi, hfirst⟩ => ?_⟩
    cases hs : readInfix unknown tokens with
    | ok s => exact absurd hi (not_refused_of_readInfix hs i e)
    | error e' =>
      -- Two first places are the same place.
      obtain ⟨j, hj, hfirst'⟩ := exists_first_refused hs
      obtain hlt | rfl | hlt := Nat.lt_trichotomy i j
      · exact absurd hi (hfirst' i hlt e)
      · rw [hj.unique hi]
      · exact absurd hj (hfirst j hlt e')
  · obtain ⟨s, hs, -⟩ := toPostfix_eq_ok_iff.mp h
    rw [unclosedGroups, hs]
    exact Conversion.openGroups_add_count hs

end Calculator
