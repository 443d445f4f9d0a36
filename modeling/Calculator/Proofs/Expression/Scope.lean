import Mathlib
import Calculator.Proofs.Expression.Reading
import Calculator.Proofs.Postfix.Refused

/-!
# How far a function without parentheses reaches

A function takes the group that follows it. Where no group follows, it waits below all operators
that come after it, and is put out behind them when the group that it stands in ends: it takes
everything up to there, and not just the next operand.

* `Token.Balanced`, `balanced_of_toPostfix`, `exists_toPostfix_of_balanced`: complete groups, and
  their postfix order.
* `toPostfix_function_group`: a function in front of a group.
* `toPostfix_append_number`, `toPostfix_append_function`: a number at the end, and a function with
  its operand in the same place.
* `Expression.Spelling.foldlM_parenthesized_function`: parentheses that a function does not need.
* **`Expression.Spelling.function_scope`**: both cases, for every spelling behind a function.
-/

namespace Calculator

/-- Every parenthesis among the tokens has its partner among them. -/
structure Token.Balanced (tokens : List Token) : Prop where
  count_eq : tokens.count .closing = tokens.count .opening
  /-- Along the way no more groups are closed than were opened. -/
  count_le : ∀ before, before <+: tokens → before.count .closing ≤ before.count .opening

instance (tokens : List Token) : Decidable (Token.Balanced tokens) :=
  decidable_of_iff (tokens.count .closing = tokens.count .opening ∧
      ∀ before ∈ tokens.inits, before.count .closing ≤ before.count .opening)
    ⟨fun ⟨he, hle⟩ => ⟨he, fun before hb => hle before ((List.mem_inits _ _).mpr hb)⟩,
      fun h => ⟨h.count_eq, fun before hb => h.count_le before ((List.mem_inits _ _).mp hb)⟩⟩

variable {unknown : UnknownNames}

/-! ## In front of a group -/

/-- What stands in a complete group can be put into postfix order if the tokens around it can. -/
theorem exists_toPostfix_of_balanced {group output : List Token} (hb : Token.Balanced group)
    (before after : List Token)
    (h : toPostfix unknown (before ++ group ++ after) = .ok output) :
    ∃ output', toPostfix unknown group = .ok output' := by
  cases hg : toPostfix unknown group with
  | ok output' => exact ⟨output', rfl⟩
  | error e =>
    exfalso
    obtain ⟨s, hs, -⟩ := toPostfix_eq_ok_iff.mp h
    obtain ⟨i, hi, -⟩ := exists_first_refused (toPostfix_eq_error_iff.mp hg)
    cases hi with
    | unknownName hu hget hn =>
      -- A name without a meaning is refused wherever it stands.
      have hlt := (List.getElem?_eq_some_iff.mp hget).1
      refine not_refused_of_readInfix hs (before.length + i) _ (.unknownName hu ?_ hn)
      rw [List.append_assoc, List.getElem?_append_right (Nat.le_add_right _ _),
        Nat.add_sub_cancel_left, List.getElem?_append_left hlt]
      exact hget
    | mismatchedClosing _ hc =>
      -- A group that is balanced closes no other.
      exact absurd (hb.count_le _ (List.take_prefix _ _)) (Nat.not_le_of_lt hc)

/-- Tokens with a postfix order are balanced once all their groups are closed. -/
theorem balanced_of_toPostfix {tokens output : List Token}
    (h : toPostfix unknown tokens = .ok output)
    (hc : tokens.count .closing = tokens.count .opening) : Token.Balanced tokens := by
  refine ⟨hc, ?_⟩
  rintro before ⟨after, rfl⟩
  obtain ⟨s, hs, -⟩ := toPostfix_eq_ok_iff.mp h
  obtain ⟨s', hb, -⟩ := foldlM_append_eq_ok_iff.mp hs
  have hd := Conversion.openGroups_add_count hb
  omega

/-- **A function takes the group behind it**, and nothing that follows the group. -/
theorem toPostfix_function_group {group output : List Token}
    (h : toPostfix unknown group = .ok output)
    (hc : group.count .closing = group.count .opening) (f : Func) (after : List Token) :
    toPostfix unknown (Token.parenthesized group ++ after) =
        (toPostfix unknown after).map (output ++ ·) ∧
      toPostfix unknown (.name f.name :: Token.parenthesized group ++ after) =
        (toPostfix unknown after).map (output ++ [.name f.name] ++ ·) := by
  have hgroup : readInfix unknown (Token.parenthesized group) = .ok ⟨output, []⟩ :=
    Conversion.foldlM_parenthesized h hc Conversion.start
  have hcall : readInfix unknown (.name f.name :: Token.parenthesized group) =
      .ok ⟨output ++ [.name f.name], []⟩ :=
    foldlM_cons_eq_ok_iff.mpr ⟨_, Conversion.step_eq_ok_iff.mpr (.function f),
      Conversion.foldlM_parenthesized h hc _⟩
  exact ⟨toPostfix_append hgroup after, toPostfix_append hcall after⟩

/-! ## At the end -/

section End

variable {before : List Token} {s : Conversion} (hb : readInfix unknown before = .ok s)

include hb

/-- A number at the end is put out in front of what waits. -/
theorem toPostfix_append_number (text : String) :
    toPostfix unknown (before ++ [.number text]) =
      .ok (s.output ++ .number text :: s.pending.filterMap Pending.token?) := by
  refine toPostfix_eq_ok_iff.mpr ⟨s.emit (.number text), ?_, List.append_assoc ..⟩
  rw [readInfix, foldlM_append_ok hb]
  rfl

/-- **A function takes all of a spelling that starts with no group**: in front of what waits, the
tree is put out and then the function. -/
theorem toPostfix_append_function {e : Expression} {tokens : List Token}
    (h : e.Spelling 0 tokens) (hne : tokens.head? ≠ some .opening) (f : Func) :
    toPostfix unknown (before ++ .name f.name :: tokens) =
      .ok (s.output ++ (e.postorder ++ .name f.name :: s.pending.filterMap Pending.token?)) := by
  have hleaves : (s.push (.function f)).Leaves 0 := by
    intro p hp next _
    cases hp
    rfl
  have hcalls : ¬ (s.push (.function f)).Calls tokens := fun ⟨_, _, ho⟩ => hne ho
  obtain ⟨written, waiting, hrun, hpost, -⟩ := h.readsAs unknown hleaves hcalls
  have hread := foldlM_cons_eq_ok_iff.mpr ⟨_, Conversion.step_eq_ok_iff.mpr (.function f), hrun⟩
  rw [← foldlM_append_ok hb] at hread
  refine toPostfix_eq_ok_iff.mpr ⟨_, hread, ?_⟩
  -- The operators that still wait stand above the function, so they are put out before it.
  rw [Conversion.finish, List.filterMap_append, Conversion.filterMap_operators, ← hpost]
  simp [Conversion.push, Pending.token?]

end End

namespace Expression.Spelling

open Conversion

variable {e : Expression} {tokens : List Token}

/-- Behind a spelling and an operator only operators wait. -/
theorem exists_readInfix_operator (h : e.Spelling 0 tokens) (unknown : UnknownNames)
    (o : Operator) : ∃ (written : List Token) (waiting : List Operator),
      readInfix unknown (tokens ++ [.operator o]) = .ok ⟨written, waiting.map .operator⟩ := by
  obtain ⟨written, waiting, hrun, -, -⟩ :=
    h.readsAs unknown (leaves_start 0) (not_calls_start tokens)
  let s : Conversion := ⟨written, waiting.map .operator⟩
  have hs : readInfix unknown tokens = .ok s := by
    rw [readInfix, hrun, Conversion.start, List.append_nil]
    rfl
  refine ⟨(s.release o).output, o :: waiting.dropWhile (·.bindsBefore o), ?_⟩
  rw [readInfix, foldlM_append_ok hs]
  have hd : s.pending.dropWhile (·.bindsBefore o) =
      (waiting.dropWhile (·.bindsBefore o)).map .operator := List.dropWhile_map ..
  rw [List.map_cons, ← hd]
  rfl

/-- A spelling that starts with a `(` starts with a complete group. -/
theorem exists_group {strength : Nat} (h : e.Spelling strength tokens)
    (ho : tokens.head? = some .opening) :
    ∃ group after, tokens = Token.parenthesized group ++ after ∧ Token.Balanced group := by
  induction h with
  | number | constant | call => cases ho
  | binary o _ hl _ ihl _ =>
    rw [List.head?_append_of_ne_nil _ hl.ne_nil] at ho
    obtain ⟨group, after, rfl, hb⟩ := ihl ho
    exact ⟨group, _, List.append_assoc .., hb⟩
  | parenthesized _ h =>
    have hb := balanced_of_toPostfix (h.toPostfix_eq .reject) h.count_eq
    exact ⟨_, [], (List.append_nil _).symm, hb⟩

/-- At the start a function is put out behind all of the spelling that follows it. -/
theorem toPostfix_function (h : e.Spelling 0 tokens) (hne : tokens.head? ≠ some .opening)
    (unknown : UnknownNames) (f : Func) :
    toPostfix unknown (.name f.name :: tokens) = .ok (e.postorder ++ [.name f.name]) := by
  have hstart : readInfix unknown [] = .ok start := rfl
  exact toPostfix_append_function hstart h hne f

/-- In a group that ends with the spelling, parentheses around the spelling make no difference. -/
theorem foldlM_parenthesized_function (h : e.Spelling 0 tokens)
    (hne : tokens.head? ≠ some .opening) (unknown : UnknownNames) (f : Func) (s : Conversion) :
    (Token.parenthesized (.name f.name :: tokens)).foldlM (step unknown) s =
      (Token.parenthesized (.name f.name :: Token.parenthesized tokens)).foldlM
        (step unknown) s := by
  have hbare := h.toPostfix_function hne unknown f
  have hcall : toPostfix unknown (.name f.name :: Token.parenthesized tokens) =
      .ok (e.postorder ++ [.name f.name]) := (Spelling.call 0 f h).toPostfix_eq unknown
  rw [foldlM_parenthesized hbare (by simpa using h.count_eq),
    foldlM_parenthesized hcall (by simpa using count_parenthesized h.count_eq)]

/-- **What a function without parentheses of its own takes.** If no group follows, it takes all
that follows up to the end of the group that it stands in, as if that were put in parentheses; as
the right operand of an operator it is put out, behind its own operand, where a number would be. If
a `(` follows, it starts a complete group, and the function takes the group alone. -/
theorem function_scope (h : e.Spelling 0 tokens) (unknown : UnknownNames) (f : Func) :
    (tokens.head? ≠ some .opening →
      toPostfix unknown (Token.name f.name :: tokens) = .ok (e.postorder ++ [Token.name f.name]) ∧
      (∀ before after,
        toPostfix unknown (before ++ Token.parenthesized (Token.name f.name :: tokens) ++ after) =
          toPostfix unknown (before ++
            Token.parenthesized (Token.name f.name :: Token.parenthesized tokens) ++ after)) ∧
      ∀ (e' : Expression) (tokens' : List Token) (o : Operator), e'.Spelling 0 tokens' →
        ∃ (written : List Token) (waiting : List Operator),
          (∀ text, toPostfix unknown (tokens' ++ [Token.operator o, Token.number text]) =
            .ok (written ++ Token.number text :: waiting.map Token.operator)) ∧
          toPostfix unknown (tokens' ++ Token.operator o :: Token.name f.name :: tokens) =
            .ok (written ++ (e.postorder ++ Token.name f.name :: waiting.map Token.operator))) ∧
    (tokens.head? = some .opening →
      ∃ group after, tokens = Token.parenthesized group ++ after ∧ Token.Balanced group) ∧
    ∀ group after, tokens = Token.parenthesized group ++ after → Token.Balanced group →
      ∃ output rest, toPostfix unknown group = .ok output ∧
        toPostfix unknown tokens = .ok (output ++ rest) ∧
        toPostfix unknown (Token.name f.name :: tokens) =
          .ok (output ++ Token.name f.name :: rest) := by
  refine ⟨fun hne => ⟨h.toPostfix_function hne unknown f, fun before after => ?_,
    fun e' tokens' o h' => ?_⟩, h.exists_group, fun group after ht hb => ?_⟩
  · exact toPostfix_exchange (h.foldlM_parenthesized_function hne unknown f) before after
  · obtain ⟨written, waiting, hread⟩ := h'.exists_readInfix_operator unknown o
    refine ⟨written, waiting, fun text => ?_, ?_⟩
    · rw [List.append_cons, toPostfix_append_number hread, filterMap_operators]
    · rw [List.append_cons, toPostfix_append_function hread h hne, filterMap_operators]
  · subst ht
    have ho := h.toPostfix_eq unknown
    obtain ⟨output, hg⟩ := exists_toPostfix_of_balanced hb [.opening] (.closing :: after)
      (by simpa [Token.parenthesized] using ho)
    obtain ⟨halone, hcall⟩ := toPostfix_function_group hg hb.count_eq f after
    cases hrest : toPostfix unknown after with
    | error err =>
      rw [halone, hrest] at ho
      cases ho
    | ok rest =>
      rw [hrest] at halone hcall
      refine ⟨output, rest, hg, halone, ?_⟩
      rw [List.append_cons output]
      exact hcall

/-- A function takes the sum behind it, alone and as an operand, but of a product only the group
that the product starts with. -/
theorem function_scope_nine_plus_sixteen :
    Expression.Spelling 0 (.binary .add (.number "9") (.number "16")) (Token.ofString "9+16") ∧
    (Token.ofString "9+16").head? ≠ some .opening ∧
    toPostfix .reject (Token.ofString "sqrt 9+16") =
      .ok [.number "9", .number "16", .operator .add, .name "sqrt"] ∧
    (∃ (written : List Token) (waiting : List Operator),
      toPostfix .reject (Token.ofString "1+2*3") =
        .ok (written ++ Token.number "3" :: waiting.map Token.operator) ∧
      toPostfix .reject (Token.ofString "1+2*sqrt 9+16") =
        .ok (written ++ (Token.number "9" :: Token.number "16" :: Token.operator .add ::
          Token.name "sqrt" :: waiting.map Token.operator))) ∧
    ∃ output rest, toPostfix .reject (Token.ofString "9+16") = .ok output ∧
      toPostfix .reject (Token.ofString "(9+16)*4") = .ok (output ++ rest) ∧
      toPostfix .reject (Token.ofString "sqrt(9+16)*4") =
        .ok (output ++ Token.name "sqrt" :: rest) := by
  have hsum : Expression.Spelling 0 (.binary .add (.number "9") (.number "16"))
      (Token.ofString "9+16") := .binary .add (Nat.zero_le 1) (.number 1 "9") (.number 2 "16")
  have hleft : Expression.Spelling 0 (.binary .add (.number "1") (.number "2"))
      (Token.ofString "1+2") := .binary .add (Nat.zero_le 1) (.number 1 "1") (.number 2 "2")
  have hproduct : Expression.Spelling 0
      (.binary .multiply (.binary .add (.number "9") (.number "16")) (.number "4"))
      (Token.parenthesized (Token.ofString "9+16") ++ Token.ofString "*4") :=
    .binary .multiply (Nat.zero_le 2) (.parenthesized 2 hsum) (.number 3 "4")
  obtain ⟨halone, -, hoperand⟩ := (function_scope hsum .reject .sqrt).1 (by decide)
  obtain ⟨written, waiting, hnumber, hfunction⟩ := hoperand _ _ .multiply hleft
  obtain ⟨output, rest, hg, ho, hf⟩ :=
    (function_scope hproduct .reject .sqrt).2.2 _ _ rfl (by decide)
  exact ⟨hsum, by decide, halone, ⟨written, waiting, hnumber "3", hfunction⟩,
    output, rest, hg, ho, hf⟩

end Expression.Spelling

end Calculator
