import Mathlib
import Calculator.Expression.Infix
import Calculator.Proofs.Postfix.Group
import Calculator.Proofs.Token.Lexing

/-!
# Reading an infix spelling

A spelling is read in any state of a conversion whose latest waiting operator leaves the operand to
it. Its tree is put out in postfix order, except that the operators on its right edge still wait:
each of them binds tighter than what asked for the spelling, so it is put out in time.

* `Operator.bindsBefore_of_le`, `Operator.not_bindsBefore_of_le`: strengths and binding.
* `Conversion.Leaves`, `Conversion.ReadsAs`: when a spelling can be read, and what reading it does;
  `Conversion.ReadsAs.toPostfix`: what reading it from the start does.
* **`Expression.Spelling.readsAs`**: every spelling is read like this.
* **`Expression.Spelling.toPostfix_eq`**: the postfix order of a spelling is the postorder of its
  tree.
* `Expression.Spelling.lexical`, `Expression.Spelling.separate`: a spelling is made of tokens that a
  text can have.
-/

namespace Calculator

/-! ## Strengths -/

namespace Operator

theorem bindsBefore_of_le {o next : Operator} (h : next.leftStrength ≤ o.precedence) :
    o.bindsBefore next = true := by
  revert h
  cases o <;> cases next <;> decide

theorem not_bindsBefore_of_le {o next : Operator} (h : o.rightStrength ≤ next.precedence) :
    o.bindsBefore next = false := by
  revert h
  cases o <;> cases next <;> decide

theorem precedence_le_leftStrength (o : Operator) : o.precedence ≤ o.leftStrength := by
  cases o <;> decide

theorem precedence_le_rightStrength (o : Operator) : o.precedence ≤ o.rightStrength := by
  cases o <;> decide

end Operator

/-! ## Reading -/

namespace Conversion

/-- What waits leaves the coming operand to every operator of at least the precedence `strength`. -/
def Leaves (s : Conversion) (strength : Nat) : Prop :=
  ∀ p ∈ s.pending.head?, ∀ next : Operator, strength ≤ next.precedence → p.bindsBefore next = false

/-- What waits is no function that would be called with the group that the tokens start with. -/
def Calls (s : Conversion) (tokens : List Token) : Prop :=
  ∃ f, s.pending.head? = some (.function f) ∧ tokens.head? = some .opening

/-- Reading the tokens puts out the postorder of `e`, but for some last operators of at least the
precedence `strength`, which wait. -/
def ReadsAs (s : Conversion) (unknown : UnknownNames) (strength : Nat) (tokens : List Token)
    (e : Expression) : Prop :=
  ∃ (written : List Token) (waiting : List Operator),
    tokens.foldlM (step unknown) s =
      .ok ⟨s.output ++ written, waiting.map .operator ++ s.pending⟩ ∧
    written ++ waiting.map .operator = e.postorder ∧ ∀ o ∈ waiting, strength ≤ o.precedence

theorem Leaves.mono {s : Conversion} {strength strength' : Nat} (h : s.Leaves strength)
    (hle : strength ≤ strength') : s.Leaves strength' :=
  fun p hp next hn => h p hp next (hle.trans hn)

theorem leaves_operator (output : List Token) (o : Operator) (rest : List Pending) :
    (⟨output, .operator o :: rest⟩ : Conversion).Leaves o.rightStrength := by
  intro p hp next hn
  cases hp
  exact Operator.not_bindsBefore_of_le hn

theorem filterMap_operators (waiting : List Operator) :
    (waiting.map Pending.operator).filterMap Pending.token? = waiting.map .operator := by
  rw [List.filterMap_map, ← List.filterMap_eq_map]
  rfl

/-- An operator releases the operators to its left that hold together tightly enough. -/
theorem release_of_leaves {s : Conversion} {o : Operator} (h : s.Leaves o.precedence)
    (output : List Token) {waiting : List Operator}
    (hw : ∀ p ∈ waiting, o.leftStrength ≤ p.precedence) :
    (⟨output, waiting.map .operator ++ s.pending⟩ : Conversion).release o =
      ⟨output ++ waiting.map .operator, s.pending⟩ := by
  have hp : ∀ p ∈ waiting.map Pending.operator, p.bindsBefore o = true := by
    intro p hp
    obtain ⟨o', ho', rfl⟩ := List.mem_map.mp hp
    exact Operator.bindsBefore_of_le (hw o' ho')
  have hr : s.pending.takeWhile (·.bindsBefore o) = [] ∧
      s.pending.dropWhile (·.bindsBefore o) = s.pending := by
    cases hs : s.pending with
    | nil => exact ⟨rfl, rfl⟩
    | cons p rest =>
      have hn : p.bindsBefore o = false := h p (by rw [hs]; rfl) o le_rfl
      simp [hn]
  rw [release, List.takeWhile_append_of_pos hp, List.dropWhile_append_of_pos hp, hr.1, hr.2,
    List.append_nil, filterMap_operators]

/-- Reading two operands around an operator lets the operator wait behind those of the right one. -/
theorem ReadsAs.binary {s : Conversion} {unknown : UnknownNames} {strength : Nat} {o : Operator}
    {before after : List Token} {left right : Expression} (hs : s.Leaves o.precedence)
    (hle : strength ≤ o.precedence) (hl : s.ReadsAs unknown o.leftStrength before left)
    (hr : (⟨s.output ++ left.postorder, .operator o :: s.pending⟩ : Conversion).ReadsAs unknown
      o.rightStrength after right) :
    s.ReadsAs unknown strength (before ++ .operator o :: after) (.binary o left right) := by
  obtain ⟨written, waiting, hrun, hpost, hw⟩ := hl
  obtain ⟨written', waiting', hrun', hpost', hw'⟩ := hr
  -- What waits of the left operand binds tighter than `o`, and what waited before it does not.
  have ho : step unknown ⟨s.output ++ written, waiting.map .operator ++ s.pending⟩ (.operator o) =
      .ok ⟨s.output ++ left.postorder, .operator o :: s.pending⟩ := by
    rw [step, release_of_leaves hs _ hw, List.append_assoc, hpost]
    rfl
  refine ⟨left.postorder ++ written', waiting' ++ [o], ?_, ?_, ?_⟩
  · rw [foldlM_append_ok hrun, List.foldlM_cons, ho]
    change after.foldlM (step unknown) _ = _
    rw [hrun']
    simp
  · rw [List.map_append, List.append_assoc, ← List.append_assoc written', hpost',
      Expression.postorder, List.append_assoc]
    rfl
  · intro p hp
    rcases List.mem_append.mp hp with hp | hp
    · exact hle.trans (o.precedence_le_rightStrength.trans (hw' p hp))
    · rwa [List.mem_singleton.mp hp]

/-! ## Reading from the start -/

theorem leaves_start (strength : Nat) : start.Leaves strength := fun _ hp => nomatch hp

theorem not_calls_start (tokens : List Token) : ¬ start.Calls tokens := fun ⟨_, hf, _⟩ => nomatch hf

/-- Tokens that are read as a tree from the start have its postorder as their postfix order, and
every group among them is closed. -/
theorem ReadsAs.toPostfix {unknown : UnknownNames} {strength : Nat} {tokens : List Token}
    {e : Expression} (h : start.ReadsAs unknown strength tokens e) :
    toPostfix unknown tokens = .ok e.postorder ∧
      tokens.count .closing = tokens.count .opening := by
  obtain ⟨written, waiting, hrun, he, -⟩ := h
  constructor
  · refine toPostfix_eq_ok_iff.mpr ⟨_, hrun, ?_⟩
    rw [finish, List.filterMap_append, filterMap_operators, ← he]
    simp [start]
  · have hd := openGroups_add_count hrun
    have hn : openGroups ⟨start.output ++ written, waiting.map .operator ++ start.pending⟩ = 0 := by
      simp [openGroups, start, List.count_eq_zero]
    omega

end Conversion

namespace Expression.Spelling

open Conversion

variable {strength : Nat} {e : Expression} {tokens : List Token}

theorem ne_nil (h : e.Spelling strength tokens) : tokens ≠ [] := by
  cases h <;> simp

/-- **A spelling is read as its tree** in every state that leaves it its first operand. -/
theorem readsAs (h : e.Spelling strength tokens) (unknown : UnknownNames) {s : Conversion}
    (hs : s.Leaves strength) (hc : ¬ s.Calls tokens) : s.ReadsAs unknown strength tokens e := by
  induction h generalizing s with
  | number strength text => exact ⟨[.number text], [], rfl, by simp [postorder], by simp⟩
  | constant strength c =>
    have ht : step unknown s (.name c.name) = .ok (s.emit (.name c.name)) :=
      step_eq_ok_iff.mpr (.constant c)
    refine ⟨[.name c.name], [], ?_, by simp [postorder], by simp⟩
    rw [List.foldlM_cons, ht]
    rfl
  | @call strength f argument tokens _ ih =>
    have ht : step unknown s (.name f.name) = .ok (s.push (.function f)) :=
      step_eq_ok_iff.mpr (.function f)
    refine ⟨argument.postorder ++ [.name f.name], [], ?_, by simp [postorder], by simp⟩
    obtain ⟨ho, hb⟩ := (ih (leaves_start 0) (not_calls_start tokens)).toPostfix
    rw [List.cons_append, List.foldlM_cons, ht]
    change (Token.parenthesized tokens).foldlM (step unknown) _ = _
    rw [foldlM_parenthesized ho hb, ← List.append_assoc]
    rfl
  | @binary strength o left right before after hle hb _ ihl ihr =>
    have hl : ¬ s.Calls before := by
      rintro ⟨f, hf, ho⟩
      exact hc ⟨f, hf, List.head?_append_of_ne_nil before hb.ne_nil ▸ ho⟩
    have hr : ¬ Calls ⟨s.output ++ left.postorder, .operator o :: s.pending⟩ after := by
      rintro ⟨f, hf, -⟩
      cases hf
    have hls := hs.mono (hle.trans o.precedence_le_leftStrength)
    exact .binary (hs.mono hle) hle (ihl hls hl) (ihr (leaves_operator _ o s.pending) hr)
  | @parenthesized strength e tokens _ ih =>
    have hn : ∀ f, s.pending.head? ≠ some (.function f) := fun f hf => hc ⟨f, hf, rfl⟩
    obtain ⟨ho, hb⟩ := (ih (leaves_start 0) (not_calls_start tokens)).toPostfix
    refine ⟨e.postorder, [], ?_, by simp, by simp⟩
    change (Token.parenthesized tokens).foldlM (step unknown) s = _
    rw [foldlM_parenthesized ho hb, attach_of_not_function _ hn]
    rfl

/-- **The postfix order of a spelling** is the postorder of its tree. -/
theorem toPostfix_eq (h : e.Spelling strength tokens) (unknown : UnknownNames) :
    toPostfix unknown tokens = .ok e.postorder :=
  (h.readsAs unknown (leaves_start strength) (not_calls_start tokens)).toPostfix.1

/-- Every group of a spelling is closed. -/
theorem count_eq (h : e.Spelling strength tokens) :
    tokens.count .closing = tokens.count .opening :=
  (h.readsAs .reject (leaves_start strength) (not_calls_start tokens)).toPostfix.2

/-! ## Tokens of a spelling -/

theorem lexical_group {tokens : List Token} (h : ∀ t ∈ tokens, t.Lexical) :
    ∀ t ∈ Token.opening :: tokens ++ [Token.closing], t.Lexical := by
  intro t ht
  rw [List.cons_append, List.mem_cons, List.mem_append, List.mem_singleton] at ht
  rcases ht with rfl | ht | rfl
  · trivial
  · exact h t ht
  · trivial

/-- Every token of a spelling can be written. -/
theorem lexical (h : e.Spelling strength tokens)
    (hn : ∀ text ∈ e.numbers, Decimal.IsLiteral text) : ∀ t ∈ tokens, t.Lexical := by
  induction h with
  | number strength text =>
    have ht := Token.lexical_number (hn text List.mem_cons_self)
    simpa using ht
  | constant strength c => simpa using Token.lexical_constant c
  | call strength f _ ih =>
    exact List.forall_mem_cons.mpr ⟨Token.lexical_function f, lexical_group (ih hn)⟩
  | binary o _ _ _ ihl ihr =>
    obtain ⟨hl, hr⟩ := List.forall_mem_append.mp hn
    refine List.forall_mem_append.mpr ⟨ihl hl, ?_⟩
    exact List.forall_mem_cons.mpr ⟨trivial, ihr hr⟩
  | parenthesized _ _ ih => exact lexical_group (ih hn)

theorem separate_group {tokens : List Token} (h : Token.Separate tokens) :
    Token.Separate (.opening :: tokens ++ [.closing]) := by
  unfold Token.Separate at *
  rw [List.cons_append, List.isChain_cons, List.isChain_append]
  refine ⟨fun _ _ => rfl, h, .singleton _, fun a _ b hb => ?_⟩
  cases hb
  exact a.joins_closing

/-- No two tokens of a spelling would be read as one. -/
theorem separate (h : e.Spelling strength tokens) : Token.Separate tokens := by
  induction h with
  | number | constant => exact .singleton _
  | call _ f _ ih => exact (separate_group ih).cons fun _ hb => by cases hb; rfl
  | binary o _ _ _ ihl ihr =>
    unfold Token.Separate at *
    rw [List.isChain_append, List.isChain_cons]
    refine ⟨ihl, ⟨fun _ _ => rfl, ihr⟩, fun a _ b hb => ?_⟩
    cases hb
    exact a.joins_operator o
  | parenthesized _ _ ih => exact separate_group ih

end Expression.Spelling

end Calculator
