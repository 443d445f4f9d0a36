import Mathlib
import Calculator.Postfix.Evaluation
import Calculator.Proofs.Arithmetic.Finite

/-!
# Where infinities come from

All operands stay finite unless a literal is too large or one of the four basic operations takes
finite operands to infinity. No other operation makes an infinity or a `nan` out of finite numbers.

* `Operation.Overflows`: an operation that takes finite operands to infinity.
* `Pushes`, `evalStep_eq_ok_iff`: the ways in which a token puts an operand on the stack.
* **`forall_isFinite_of_evalStep`**: one step on finite operands.
* **`evalPostfix_finite`**: a whole evaluation.
-/

namespace Calculator

open Binary64

/-- A basic operation that takes finite operands to infinity. -/
def Operation.Overflows : Operation → Prop
  | .binary o a b x =>
    o.IsBasic ∧ isFinite a = true ∧ isFinite b = true ∧ isInfinite x = true
  | .call _ _ _ => False

theorem Constant.isFinite_value (c : Constant) : isFinite c.value = true := by
  cases c <;> decide +kernel

/-! ## One step -/

/-- The ways in which a token puts an operand on the stack. -/
inductive Pushes : List Float → Token → List Float → Prop where
  | number {rest : List Float} {text : String} {x : Float} :
      Decimal.readFloat? text = some x → Pushes rest (.number text) (x :: rest)
  | constant {rest : List Float} {c : Constant} : Pushes rest (.name c.name) (c.value :: rest)
  | operation {rest : List Float} {o : Operator} {a b x : Float} :
      o.apply a b = .ok x → Pushes (b :: a :: rest) (.operator o) (x :: rest)
  | call {rest : List Float} {f : Func} {a x : Float} :
      f.call a [] = .ok x → Pushes (a :: rest) (.name f.name) (x :: rest)

theorem pushes_of_evalStep {operands operands' : List Float} {t : Token}
    (h : evalStep operands t = .ok operands') : Pushes operands t operands' := by
  cases t with
  | number text =>
    cases hx : Decimal.readFloat? text with
    | none =>
      rw [evalStep_invalidNumber operands hx] at h
      cases h
    | some x =>
      rw [evalStep_number operands hx] at h
      cases h
      exact .number hx
  | operator o =>
    match operands with
    | [] | [_] => cases h
    | b :: a :: rest =>
      rw [evalStep_operator] at h
      cases hx : o.apply a b with
      | error e =>
        rw [hx] at h
        cases h
      | ok x =>
        rw [hx] at h
        cases h
        exact .operation hx
  | name name =>
    rcases Meaning.name_cases name with ⟨c, rfl⟩ | ⟨f, rfl⟩ | hn
    · rw [evalStep_constant] at h
      cases h
      exact .constant
    · cases operands with
      | nil =>
        rw [evalStep_function_nil] at h
        cases h
      | cons a rest =>
        rw [evalStep_function] at h
        cases hx : f.call a [] with
        | error e =>
          rw [hx] at h
          cases h
        | ok x =>
          rw [hx] at h
          cases h
          exact .call hx
    · rw [evalStep_unknownName operands hn] at h
      cases h
  | opening => cases h
  | closing => cases h

theorem evalStep_of_pushes {operands operands' : List Float} {t : Token}
    (h : Pushes operands t operands') : evalStep operands t = .ok operands' := by
  cases h with
  | number hx => exact evalStep_number _ hx
  | constant => exact evalStep_constant _ _
  | operation hx =>
    rw [evalStep_operator, hx]
    rfl
  | call hx =>
    rw [evalStep_function, hx]
    rfl

/-- **A token puts an operand on the stack exactly in the ways listed.** -/
theorem evalStep_eq_ok_iff {operands operands' : List Float} {t : Token} :
    evalStep operands t = .ok operands' ↔ Pushes operands t operands' :=
  ⟨pushes_of_evalStep, evalStep_of_pushes⟩

/-- **One step leaves finite operands finite**, unless it reads a literal that is not finite or
overflows. -/
theorem forall_isFinite_of_evalStep {operands operands' : List Float} {t : Token}
    (h : evalStep operands t = .ok operands') (hfin : ∀ x ∈ operands, isFinite x = true)
    (hliteral : ∀ text x, t = .number text → Decimal.readFloat? text = some x → isFinite x = true)
    (hoverflow : ∀ op, Operation.ofStep? (operands, t, operands') = some op → ¬ op.Overflows) :
    ∀ x ∈ operands', isFinite x = true := by
  cases evalStep_eq_ok_iff.mp h with
  | number hx => exact List.forall_mem_cons.mpr ⟨hliteral _ _ rfl hx, hfin⟩
  | @constant _ c => exact List.forall_mem_cons.mpr ⟨c.isFinite_value, hfin⟩
  | @operation rest o a b x hx =>
    simp only [List.forall_mem_cons] at hfin ⊢
    obtain ⟨hb, ha, hrest⟩ := hfin
    refine ⟨?_, hrest⟩
    by_cases ho : o.IsBasic
    · rcases Operator.isFinite_or_isInfinite_of_apply ho ha hb hx with hfinite | hinf
      · exact hfinite
      · exact absurd ⟨ho, ha, hb, hinf⟩ (hoverflow _ rfl)
    · exact Operator.isFinite_of_apply ho ha hb hx
  | @call rest f a x hx =>
    simp only [List.forall_mem_cons] at hfin ⊢
    refine ⟨?_, hfin.2⟩
    rcases f.call_of_isFinite (List.forall_mem_singleton.mpr hfin.1) with he | ⟨y, hy, he⟩
    · cases he.symm.trans hx
    · cases he.symm.trans hx
      exact hy

/-! ## Whole evaluations -/

section

variable {tokens : List Token}
  (hliteral : ∀ text x, .number text ∈ tokens → Decimal.readFloat? text = some x →
    isFinite x = true)
  (hoverflow : ∀ op ∈ operations tokens, ¬ op.Overflows)

include hliteral hoverflow

/-- **All operands of an evaluation are finite**, unless it reads a literal that is not finite or
overflows. -/
theorem forall_isFinite_of_trail :
    (∀ s ∈ trail evalStep [] tokens, ∀ x ∈ s.2.2, isFinite x = true) ∧
      ∀ operands, tokens.foldlM evalStep [] = .ok operands → ∀ x ∈ operands, isFinite x = true := by
  apply trail_invariant (P := fun operands => ∀ x ∈ operands, isFinite x = true)
  · exact fun x hx => (nomatch hx)
  · rintro ⟨operands, t, operands'⟩ hs hfin
    obtain ⟨hstep, ht⟩ := step_of_mem_trail hs
    apply forall_isFinite_of_evalStep hstep hfin
    · rintro text x rfl
      exact hliteral text x ht
    · exact fun op hop => hoverflow op (List.mem_filterMap.mpr ⟨_, hs, hop⟩)

/-- The value of an evaluation is the operand that is left. -/
theorem isFinite_of_evalPostfix {x : Float} (h : evalPostfix tokens = .ok x) :
    isFinite x = true := by
  rw [evalPostfix] at h
  cases hrun : tokens.foldlM evalStep [] with
  | error e =>
    rw [hrun] at h
    cases h
  | ok operands =>
    rw [hrun] at h
    obtain rfl := singleValue_eq_ok_iff.mp h
    exact (forall_isFinite_of_trail hliteral hoverflow).2 [x] hrun x List.mem_cons_self

end

/-- **Modulo, powers and functions introduce neither a `nan` nor an infinity.** Where an evaluation
ends in one, a literal is not finite or a basic operation took finite operands to infinity. While
all literals and all values of basic operations are finite, so are all operands, since every other
operation fails or has a finite value. -/
theorem evalPostfix_finite (tokens : List Token) :
    (∀ x, evalPostfix tokens = .ok x → isFinite x = false →
      (∃ text y, .number text ∈ tokens ∧ Decimal.readFloat? text = some y ∧ isFinite y = false) ∨
      ∃ op ∈ operations tokens, op.Overflows) ∧
    ((∀ text y, .number text ∈ tokens → Decimal.readFloat? text = some y → isFinite y = true) →
      (∀ o a b y, .binary o a b y ∈ operations tokens → o.IsBasic → isFinite y = true) →
        ∀ s ∈ trail evalStep [] tokens, ∀ y ∈ s.2.2, isFinite y = true) ∧
    (∀ a b, isFinite a = true → isFinite b = true →
      (Operator.remainder a b = .error .moduloByZero ∨
        ∃ y, isFinite y = true ∧ Operator.remainder a b = .ok y) ∧
      (Operator.raise a b = .error .divisionByZero ∨
        Operator.raise a b = .error (.undefinedPower a b) ∨
        Operator.raise a b = .error (.powerOverflow a b) ∨
        ∃ y, isFinite y = true ∧ Operator.raise a b = .ok y)) ∧
    ∀ (f : Func) a others, (∀ x ∈ a :: others, isFinite x = true) →
      f.call a others = .error (.outsideDomain f (a :: others)) ∨
        ∃ y, isFinite y = true ∧ f.call a others = .ok y := by
  refine ⟨?_, fun hliteral hbasic => ?_, fun a b ha hb => ⟨?_, ?_⟩, fun f a others h => ?_⟩
  · intro x h hx
    by_contra! hnone
    obtain ⟨hliteral, hoverflow⟩ := hnone
    have hfin := isFinite_of_evalPostfix
      (fun text y ht hy => by simpa using hliteral text y ht hy) hoverflow h
    rw [hx] at hfin
    cases hfin
  · refine (forall_isFinite_of_trail hliteral fun op hop hover => ?_).1
    match op with
    | .binary o a b y =>
      obtain ⟨ho, -, -, hinf⟩ := hover
      have hy : rank y < infinityRank := of_decide_eq_true (hbasic o a b y hop ho)
      exact absurd (beq_iff_eq.mp hinf) hy.ne
  · exact Operator.remainder_of_isFinite ha hb
  · exact Operator.raise_of_isFinite ha hb
  · exact f.call_of_isFinite h

/-- A product of finite literals may be infinite, and nothing but the product makes it so. -/
theorem evalPostfix_finite_product :
    evalPostfix [.number "1e308", .number "10", .operator .multiply] = .ok (1 / 0) ∧
      isFinite (1 / 0) = false ∧
      ((∃ text y, Token.number text ∈ [.number "1e308", .number "10", .operator .multiply] ∧
        Decimal.readFloat? text = some y ∧ isFinite y = false) ∨
      ∃ op ∈ operations [.number "1e308", .number "10", .operator .multiply], op.Overflows) := by
  have hbits : (evalPostfix [.number "1e308", .number "10", .operator .multiply]).toOption.map
      Float.toBits = some (1 / 0 : Float).toBits := by decide +kernel
  have hinf : isFinite (1 / 0) = false := by decide +kernel
  have hvalue := eq_ok_of_toBits_eq hbits
  exact ⟨hvalue, hinf, (evalPostfix_finite _).1 _ hvalue hinf⟩

end Calculator
