import Mathlib
import Calculator.Expression
import Calculator.Proofs.Postfix.Steps

/-!
# The infix grammar

The grammar `E → E o E | f E | ( E ) | number | constant` is read from left to right: at each place
either an operand has just ended, or one is awaited.

* `Infix`: the derivable token lists. `OpenInfix`, `Awaits`: their beginnings, at each of the two
  kinds of places; `infix_of_openInfix` closes the open groups of a beginning.
* `OperandsApart`, **`Infix.operandsApart`**: no operand of a derivable list directly follows
  another.
* `Alternates`, **`alternates_of_operandsApart`**: conversely, operands that stand apart and are one
  more than the operators start wherever one is awaited.
* `Beginning`, `Conversion.Step.beginning`, **`openInfix_of_foldlM`**: such a list, once it can be
  converted, is a beginning of a derivable list.
-/

namespace Calculator

/-- The token lists derivable from `E → E o E | f E | ( E ) | number | constant`. -/
inductive Infix : List Token → Prop where
  | number (text : String) : Infix [.number text]
  | constant (c : Constant) : Infix [.name c.name]
  | call (f : Func) {tokens : List Token} : Infix tokens → Infix (.name f.name :: tokens)
  | group {tokens : List Token} : Infix tokens → Infix (.opening :: tokens ++ [.closing])
  | binary (o : Operator) {left right : List Token} :
      Infix left → Infix right → Infix (left ++ .operator o :: right)

/-! ## Beginnings of derivable lists -/

/-- `OpenInfix d tokens`: the tokens are derivable but for their last `d` groups, which are open
and end in an operand. -/
def OpenInfix : Nat → List Token → Prop
  | 0, tokens => Infix tokens
  | d + 1, tokens => ∃ before inner, tokens = before ++ .opening :: inner ∧ Infix inner ∧
      ∀ operand, Infix operand → OpenInfix d (before ++ operand)

/-- With any operand behind them the tokens are `OpenInfix`. -/
def Awaits (d : Nat) (tokens : List Token) : Prop :=
  ∀ operand, Infix operand → OpenInfix d (tokens ++ operand)

theorem awaits_nil : Awaits 0 [] := fun _ h => h

theorem OpenInfix.operator {d : Nat} {tokens : List Token} (h : OpenInfix d tokens)
    (o : Operator) : Awaits d (tokens ++ [.operator o]) := by
  intro operand hop
  rw [List.append_assoc, List.singleton_append]
  cases d with
  | zero => exact .binary o h hop
  | succ d =>
    obtain ⟨before, inner, rfl, hi, hb⟩ := h
    exact ⟨before, inner ++ .operator o :: operand, by simp, .binary o hi hop, hb⟩

theorem OpenInfix.closing {d : Nat} {tokens : List Token} (h : OpenInfix (d + 1) tokens) :
    OpenInfix d (tokens ++ [.closing]) := by
  obtain ⟨before, inner, rfl, hi, hb⟩ := h
  rw [List.append_assoc]
  exact hb _ (.group hi)

theorem Awaits.function {d : Nat} {tokens : List Token} (h : Awaits d tokens) (f : Func) :
    Awaits d (tokens ++ [.name f.name]) := by
  intro operand hop
  rw [List.append_assoc]
  exact h _ (.call f hop)

theorem Awaits.opening {d : Nat} {tokens : List Token} (h : Awaits d tokens) :
    Awaits (d + 1) (tokens ++ [.opening]) := by
  intro operand hop
  exact ⟨tokens, operand, by simp, hop, h⟩

theorem infix_of_openInfix {d : Nat} {tokens : List Token} (h : OpenInfix d tokens) :
    Infix (tokens ++ List.replicate d .closing) := by
  induction d generalizing tokens with
  | zero =>
    rw [List.replicate_zero, List.append_nil]
    exact h
  | succ d ih =>
    rw [List.replicate_succ, List.append_cons]
    exact ih h.closing

/-! ## Neighbours -/

/-- Whether an operand ends with this token. -/
def Token.endsOperand : Token → Bool
  | .number _ | .closing => true
  | .name text => (Constant.ofName? text).isSome
  | _ => false

/-- Whether an operand starts with this token. -/
def Token.startsOperand : Token → Bool
  | .number _ | .name _ | .opening => true
  | _ => false

/-- No operand starts directly behind another. -/
def OperandsApart (tokens : List Token) : Prop :=
  tokens.IsChain fun a b => ¬ (a.endsOperand = true ∧ b.startsOperand = true)

instance (tokens : List Token) : Decidable (OperandsApart tokens) := by
  unfold OperandsApart
  infer_instance

theorem endsOperand_constant (c : Constant) : (Token.name c.name).endsOperand = true := by
  simp [Token.endsOperand]

theorem endsOperand_function (f : Func) : (Token.name f.name).endsOperand = false := by
  simp [Token.endsOperand]

/-- **In a derivable list no operand directly follows another.** -/
theorem Infix.operandsApart {tokens : List Token} (h : Infix tokens) : OperandsApart tokens := by
  unfold OperandsApart
  induction h with
  | number text => exact .singleton _
  | constant c => exact .singleton _
  | call f _ ih => exact ih.cons fun _ _ hab => by simp [endsOperand_function] at hab
  | @group tokens _ ih =>
    rw [List.cons_append, List.isChain_cons, List.isChain_append]
    refine ⟨fun _ _ hab => Bool.false_ne_true hab.1, ih, .singleton _, fun _ _ b hb hab => ?_⟩
    cases hb
    exact Bool.false_ne_true hab.2
  | binary o _ _ ihl ihr =>
    rw [List.isChain_append]
    refine ⟨ihl, ihr.cons fun _ _ hab => Bool.false_ne_true hab.1, fun _ _ b hb hab => ?_⟩
    cases hb
    exact Bool.false_ne_true hab.2

/-! ## Operands and operators -/

/-- Whether the token is an operand by itself. -/
def Token.isOperand : Token → Bool
  | .number _ => true
  | .name text => (Constant.ofName? text).isSome
  | _ => false

/-- Whether the token is an operator. -/
def Token.isOperator : Token → Bool
  | .operator _ => true
  | _ => false

/-- How many numbers and constants there are. -/
def countOperands (tokens : List Token) : Nat := tokens.countP Token.isOperand

/-- How many operators there are. -/
def countOperators (tokens : List Token) : Nat := tokens.countP Token.isOperator

theorem isOperand_constant (c : Constant) : (Token.name c.name).isOperand = true := by
  simp [Token.isOperand]

theorem isOperand_function (f : Func) : (Token.name f.name).isOperand = false := by
  simp [Token.isOperand]

theorem countOperands_postorder (e : Expression) :
    countOperands e.postorder = countOperators e.postorder + 1 := by
  unfold countOperands countOperators
  induction e with
  | number text => rfl
  | constant c => simp [Expression.postorder, isOperand_constant, Token.isOperator]
  | call f argument ih =>
    simp [Expression.postorder, isOperand_function, Token.isOperator, ih]
  | binary o left right ihl ihr =>
    simp only [Expression.postorder, List.countP_append, ihl, ihr]
    simp [Token.isOperand, Token.isOperator]
    omega

/-- What a conversion puts out has the operands and the operators of its tokens. -/
theorem count_finish {unknown : UnknownNames} {s : Conversion} {tokens : List Token}
    (h : readInfix unknown tokens = .ok s) :
    countOperands s.finish = countOperands tokens ∧
      countOperators s.finish = countOperators tokens := by
  have hp := Conversion.finish_perm h
  unfold countOperands countOperators
  rw [hp.countP_eq, hp.countP_eq, List.countP_filter, List.countP_filter]
  constructor
  · refine List.countP_congr fun t _ => ?_
    cases t with
    | name name =>
      obtain ⟨c, rfl⟩ | ⟨f, rfl⟩ | hn := Meaning.name_cases name
      · simp [Conversion.Keeps]
      · simp [isOperand_function]
      · simp [Token.isOperand, (Meaning.ofName?_eq_none_iff.mp hn).1]
    | _ => simp [Conversion.Keeps, Token.isOperand]
  · refine List.countP_congr fun t _ => ?_
    cases t <;> simp [Conversion.Keeps, Token.isOperator]

/-! ## Where operands are awaited -/

/-- No operand starts with the first token. -/
def StartsNoOperand (tokens : List Token) : Prop := ∀ t ∈ tokens.head?, t.startsOperand = false

/-- Operands start in the tokens exactly where they are awaited, and one ends at the end. An operand
is awaited in front of the tokens unless one has just `ended` there. -/
def Alternates : Bool → List Token → Prop
  | ended, [] => ended = true
  | ended, t :: rest => t.startsOperand = !ended ∧ Alternates t.endsOperand rest

theorem operandsApart_cons {t : Token} {rest : List Token} : OperandsApart (t :: rest) ↔
    (t.endsOperand = true → StartsNoOperand rest) ∧ OperandsApart rest := by
  unfold OperandsApart StartsNoOperand
  rw [List.isChain_cons]
  refine and_congr_left fun _ => ⟨fun h ht u hu => ?_, fun h u hu hab => ?_⟩
  · simpa [ht] using h u hu
  · exact Bool.false_ne_true ((h hab.1 u hu).symm.trans hab.2)

theorem countOperands_cons (t : Token) (rest : List Token) :
    countOperands (t :: rest) = countOperands rest + t.isOperand.toNat := by
  rw [countOperands, List.countP_cons]
  cases t.isOperand <;> rfl

theorem countOperators_cons (t : Token) (rest : List Token) :
    countOperators (t :: rest) = countOperators rest + t.isOperator.toNat := by
  rw [countOperators, List.countP_cons]
  cases t.isOperator <;> rfl

/-- What a token adds to the operands and the operators, by what it is in front of and behind. -/
theorem Token.isOperand_add (t : Token) :
    t.isOperand.toNat + (!t.startsOperand).toNat = t.isOperator.toNat + t.endsOperand.toNat := by
  cases t <;> simp [isOperand, startsOperand, isOperator, endsOperand]

/-- **Operands that stand apart have an operator between any two.** -/
theorem countOperands_le {tokens : List Token} (h : OperandsApart tokens) {ended : Bool}
    (hs : ended = true → StartsNoOperand tokens) :
    countOperands tokens + ended.toNat ≤ countOperators tokens + 1 := by
  induction tokens generalizing ended with
  | nil =>
    have he := Bool.toNat_le ended
    simpa [countOperands, countOperators] using he
  | cons t rest ih =>
    obtain ⟨hends, hrest⟩ := operandsApart_cons.mp h
    have hr := ih hrest hends
    have ht := t.isOperand_add
    have hle : ended.toNat ≤ (!t.startsOperand).toNat := by
      cases ended with
      | false => exact Nat.zero_le _
      | true => rw [hs rfl t rfl]; rfl
    rw [countOperands_cons, countOperators_cons]
    omega

/-- **Operands that stand apart and outnumber the operators** start wherever they are awaited. -/
theorem alternates_of_operandsApart {tokens : List Token} (h : OperandsApart tokens) {ended : Bool}
    (hs : ended = true → StartsNoOperand tokens)
    (hc : countOperands tokens + ended.toNat = countOperators tokens + 1) :
    Alternates ended tokens := by
  induction tokens generalizing ended with
  | nil =>
    cases ended with
    | true => rfl
    | false => cases hc
  | cons t rest ih =>
    obtain ⟨hends, hrest⟩ := operandsApart_cons.mp h
    have hr := countOperands_le hrest hends
    have ht := t.isOperand_add
    rw [countOperands_cons, countOperators_cons] at hc
    have hstart : t.startsOperand = !ended := by
      cases ended with
      | true => exact hs rfl t rfl
      | false =>
        -- Where an operand is awaited, another token costs one operand more than the rest can hold.
        by_contra hn
        have hn' : t.startsOperand = false := by simpa using hn
        rw [hn', Bool.not_false, Bool.toNat_true] at ht
        rw [Bool.toNat_false] at hc
        omega
    refine ⟨hstart, ih hrest hends ?_⟩
    rw [hstart, Bool.not_not] at ht
    omega

/-! ## Beginnings read by a conversion -/

/-- The tokens are a beginning of a derivable list with `d` open groups. -/
def Beginning (d : Nat) : Bool → List Token → Prop
  | true => OpenInfix d
  | false => Awaits d

/-- A token that starts an operand where one is awaited, or else ends one, goes on a beginning. -/
theorem Conversion.Step.beginning {s s' : Conversion} {t : Token}
    (hs : Conversion.Step .reject s t s') {ended : Bool} {before : List Token}
    (hb : Beginning s.openGroups ended before) (ht : t.startsOperand = !ended) :
    Beginning s'.openGroups t.endsOperand (before ++ [t]) := by
  have hg := hs.openGroups_add_count
  cases hs with
  | number text =>
    obtain rfl : ended = false := by simpa [Token.startsOperand] using ht
    exact hb _ (.number text)
  | constant c =>
    obtain rfl : ended = false := by simpa [Token.startsOperand] using ht
    rw [endsOperand_constant]
    exact hb _ (.constant c)
  | function f =>
    obtain rfl : ended = false := by simpa [Token.startsOperand] using ht
    have hd : (s.push (.function f)).openGroups = s.openGroups := by simpa using hg
    rw [endsOperand_function, hd]
    exact Awaits.function hb f
  | dropped hn hu => cases hu
  | operator o =>
    obtain rfl : ended = true := by simpa [Token.startsOperand] using ht
    have hd : ((s.release o).push (.operator o)).openGroups = s.openGroups := by simpa using hg
    rw [hd]
    exact OpenInfix.operator hb o
  | opening =>
    obtain rfl : ended = false := by simpa [Token.startsOperand] using ht
    have hd : (s.push .group).openGroups = s.openGroups + 1 := by simpa using hg
    rw [hd]
    exact Awaits.opening hb
  | @closing output inner rest hi =>
    obtain rfl : ended = true := by simpa [Token.startsOperand] using ht
    have hd : (Conversion.attach
        ⟨output ++ inner.filterMap Pending.token?, rest⟩).openGroups + 1 =
          (⟨output, inner ++ .group :: rest⟩ : Conversion).openGroups := by simpa using hg
    rw [← hd] at hb
    exact OpenInfix.closing hb

/-- **Tokens whose operands start where they are awaited** make a beginning that ends in one. -/
theorem openInfix_of_foldlM {s s' : Conversion} {tokens : List Token}
    (hrun : tokens.foldlM (Conversion.step .reject) s = .ok s') {ended : Bool}
    (h : Alternates ended tokens) {before : List Token}
    (hb : Beginning s.openGroups ended before) : OpenInfix s'.openGroups (before ++ tokens) := by
  induction tokens generalizing s ended before with
  | nil =>
    cases hrun
    obtain rfl : ended = true := h
    rw [List.append_nil]
    exact hb
  | cons t rest ih =>
    obtain ⟨s₁, hs, hrun⟩ := foldlM_cons_eq_ok_iff.mp hrun
    rw [List.append_cons]
    exact ih hrun h.2 ((Conversion.step_eq_ok_iff.mp hs).beginning hb h.1)

end Calculator
