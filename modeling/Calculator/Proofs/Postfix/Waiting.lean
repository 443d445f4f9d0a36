import Mathlib
import Calculator.Proofs.Postfix.Steps
import Calculator.Token.Scanner

/-!
# What waits during a conversion

Operators, functions and open groups wait on top of each other in the order in which they were read.
An operator comes to wait only after those below it that take the operand before it are gone, so
from one operator to the next above it the precedence grows. The one exception is `^`, which
associates to the right and waits on top of another `^`.

* `Pending.written`, `Token.waits`: what waits as the token that was read, and which tokens wait.
* `Operator.RestsOn`, **`Operator.restsOn_iff`**: the operators that can wait on top of each other
  are those of which the lower one does not take the operand between them.
* **`Conversion.Step.pending_cases`**: a token takes off some of what waits, and then waits on top
  of the rest or does not wait; `Conversion.Step.isChain_pending` and
  `Conversion.Step.sublist_pending` follow.
* **`Conversion.pending_increasing`**: what waits after any number of tokens, and what is left of it
  at any time while some of it is taken off.
-/

namespace Calculator

/-! ## Waiting tokens -/

/-- The token that was read. -/
def Pending.written : Pending → Token
  | operator o => .operator o
  | function f => .name f.name
  | group => .opening

/-- Whether the token has to wait when it is read: operators, names of functions and `(` have to. -/
def Token.waits : Token → Bool
  | operator _ | opening => true
  | name text => (Func.ofName? text).isSome
  | number _ | closing => false

@[simp] theorem Pending.waits_written (p : Pending) : p.written.waits = true := by
  cases p with
  | operator o => rfl
  | function f => simp [written, Token.waits]
  | group => rfl

/-! ## Operators on top of operators -/

namespace Operator

/-- Whether `upper` can wait above `lower` with no group or function between them: it binds more
tightly, or both are `^`. -/
def RestsOn (upper lower : Operator) : Prop :=
  lower.precedence < upper.precedence ∨ upper = power ∧ lower = power

instance (upper lower : Operator) : Decidable (upper.RestsOn lower) := by
  unfold RestsOn
  infer_instance

/-- **An operator rests on those that leave it the operand between them.** -/
theorem restsOn_iff {upper lower : Operator} :
    upper.RestsOn lower ↔ lower.bindsBefore upper = false := by
  cases upper <;> cases lower <;> decide

theorem RestsOn.trans {upper middle lower : Operator} (h : upper.RestsOn middle)
    (h' : middle.RestsOn lower) : upper.RestsOn lower := by
  obtain h | ⟨rfl, rfl⟩ := h
  · obtain h' | ⟨rfl, rfl⟩ := h'
    · exact .inl (h'.trans h)
    · exact .inl h
  · exact h'

instance : IsTrans Operator RestsOn := ⟨fun _ _ _ => RestsOn.trans⟩

end Operator

/-- Whether `upper` can wait directly above `lower`. Only operators depend on what is below. -/
def Pending.RestsOn : Pending → Pending → Prop
  | operator upper, operator lower => upper.RestsOn lower
  | _, _ => True

theorem Pending.restsOn_of_not_bindsBefore {next : Operator} {p : Pending}
    (h : p.bindsBefore next = false) : (operator next).RestsOn p := by
  cases p with
  | operator o => exact Operator.restsOn_iff.mpr h
  | function f => trivial
  | group => trivial

namespace Conversion

variable {unknown : UnknownNames} {s s' : Conversion}

/-! ## One token -/

theorem attach_pending_suffix (s : Conversion) : s.attach.pending <:+ s.pending := by
  obtain ⟨output, pending⟩ := s
  match pending with
  | .function f :: rest => exact List.suffix_cons _ rest
  | [] | .operator _ :: _ | .group :: _ => exact List.suffix_rfl

/-- What is directly below an operator when it comes to wait. -/
theorem restsOn_release (s : Conversion) (next : Operator) :
    ∀ p ∈ (s.release next).pending.head?, (Pending.operator next).RestsOn p := by
  intro p hp
  have hn := List.head?_dropWhile_not (·.bindsBefore next) s.pending
  rw [Option.mem_def, release] at hp
  rw [hp] at hn
  exact Pending.restsOn_of_not_bindsBefore hn

/-- **What a token does to what waits.** It takes some of it off, and then waits itself, on top of
something that it can rest on, or does not wait. -/
theorem Step.pending_cases {t : Token} (h : Step unknown s t s') :
    s'.pending <:+ s.pending ∨ ∃ p below, s'.pending = p :: below ∧ below <:+ s.pending ∧
      p.written = t ∧ ∀ q ∈ below.head?, p.RestsOn q := by
  cases h with
  | number text | constant c | dropped hn hu => exact .inl List.suffix_rfl
  | function f =>
    exact .inr ⟨.function f, s.pending, rfl, List.suffix_rfl, rfl, fun _ _ => trivial⟩
  | operator o =>
    -- The first operator that does not take the operand before `o` ends the search and stays.
    exact .inr ⟨.operator o, (s.release o).pending, rfl, List.dropWhile_suffix _, rfl,
      restsOn_release s o⟩
  | opening => exact .inr ⟨.group, s.pending, rfl, List.suffix_rfl, rfl, fun _ _ => trivial⟩
  | closing output rest hi =>
    -- Below the group there may be its function; what is below that was there before.
    have hrest : rest <:+ Pending.group :: rest := List.suffix_cons _ rest
    exact .inl ((attach_pending_suffix _).trans (hrest.trans (List.suffix_append _ _)))

/-- **Operators stay on top of operators that they can rest on.** -/
theorem Step.isChain_pending {t : Token} (h : Step unknown s t s')
    (ho : s.pending.IsChain Pending.RestsOn) : s'.pending.IsChain Pending.RestsOn := by
  obtain hs | ⟨p, below, hp, hs, -, hr⟩ := h.pending_cases
  · exact ho.suffix hs
  · rw [hp, List.isChain_cons]
    exact ⟨hr, ho.suffix hs⟩

/-- **What waits was read, in this order**, the latest on top. -/
theorem Step.sublist_pending {t : Token} (h : Step unknown s t s') :
    (s'.pending.reverse.map Pending.written).Sublist
      (s.pending.reverse.map Pending.written ++ [t].filter Token.waits) := by
  obtain hs | ⟨p, below, hp, hs, rfl, -⟩ := h.pending_cases
  · exact (hs.sublist.reverse.map _).trans (List.sublist_append_left _ _)
  · have hw : [p.written].filter Token.waits = [p.written] := by simp
    rw [hp, hw, List.reverse_cons, List.map_append]
    exact (hs.sublist.reverse.map _).append_right _

/-! ## Any number of tokens -/

theorem isChain_pending {read : List Token} (h : readInfix unknown read = .ok s) :
    s.pending.IsChain Pending.RestsOn :=
  readInfix_invariant (motive := fun _ s => s.pending.IsChain Pending.RestsOn) h .nil
    fun hb hs => hs.isChain_pending hb

theorem sublist_pending {read : List Token} (h : readInfix unknown read = .ok s) :
    (s.pending.reverse.map Pending.written).Sublist (read.filter Token.waits) := by
  refine readInfix_invariant (motive := fun before s =>
    (s.pending.reverse.map Pending.written).Sublist (before.filter Token.waits)) h .slnil ?_
  intro before s t s' hb hs
  rw [List.filter_append]
  exact hs.sublist_pending.trans (hb.append_right _)

/-- In a run of operators each rests on all that are below it. -/
theorem pairwise_run {above below : List Pending} {run : List Operator}
    (h : (above ++ run.map Pending.operator ++ below).IsChain Pending.RestsOn) :
    run.Pairwise Operator.RestsOn := by
  have hrun : (run.map Pending.operator).IsChain Pending.RestsOn :=
    h.left_of_append.right_of_append
  rw [List.isChain_map] at hrun
  -- Neighbours are enough, since resting on one another is transitive.
  exact List.isChain_iff_pairwise.mp hrun

/-- **The order of what waits.** Let `left` be what waits after the tokens `read`, whatever comes
behind them, or what is left of it when `popped` has been taken off its top to read the next one.

* It consists of operators, names of functions and `(` that were read, from bottom to top in the
  order in which they were read.
* In every run of operators in it the precedence strictly increases from bottom to top, except that
  `^` can be on top of `^`.
* It has as many `(` as were opened and not closed, where those taken off count as closed. -/
theorem pending_increasing {read : List Token} (h : readInfix unknown read = .ok s)
    {popped left : List Pending} (hp : s.pending = popped ++ left) :
    (left.reverse.map Pending.written).Sublist (read.filter Token.waits) ∧
    (∀ (above : List Pending) (run : List Operator) (below : List Pending),
      left = above ++ run.map Pending.operator ++ below → run.Pairwise Operator.RestsOn) ∧
    left.count .group + (read.count .closing + popped.count .group) = read.count .opening := by
  have hsuffix : left <:+ s.pending := ⟨popped, hp.symm⟩
  refine ⟨?_, fun above run below hl => ?_, ?_⟩
  · exact (hsuffix.sublist.reverse.map _).trans (sublist_pending h)
  · have hchain := (isChain_pending h).suffix hsuffix
    rw [hl] at hchain
    exact pairwise_run hchain
  · have hopen := openGroups_add_count h
    rw [openGroups, hp, List.count_append] at hopen
    omega

/-- While the group in `1+sqrt2*(3-4^5^` is being closed: one `^` is gone and the other is still on
top of the minus sign. The product waits on the function, not on the sum. -/
theorem pending_increasing_open_group :
    readInfix .reject (Token.ofString "1+sqrt2*(3-4^5^") =
      .ok ⟨[.number "1", .number "2", .number "3", .number "4", .number "5"],
        [.operator .power, .operator .power, .operator .subtract, .group, .operator .multiply,
          .function .sqrt, .operator .add]⟩ ∧
    [Token.operator .add, .name "sqrt", .operator .multiply, .opening, .operator .subtract,
      .operator .power].Sublist ((Token.ofString "1+sqrt2*(3-4^5^").filter Token.waits) ∧
    [Operator.power, .subtract].Pairwise Operator.RestsOn ∧
    1 + ((Token.ofString "1+sqrt2*(3-4^5^").count .closing + 0) =
      (Token.ofString "1+sqrt2*(3-4^5^").count .opening := by
  have h : readInfix .reject (Token.ofString "1+sqrt2*(3-4^5^") =
      .ok ⟨[.number "1", .number "2", .number "3", .number "4", .number "5"],
        [.operator .power, .operator .power, .operator .subtract, .group, .operator .multiply,
          .function .sqrt, .operator .add]⟩ := rfl
  have hp : [Pending.operator .power, .operator .power, .operator .subtract, .group,
      .operator .multiply, .function .sqrt, .operator .add] = [.operator .power] ++
        [.operator .power, .operator .subtract, .group, .operator .multiply, .function .sqrt,
          .operator .add] := rfl
  obtain ⟨hw, hr, hc⟩ := pending_increasing h hp
  exact ⟨h, hw, hr [] [.power, .subtract] _ rfl, hc⟩

end Conversion

end Calculator
