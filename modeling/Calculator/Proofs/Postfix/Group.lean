import Mathlib
import Calculator.Proofs.Postfix.Steps
import Calculator.Token.Scanner

/-!
# Groups are read on their own

A group in parentheses is put into postfix order whatever stands around it, and what stands around
it is put into postfix order whatever is in the group.

* `Conversion.behind`, `Conversion.foldlM_behind`: what was put out before has no influence.
* `Conversion.inside`, `Conversion.Step.inside`, `Conversion.foldlM_inside`: what waits outside of a
  group has no influence on what is read inside.
* **`Conversion.foldlM_parenthesized`**: a group adds the postfix order of its tokens to the output,
  and the function that it is the argument of.
* **`toPostfix_group`**: the postfix order of tokens with a group somewhere among them.
* `toPostfix_append_error`, `toPostfix_append`: tokens behind others that cannot be read, or after
  which nothing waits.
* **`Conversion.foldlM_group_frame`**: what a group does to a state, and that a second pair of
  parentheses around it does nothing.
-/

namespace Calculator

/-- The tokens in parentheses. -/
def Token.parenthesized (tokens : List Token) : List Token := opening :: tokens ++ [closing]

namespace Conversion

/-! ## Behind an output -/

/-- The same state, but behind tokens that were put out before. -/
def behind (written : List Token) (s : Conversion) : Conversion :=
  ⟨written ++ s.output, s.pending⟩

theorem finish_behind (written : List Token) (s : Conversion) :
    (s.behind written).finish = written ++ s.finish := List.append_assoc ..

theorem attach_behind (written : List Token) (s : Conversion) :
    (s.behind written).attach = s.attach.behind written := by
  obtain ⟨output, pending⟩ := s
  match pending with
  | .function f :: rest => simp [behind, attach]
  | [] | .operator _ :: _ | .group :: _ => rfl

theorem close_behind (written : List Token) (s : Conversion) :
    (s.behind written).close = s.close.map (behind written) := by
  by_cases hg : .group ∈ s.pending
  · obtain ⟨output, inner, rest, rfl, hi⟩ := exists_innermost_group hg
    change (⟨written ++ output, inner ++ .group :: rest⟩ : Conversion).close = _
    rw [close_eq output hi rest, close_eq (written ++ output) hi rest, List.append_assoc]
    exact congrArg Except.ok
      (attach_behind written ⟨output ++ inner.filterMap Pending.token?, rest⟩)
  · rw [close_eq_error (s := s) hg, close_eq_error (s := s.behind written) hg]
    rfl

theorem step_behind (unknown : UnknownNames) (written : List Token) (s : Conversion) (t : Token) :
    step unknown (s.behind written) t = (step unknown s t).map (behind written) := by
  cases t with
  | number text => simp [step, behind, emit, Except.map]
  | name name =>
    obtain ⟨c, rfl⟩ | ⟨f, rfl⟩ | hn := Meaning.name_cases name
    · simp [step, behind, emit, Except.map]
    · simp [step, behind, push, Except.map]
    · cases unknown <;> simp [step, hn, Except.map]
  | operator o => simp [step, behind, release, push, Except.map]
  | opening => rfl
  | closing => exact close_behind written s

/-- **What was put out before has no influence** on how tokens are read. -/
theorem foldlM_behind (unknown : UnknownNames) (written : List Token) (s : Conversion)
    (tokens : List Token) : tokens.foldlM (step unknown) (s.behind written) =
      (tokens.foldlM (step unknown) s).map (behind written) := by
  induction tokens generalizing s with
  | nil => rfl
  | cons t rest ih =>
    rw [List.foldlM_cons, List.foldlM_cons, step_behind]
    cases step unknown s t with
    | error e => rfl
    | ok s' => exact ih s'

/-! ## Inside a group -/

/-- The state inside a group that was opened in the state `outer`. -/
def inside (outer s : Conversion) : Conversion :=
  ⟨outer.output ++ s.output, s.pending ++ .group :: outer.pending⟩

/-- The search for waiting operators that bind ends at a group. -/
theorem span_bindsBefore_group (next : Operator) (pending below : List Pending) :
    (pending ++ .group :: below).takeWhile (·.bindsBefore next) =
        pending.takeWhile (·.bindsBefore next) ∧
      (pending ++ .group :: below).dropWhile (·.bindsBefore next) =
        pending.dropWhile (·.bindsBefore next) ++ .group :: below := by
  induction pending with
  | nil => exact ⟨rfl, rfl⟩
  | cons p rest ih =>
    simp only [List.cons_append, List.takeWhile_cons, List.dropWhile_cons]
    cases p.bindsBefore next with
    | false => exact ⟨rfl, rfl⟩
    | true => exact ⟨congrArg (p :: ·) ih.1, ih.2⟩

theorem release_inside (outer s : Conversion) (next : Operator) :
    (outer.inside s).release next = outer.inside (s.release next) := by
  obtain ⟨ht, hd⟩ := span_bindsBefore_group next s.pending outer.pending
  rw [release, release, inside, inside, ht, hd, List.append_assoc]

theorem attach_inside (outer s : Conversion) :
    (outer.inside s).attach = outer.inside s.attach := by
  obtain ⟨output, pending⟩ := s
  match pending with
  | .function f :: rest => simp [inside, attach]
  | [] | .operator _ :: _ | .group :: _ => rfl

theorem emit_inside (outer s : Conversion) (t : Token) :
    (outer.inside s).emit t = outer.inside (s.emit t) := by
  simp [inside, emit]

/-- A token that can be read is read inside of a group in the same way. -/
theorem Step.inside {unknown : UnknownNames} {s s' : Conversion} {t : Token}
    (h : Step unknown s t s') (outer : Conversion) :
    Step unknown (outer.inside s) t (outer.inside s') := by
  cases h with
  | number text =>
    rw [← emit_inside]
    exact .number text
  | constant c =>
    rw [← emit_inside]
    exact .constant c
  | function f => exact .function f
  | dropped hn hu => exact .dropped hn hu
  | operator o =>
    have hr : outer.inside ((s.release o).push (.operator o)) =
        ((outer.inside s).release o).push (.operator o) := by
      rw [release_inside]
      rfl
    rw [hr]
    exact .operator o
  | opening => exact .opening
  | @closing output inner rest hi =>
    have hs : outer.inside ⟨output, inner ++ .group :: rest⟩ =
        ⟨outer.output ++ output, inner ++ .group :: (rest ++ .group :: outer.pending)⟩ := by
      simp [Conversion.inside]
    have hc : outer.inside (attach ⟨output ++ inner.filterMap Pending.token?, rest⟩) =
        attach ⟨outer.output ++ output ++ inner.filterMap Pending.token?,
          rest ++ .group :: outer.pending⟩ := by
      rw [← attach_inside, Conversion.inside, List.append_assoc]
    rw [hs, hc]
    exact .closing _ _ hi

/-- **What waits outside of a group has no influence** on tokens that can be read without it. -/
theorem foldlM_inside {unknown : UnknownNames} {s s' : Conversion} {tokens : List Token}
    (h : tokens.foldlM (step unknown) s = .ok s') (outer : Conversion) :
    tokens.foldlM (step unknown) (outer.inside s) = .ok (outer.inside s') := by
  induction tokens generalizing s with
  | nil =>
    cases h
    rfl
  | cons t rest ih =>
    obtain ⟨s₁, hs, h⟩ := foldlM_cons_eq_ok_iff.mp h
    have hi := step_eq_ok_iff.mpr ((step_eq_ok_iff.mp hs).inside outer)
    exact foldlM_cons_eq_ok_iff.mpr ⟨outer.inside s₁, hi, ih h⟩

theorem close_inside (outer : Conversion) {s : Conversion} (h : s.openGroups = 0) :
    (outer.inside s).close = .ok (attach ⟨outer.output ++ s.finish, outer.pending⟩) := by
  have hi : .group ∉ s.pending := List.count_eq_zero.mp h
  rw [inside, close_eq _ hi, finish, List.append_assoc]

theorem finish_inside (outer s : Conversion) : (outer.inside s).finish =
    outer.output ++ s.finish ++ outer.pending.filterMap Pending.token? := by
  have hg : (Pending.group :: outer.pending).filterMap Pending.token? =
      outer.pending.filterMap Pending.token? := rfl
  simp only [finish, inside, List.filterMap_append, hg, List.append_assoc]

/-! ## Groups -/

/-- Behind a `(` the tokens are read as if they stood alone. -/
theorem foldlM_opening {unknown : UnknownNames} {tokens : List Token} {r : Conversion}
    (h : readInfix unknown tokens = .ok r) (s : Conversion) :
    (Token.opening :: tokens).foldlM (step unknown) s = .ok (s.inside r) := by
  have hin : s.push .group = s.inside start := by simp [push, inside, start]
  exact foldlM_cons_eq_ok_iff.mpr ⟨_, congrArg Except.ok hin, foldlM_inside h s⟩

/-- **A group adds the postfix order of its tokens** to the output, and behind it the function that
it is the argument of. Nothing else that waits is moved. -/
theorem foldlM_parenthesized {unknown : UnknownNames} {tokens output : List Token}
    (h : toPostfix unknown tokens = .ok output)
    (hc : tokens.count .closing = tokens.count .opening) (s : Conversion) :
    (Token.parenthesized tokens).foldlM (step unknown) s =
      .ok (attach ⟨s.output ++ output, s.pending⟩) := by
  obtain ⟨r, hr, rfl⟩ := toPostfix_eq_ok_iff.mp h
  have hopen : r.openGroups = 0 := by
    have hd := openGroups_add_count hr
    omega
  rw [Token.parenthesized, foldlM_append_ok (foldlM_opening hr s), foldlM_cons_eq_ok_iff]
  exact ⟨_, close_inside s hopen, rfl⟩

end Conversion

/-- **The postfix order of tokens with a group among them** is that of the group between two parts
in which the group has no influence. -/
theorem toPostfix_group {unknown : UnknownNames} {before tokens output : List Token}
    {s : Conversion} (hb : readInfix unknown before = .ok s)
    (h : toPostfix unknown tokens = .ok output)
    (hc : tokens.count .closing = tokens.count .opening) (after : List Token) :
    toPostfix unknown (before ++ .opening :: tokens ++ .closing :: after) =
      (after.foldlM (Conversion.step unknown) (Conversion.attach ⟨[], s.pending⟩)).map
        fun s' => s.output ++ output ++ s'.finish := by
  have hsplit : before ++ .opening :: tokens ++ .closing :: after =
      before ++ (Token.parenthesized tokens ++ after) := by simp [Token.parenthesized]
  have hs : Conversion.attach ⟨s.output ++ output, s.pending⟩ =
      (Conversion.attach ⟨[], s.pending⟩).behind (s.output ++ output) := by
    rw [← Conversion.attach_behind, Conversion.behind, List.append_nil]
  rw [toPostfix, readInfix, hsplit, foldlM_append_ok hb,
    foldlM_append_ok (Conversion.foldlM_parenthesized h hc s), hs, Conversion.foldlM_behind]
  cases after.foldlM (Conversion.step unknown) (Conversion.attach ⟨[], s.pending⟩) with
  | error e => rfl
  | ok s' => exact congrArg Except.ok (Conversion.finish_behind (s.output ++ output) s')

theorem toPostfix_append_error {unknown : UnknownNames} {before : List Token}
    {e : ConversionError} (hb : readInfix unknown before = .error e) (after : List Token) :
    toPostfix unknown (before ++ after) = .error e :=
  toPostfix_eq_error_iff.mpr (foldlM_append_error hb after)

/-- Behind tokens after which nothing waits, the others are put out as if they stood alone. -/
theorem toPostfix_append {unknown : UnknownNames} {before written : List Token}
    (hb : readInfix unknown before = .ok ⟨written, []⟩) (after : List Token) :
    toPostfix unknown (before ++ after) = (toPostfix unknown after).map (written ++ ·) := by
  have hs : (⟨written, []⟩ : Conversion) = Conversion.start.behind written := by
    rw [Conversion.behind, Conversion.start, List.append_nil]
  rw [toPostfix, readInfix, foldlM_append_ok hb, hs, Conversion.foldlM_behind, toPostfix, readInfix]
  cases after.foldlM (Conversion.step unknown) Conversion.start with
  | error e => rfl
  | ok s => exact congrArg Except.ok (Conversion.finish_behind written s)

/-! ## Doubled parentheses -/

/-- Tokens that are read alike in every state can be exchanged in any context. -/
theorem toPostfix_exchange {unknown : UnknownNames} {tokens tokens' : List Token}
    (h : ∀ s, tokens.foldlM (Conversion.step unknown) s =
      tokens'.foldlM (Conversion.step unknown) s) (before after : List Token) :
    toPostfix unknown (before ++ tokens ++ after) =
      toPostfix unknown (before ++ tokens' ++ after) := by
  have hread : readInfix unknown (before ++ tokens) = readInfix unknown (before ++ tokens') := by
    unfold readInfix
    rw [List.foldlM_append, List.foldlM_append]
    exact bind_congr h
  unfold toPostfix readInfix at *
  rw [List.foldlM_append, hread, ← List.foldlM_append]

/-- Parentheses around all tokens leave their postfix order as it is. -/
theorem toPostfix_parenthesized {unknown : UnknownNames} {tokens output : List Token}
    (h : toPostfix unknown tokens = .ok output)
    (hc : tokens.count .closing = tokens.count .opening) :
    toPostfix unknown (Token.parenthesized tokens) = .ok output := by
  have hread := Conversion.foldlM_parenthesized h hc Conversion.start
  refine toPostfix_eq_ok_iff.mpr ⟨_, hread, ?_⟩
  rw [Conversion.finish_attach]
  exact List.append_nil output

theorem count_parenthesized {tokens : List Token}
    (hc : tokens.count .closing = tokens.count .opening) :
    (Token.parenthesized tokens).count .closing = (Token.parenthesized tokens).count .opening := by
  simp [Token.parenthesized, hc]

/-- **A group is read on its own.** In every state it adds the postfix order of its tokens to the
output, followed by the function that waits directly in front of it, and everything else that waits
stays. So a second pair of parentheses around a group has no effect in any context, not even on the
error. -/
theorem Conversion.foldlM_group_frame {unknown : UnknownNames} {tokens output : List Token}
    (h : toPostfix unknown tokens = .ok output)
    (hc : tokens.count .closing = tokens.count .opening) :
    (∀ written f rest,
      (Token.parenthesized tokens).foldlM (step unknown) ⟨written, .function f :: rest⟩ =
        .ok ⟨written ++ output ++ [.name f.name], rest⟩) ∧
    (∀ written pending, (∀ f, pending.head? ≠ some (.function f)) →
      (Token.parenthesized tokens).foldlM (step unknown) ⟨written, pending⟩ =
        .ok ⟨written ++ output, pending⟩) ∧
    ∀ before after,
      toPostfix unknown (before ++ Token.parenthesized (Token.parenthesized tokens) ++ after) =
        toPostfix unknown (before ++ Token.parenthesized tokens ++ after) := by
  refine ⟨fun written f rest => ?_, fun written pending hp => ?_, fun before after => ?_⟩
  · rw [foldlM_parenthesized h hc]
    rfl
  · rw [foldlM_parenthesized h hc, attach_of_not_function _ hp]
  · -- The group is one more list of tokens with this postfix order and balanced parentheses.
    have h' := toPostfix_parenthesized h hc
    refine toPostfix_exchange (fun s => ?_) before after
    rw [foldlM_parenthesized h' (count_parenthesized hc), foldlM_parenthesized h hc]

/-- A group behind a function that waits in an open group, and a group in front of a `)` without a
partner. -/
theorem Conversion.foldlM_group_frame_two_times_three :
    (Token.ofString "(2*3)").foldlM (step .reject)
      ⟨[.number "7"], [.function .sqrt, .operator .power, .group]⟩ =
        .ok ⟨[.number "7", .number "2", .number "3", .operator .multiply, .name "sqrt"],
          [.operator .power, .group]⟩ ∧
    toPostfix .reject (Token.ofString "5-((2*3))^)") =
      toPostfix .reject (Token.ofString "5-(2*3)^)") := by
  have h : toPostfix .reject (Token.ofString "2*3") =
      .ok [.number "2", .number "3", .operator .multiply] := rfl
  obtain ⟨hf, -, hd⟩ := foldlM_group_frame h rfl
  exact ⟨hf [.number "7"] .sqrt [.operator .power, .group],
    hd (Token.ofString "5-") (Token.ofString "^)")⟩

end Calculator
