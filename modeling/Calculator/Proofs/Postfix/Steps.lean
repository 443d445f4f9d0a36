import Mathlib
import Calculator.Postfix.Conversion

/-!
# What a step of the conversion does

* `Conversion.attach`, `Conversion.exists_innermost_group`, `Conversion.close_eq`,
  `Conversion.close_eq_error`: how a group is closed.
* `Conversion.Step`, **`Conversion.step_eq_ok_iff`**: all ways in which a token can be read;
  `Conversion.step_eq_error_iff`: the tokens that cannot; **`Conversion.readInfix_invariant`**: from
  the steps to what was read.
* **`Conversion.finish_perm`**: reading tokens neither loses nor adds one. Of the tokens only the
  parentheses and the names without a meaning are not put out.
* **`Conversion.openGroups_add_count`**: the open groups are the parentheses opened and not closed;
  `Conversion.group_mem_iff`: when there is one.
* `toPostfix_eq_ok_iff`, `toPostfix_eq_error_iff`: the outcomes of a conversion.
-/

namespace Calculator

namespace Conversion

/-! ## Closing a group -/

/-- Put out the function in front of the group that was just closed, if there is one. -/
def attach (s : Conversion) : Conversion :=
  match s.pending with
  | .function f :: rest => ⟨s.output ++ [.name f.name], rest⟩
  | _ => s

theorem attach_of_not_function (output : List Token) {pending : List Pending}
    (h : ∀ f, pending.head? ≠ some (.function f)) :
    attach ⟨output, pending⟩ = ⟨output, pending⟩ := by
  match pending, h with
  | .function f :: _, h => exact absurd rfl (h f)
  | [], _ | .operator _ :: _, _ | .group :: _, _ => rfl

/-- Where a group is open, what waits is cut by the innermost one. -/
theorem exists_innermost_group {s : Conversion} (h : .group ∈ s.pending) :
    ∃ output inner rest, s = ⟨output, inner ++ .group :: rest⟩ ∧ .group ∉ inner := by
  obtain ⟨inner, rest, hp, hi⟩ := List.eq_append_cons_of_mem h
  exact ⟨s.output, inner, rest, by rw [← hp], hi⟩

theorem close_eq (output : List Token) {inner : List Pending} (hi : .group ∉ inner)
    (rest : List Pending) : (⟨output, inner ++ .group :: rest⟩ : Conversion).close =
      .ok (attach ⟨output ++ inner.filterMap Pending.token?, rest⟩) := by
  have hp : ∀ p ∈ inner, (p != Pending.group) = true := by
    intro p hp
    simpa using fun h : p = .group => hi (h ▸ hp)
  have ht : (inner ++ .group :: rest).takeWhile (· != .group) = inner := by
    rw [List.takeWhile_append_of_pos hp]
    simp
  have hd : (inner ++ .group :: rest).dropWhile (· != .group) = .group :: rest := by
    rw [List.dropWhile_append_of_pos hp]
    simp
  rw [close, ht, hd]
  match rest with
  | .function f :: rest => rfl
  | [] | .operator _ :: _ | .group :: _ => rfl

theorem close_eq_error {s : Conversion} (h : .group ∉ s.pending) :
    s.close = .error .mismatchedClosing := by
  have hd : s.pending.dropWhile (· != .group) = [] := by
    rw [List.dropWhile_eq_nil_iff]
    intro p hp
    simpa using fun hg : p = .group => h (hg ▸ hp)
  rw [close, hd]

/-! ## Steps -/

/-- `Step unknown s t s'`: reading `t` leads from `s` to `s'`. -/
inductive Step (unknown : UnknownNames) : Conversion → Token → Conversion → Prop where
  | number {s : Conversion} (text : String) :
      Step unknown s (.number text) (s.emit (.number text))
  | constant {s : Conversion} (c : Constant) :
      Step unknown s (.name c.name) (s.emit (.name c.name))
  | function {s : Conversion} (f : Func) : Step unknown s (.name f.name) (s.push (.function f))
  | dropped {s : Conversion} {name : String} :
      Meaning.ofName? name = none → unknown = .drop → Step unknown s (.name name) s
  | operator {s : Conversion} (o : Operator) :
      Step unknown s (.operator o) ((s.release o).push (.operator o))
  | opening {s : Conversion} : Step unknown s .opening (s.push .group)
  | closing (output : List Token) {inner : List Pending} (rest : List Pending) :
      .group ∉ inner → Step unknown ⟨output, inner ++ .group :: rest⟩ .closing
        (attach ⟨output ++ inner.filterMap Pending.token?, rest⟩)

/-- **A token is read in one of the ways listed**, and in each of them it can be read. -/
theorem step_eq_ok_iff {unknown : UnknownNames} {s s' : Conversion} {t : Token} :
    step unknown s t = .ok s' ↔ Step unknown s t s' := by
  constructor
  · intro h
    cases t with
    | number text =>
      cases h
      exact .number text
    | name name =>
      obtain ⟨c, rfl⟩ | ⟨f, rfl⟩ | hn := Meaning.name_cases name
      · simp only [step, Meaning.ofName?_constant] at h
        cases h
        exact .constant c
      · simp only [step, Meaning.ofName?_function] at h
        cases h
        exact .function f
      · cases unknown with
        | reject =>
          simp only [step, hn] at h
          cases h
        | drop =>
          simp only [step, hn] at h
          cases h
          exact .dropped hn rfl
    | operator o =>
      cases h
      exact .operator o
    | opening =>
      cases h
      exact .opening
    | closing =>
      change s.close = .ok s' at h
      by_cases hg : .group ∈ s.pending
      · obtain ⟨output, inner, rest, rfl, hi⟩ := exists_innermost_group hg
        rw [close_eq output hi rest] at h
        cases h
        exact .closing output rest hi
      · rw [close_eq_error hg] at h
        cases h
  · intro h
    cases h with
    | number | operator | opening => rfl
    | constant c => simp only [step, Meaning.ofName?_constant]
    | function f => simp only [step, Meaning.ofName?_function]
    | dropped hn hu => simp only [step, hn, hu]
    | closing output rest hi => exact close_eq output hi rest

/-- Only unknown names and parentheses without a partner cannot be read. -/
theorem step_eq_error_iff {unknown : UnknownNames} {s : Conversion} {t : Token}
    {e : ConversionError} : step unknown s t = .error e ↔
      (∃ name, t = .name name ∧ Meaning.ofName? name = none ∧ unknown = .reject ∧
        e = .unknownName name) ∨
      t = .closing ∧ .group ∉ s.pending ∧ e = .mismatchedClosing := by
  constructor
  · intro h
    cases t with
    | number text => cases h
    | name name =>
      obtain ⟨c, rfl⟩ | ⟨f, rfl⟩ | hn := Meaning.name_cases name
      · simp only [step, Meaning.ofName?_constant] at h
        cases h
      · simp only [step, Meaning.ofName?_function] at h
        cases h
      · cases unknown with
        | reject =>
          simp only [step, hn] at h
          cases h
          exact .inl ⟨name, rfl, hn, rfl, rfl⟩
        | drop =>
          simp only [step, hn] at h
          cases h
    | operator o => cases h
    | opening => cases h
    | closing =>
      change s.close = .error e at h
      by_cases hg : .group ∈ s.pending
      · obtain ⟨output, inner, rest, rfl, hi⟩ := exists_innermost_group hg
        rw [close_eq output hi rest] at h
        cases h
      · rw [close_eq_error hg] at h
        cases h
        exact .inr ⟨rfl, hg, rfl⟩
  · rintro (⟨name, rfl, hn, rfl, rfl⟩ | ⟨rfl, hg, rfl⟩)
    · simp only [step, hn]
    · exact close_eq_error hg

/-- **What each step preserves holds of what a conversion has read.** -/
theorem readInfix_invariant {unknown : UnknownNames} {motive : List Token → Conversion → Prop}
    {s : Conversion} {tokens : List Token} (h : readInfix unknown tokens = .ok s)
    (begins : motive [] start)
    (next : ∀ {before s t s'}, motive before s → Step unknown s t s' → motive (before ++ [t]) s') :
    motive tokens s :=
  foldlM_invariant h begins fun _ _ _ _ hb ht => next hb (step_eq_ok_iff.mp ht)

/-! ## What is put out -/

theorem finish_emit (s : Conversion) (t : Token) : (s.emit t).finish.Perm (s.finish ++ [t]) := by
  simp only [finish, emit, List.append_assoc]
  exact (List.perm_append_comm).append_left s.output

theorem finish_push (s : Conversion) (p : Pending) :
    (s.push p).finish.Perm (s.finish ++ p.token?.toList) := by
  simp only [finish, push, List.append_assoc]
  refine List.Perm.append_left s.output ?_
  rw [List.filterMap_cons]
  cases p.token? with
  | none => simp
  | some t => exact List.perm_append_singleton t (s.pending.filterMap Pending.token?) |>.symm

theorem finish_release (s : Conversion) (next : Operator) : (s.release next).finish = s.finish := by
  rw [finish, finish, release, List.append_assoc, ← List.filterMap_append,
    List.takeWhile_append_dropWhile]

theorem finish_attach (s : Conversion) : s.attach.finish = s.finish := by
  obtain ⟨output, pending⟩ := s
  match pending with
  | .function f :: rest => simp [attach, finish, Pending.token?]
  | [] | .operator _ :: _ | .group :: _ => rfl

/-- To close a group puts out no more than what would be put out in the end. -/
theorem finish_closing (output : List Token) (inner rest : List Pending) :
    (attach ⟨output ++ inner.filterMap Pending.token?, rest⟩).finish =
      (⟨output, inner ++ .group :: rest⟩ : Conversion).finish := by
  have hg : (Pending.group :: rest).filterMap Pending.token? = rest.filterMap Pending.token? := rfl
  rw [finish_attach, finish, finish, List.append_assoc, List.filterMap_append, hg]

/-- Whether a conversion puts the token out: it is no parenthesis, and if a name then a known
one. -/
def Keeps : Token → Bool
  | .opening | .closing => false
  | .name name => (Meaning.ofName? name).isSome
  | _ => true

theorem Step.finish_perm {unknown : UnknownNames} {s s' : Conversion} {t : Token}
    (h : Step unknown s t s') : s'.finish.Perm (s.finish ++ [t].filter Keeps) := by
  cases h with
  | number text => exact finish_emit s _
  | constant c =>
    have hk : [Token.name c.name].filter Keeps = [.name c.name] := by simp [Keeps]
    rw [hk]
    exact finish_emit s _
  | function f =>
    have hk : [Token.name f.name].filter Keeps = [.name f.name] := by simp [Keeps]
    rw [hk]
    exact finish_push s (.function f)
  | dropped hn hu => simp [Keeps, hn]
  | operator o =>
    rw [← finish_release s o]
    exact finish_push _ (.operator o)
  | opening => exact finish_push s .group
  | @closing output inner rest hi =>
    rw [finish_closing]
    exact List.Perm.of_eq (List.append_nil _).symm

/-- **Reading tokens keeps them all**, apart from parentheses and names without a meaning. -/
theorem finish_perm {unknown : UnknownNames} {s : Conversion} {tokens : List Token}
    (h : readInfix unknown tokens = .ok s) : s.finish.Perm (tokens.filter Keeps) := by
  refine readInfix_invariant (motive := fun before s => s.finish.Perm (before.filter Keeps)) h
    (List.Perm.refl []) ?_
  intro before s t s' hb hs
  rw [List.filter_append]
  exact hs.finish_perm.trans (hb.append_right _)

/-! ## Open groups -/

theorem openGroups_release (s : Conversion) (next : Operator) :
    (s.release next).openGroups = s.openGroups := by
  have h : (s.pending.takeWhile (·.bindsBefore next)).count .group = 0 := by
    rw [List.count_eq_zero]
    intro hg
    exact Bool.noConfusion (List.mem_takeWhile_imp hg : Pending.bindsBefore next .group = true)
  have hc := congrArg (List.count Pending.group)
    (List.takeWhile_append_dropWhile (p := (·.bindsBefore next)) (l := s.pending))
  rw [List.count_append, h, Nat.zero_add] at hc
  exact hc

theorem openGroups_attach (s : Conversion) : s.attach.openGroups = s.openGroups := by
  obtain ⟨output, pending⟩ := s
  match pending with
  | .function f :: rest => simp [attach, openGroups]
  | [] | .operator _ :: _ | .group :: _ => rfl

theorem Step.openGroups_add_count {unknown : UnknownNames} {s s' : Conversion} {t : Token}
    (h : Step unknown s t s') :
    s'.openGroups + [t].count .closing = s.openGroups + [t].count .opening := by
  cases h with
  | number text | constant c | dropped hn hu => rfl
  | function f => simp [push, openGroups]
  | operator o =>
    rw [← openGroups_release s o]
    simp [push, openGroups]
  | opening => simp [push, openGroups]
  | closing output rest hi =>
    rw [openGroups_attach]
    simp [openGroups, List.count_eq_zero.mpr hi]

/-- **The open groups are those that were opened and not closed.** -/
theorem openGroups_add_count {unknown : UnknownNames} {s : Conversion} {tokens : List Token}
    (h : readInfix unknown tokens = .ok s) :
    s.openGroups + tokens.count .closing = tokens.count .opening := by
  refine readInfix_invariant (motive := fun before s =>
    s.openGroups + before.count .closing = before.count .opening) h rfl ?_
  intro before s t s' hb hs
  have hg := hs.openGroups_add_count
  rw [List.count_append, List.count_append]
  omega

/-- A group is open exactly if more were opened than closed. -/
theorem group_mem_iff {unknown : UnknownNames} {s : Conversion} {tokens : List Token}
    (h : readInfix unknown tokens = .ok s) :
    .group ∈ s.pending ↔ tokens.count .closing < tokens.count .opening := by
  have hd := openGroups_add_count h
  rw [← List.count_pos_iff]
  change 0 < s.openGroups ↔ _
  omega

end Conversion

/-! ## Outcomes -/

theorem toPostfix_eq_ok_iff {unknown : UnknownNames} {tokens output : List Token} :
    toPostfix unknown tokens = .ok output ↔
      ∃ s, readInfix unknown tokens = .ok s ∧ s.finish = output := by
  unfold toPostfix
  constructor
  · intro h
    cases hs : readInfix unknown tokens with
    | error e =>
      rw [hs] at h
      cases h
    | ok s =>
      rw [hs] at h
      cases h
      exact ⟨s, rfl, rfl⟩
  · rintro ⟨s, hs, rfl⟩
    rw [hs]
    rfl

theorem toPostfix_eq_error_iff {unknown : UnknownNames} {tokens : List Token}
    {e : ConversionError} :
    toPostfix unknown tokens = .error e ↔ readInfix unknown tokens = .error e := by
  unfold toPostfix
  constructor
  · intro h
    cases hs : readInfix unknown tokens with
    | error e' =>
      rw [hs] at h
      cases h
      rfl
    | ok s =>
      rw [hs] at h
      cases h
  · intro hs
    rw [hs]
    rfl

end Calculator
