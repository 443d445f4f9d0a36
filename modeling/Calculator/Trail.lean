/-!
# Runs that may stop

A run feeds inputs one by one to a step that may fail; `List.foldlM` gives the state at its end.

* `trail`: the steps that succeed before the run ends or fails; `map_trail_of_ok`,
  `trail_of_error`: which inputs these are.
* `foldlM_append_ok`, `foldlM_append_error`, `foldlM_append_eq_ok_iff`, **`trail_append`**: a run on
  two lists is a run on the first and, unless that fails, on the second.
* **`foldlM_invariant`**: what each step preserves holds at the end of a run.
* `step_of_mem_trail`, **`trail_invariant`**: what each step of a trail preserves holds all along it.
* **`foldlM_eq_error_iff`**: a run that fails does so at one input, after a run that ends.
-/

namespace Calculator

variable {σ α ε : Type}

/-- The steps of a run up to its first failure, each as the state before it, the input and the
state after it. -/
def trail (step : σ → α → Except ε σ) : σ → List α → List (σ × α × σ)
  | _, [] => []
  | s, a :: rest =>
    match step s a with
    | .error _ => []
    | .ok s' => (s, a, s') :: trail step s' rest

theorem foldlM_append_ok {step : σ → α → Except ε σ} {s s' : σ} {as : List α}
    (h : as.foldlM step s = .ok s') (bs : List α) :
    (as ++ bs).foldlM step s = bs.foldlM step s' := by
  rw [List.foldlM_append, h]
  rfl

theorem foldlM_append_error {step : σ → α → Except ε σ} {s : σ} {e : ε} {as : List α}
    (h : as.foldlM step s = .error e) (bs : List α) :
    (as ++ bs).foldlM step s = .error e := by
  rw [List.foldlM_append, h]
  rfl

/-- A run on two lists ends if one on the first does and, from there, one on the second. -/
theorem foldlM_append_eq_ok_iff {step : σ → α → Except ε σ} {s s' : σ} {as bs : List α} :
    (as ++ bs).foldlM step s = .ok s' ↔
      ∃ t, as.foldlM step s = .ok t ∧ bs.foldlM step t = .ok s' := by
  constructor
  · intro h
    cases ht : as.foldlM step s with
    | error e =>
      rw [foldlM_append_error ht] at h
      cases h
    | ok t =>
      rw [foldlM_append_ok ht] at h
      exact ⟨t, rfl, h⟩
  · rintro ⟨t, ht, h⟩
    rw [foldlM_append_ok ht, h]

theorem foldlM_cons_eq_ok_iff {step : σ → α → Except ε σ} {s s' : σ} {a : α} {as : List α} :
    (a :: as).foldlM step s = .ok s' ↔ ∃ t, step s a = .ok t ∧ as.foldlM step t = .ok s' := by
  rw [List.foldlM_cons]
  constructor
  · intro h
    cases hs : step s a with
    | error e =>
      rw [hs] at h
      cases h
    | ok t =>
      rw [hs] at h
      exact ⟨t, rfl, h⟩
  · rintro ⟨t, ht, h⟩
    rw [ht]
    exact h

/-- **What each step preserves holds at the end of a run**, about the inputs read and the state. -/
theorem foldlM_invariant {step : σ → α → Except ε σ} {motive : List α → σ → Prop} {s s' : σ}
    {as : List α} (h : as.foldlM step s = .ok s') (start : motive [] s)
    (next : ∀ before t a t', motive before t → step t a = .ok t' → motive (before ++ [a]) t') :
    motive as s' := by
  suffices key : ∀ before, motive before s → motive (before ++ as) s' from key [] start
  clear start
  induction as generalizing s with
  | nil =>
    cases h
    intro before hb
    rwa [List.append_nil]
  | cons a as ih =>
    obtain ⟨t, ht, h⟩ := foldlM_cons_eq_ok_iff.mp h
    intro before hb
    rw [List.append_cons]
    exact ih h _ (next before s a t hb ht)

/-- **A run that fails does so at one input, after a run that ends.** -/
theorem foldlM_eq_error_iff {step : σ → α → Except ε σ} {s : σ} {e : ε} {as : List α} :
    as.foldlM step s = .error e ↔ ∃ before a after t,
      as = before ++ a :: after ∧ before.foldlM step s = .ok t ∧ step t a = .error e := by
  constructor
  · intro h
    induction as generalizing s with
    | nil => cases h
    | cons a as ih =>
      cases hs : step s a with
      | error e' =>
        rw [List.foldlM_cons, hs] at h
        cases h
        exact ⟨[], a, as, s, rfl, rfl, hs⟩
      | ok t =>
        rw [List.foldlM_cons, hs] at h
        obtain ⟨before, b, after, u, rfl, hb, he⟩ := ih h
        exact ⟨a :: before, b, after, u, rfl, foldlM_cons_eq_ok_iff.mpr ⟨t, hs, hb⟩, he⟩
  · rintro ⟨before, a, after, t, rfl, hb, he⟩
    rw [foldlM_append_ok hb, List.foldlM_cons, he]
    rfl

/-- **After a run that ends, the trail goes on from its last state.** -/
theorem trail_append {step : σ → α → Except ε σ} {s s' : σ} {as : List α}
    (h : as.foldlM step s = .ok s') (bs : List α) :
    trail step s (as ++ bs) = trail step s as ++ trail step s' bs := by
  induction as generalizing s with
  | nil =>
    cases h
    rfl
  | cons a as ih =>
    rw [List.foldlM_cons] at h
    simp only [List.cons_append, trail]
    cases hs : step s a with
    | error e =>
      rw [hs] at h
      cases h
    | ok t =>
      rw [hs] at h
      simp only [List.cons_append, List.cons.injEq, true_and]
      exact ih h

/-- All inputs of a run that ends are on its trail. -/
theorem map_trail_of_ok {step : σ → α → Except ε σ} {s s' : σ} {as : List α}
    (h : as.foldlM step s = .ok s') : (trail step s as).map (fun x => x.2.1) = as := by
  induction as generalizing s with
  | nil => rfl
  | cons a as ih =>
    obtain ⟨t, ht, h⟩ := foldlM_cons_eq_ok_iff.mp h
    simp only [trail, ht, List.map_cons, ih h]

/-- The trail of a run that fails is that of the inputs in front of the one it fails at. -/
theorem trail_of_error {step : σ → α → Except ε σ} {s t : σ} {e : ε} {as : List α} {a : α}
    (h : as.foldlM step s = .ok t) (ha : step t a = .error e) (bs : List α) :
    trail step s (as ++ a :: bs) = trail step s as := by
  rw [trail_append h]
  simp only [trail, ha, List.append_nil]

/-- What is on a trail is a step that succeeds at one of the inputs. -/
theorem step_of_mem_trail {step : σ → α → Except ε σ} {s : σ} {as : List α} {x : σ × α × σ}
    (h : x ∈ trail step s as) : step x.1 x.2.1 = .ok x.2.2 ∧ x.2.1 ∈ as := by
  induction as generalizing s with
  | nil => cases h
  | cons a as ih =>
    rw [trail] at h
    split at h
    · cases h
    · next s' hs =>
      cases h with
      | head => exact ⟨hs, .head as⟩
      | tail _ h => exact ⟨(ih h).1, .tail a (ih h).2⟩

/-- **What each step of a trail preserves holds all along it**, and in the end. -/
theorem trail_invariant {step : σ → α → Except ε σ} {P : σ → Prop} {s : σ} {as : List α}
    (start : P s) (next : ∀ x ∈ trail step s as, P x.1 → P x.2.2) :
    (∀ x ∈ trail step s as, P x.2.2) ∧ ∀ s', as.foldlM step s = .ok s' → P s' := by
  induction as generalizing s with
  | nil =>
    refine ⟨fun _ h => (nomatch h), fun s' h => ?_⟩
    cases h
    exact start
  | cons a as ih =>
    rw [trail] at next ⊢
    cases hs : step s a with
    | error e =>
      refine ⟨fun _ h => (nomatch h), fun s' h => ?_⟩
      rw [List.foldlM_cons, hs] at h
      cases h
    | ok t =>
      simp only [hs, List.forall_mem_cons] at next ⊢
      have ht : P t := next.1 start
      have hrest := ih ht next.2
      refine ⟨⟨ht, hrest.1⟩, fun s' h => ?_⟩
      rw [List.foldlM_cons, hs] at h
      exact hrest.2 s' h

end Calculator
