import Mathlib
import Calculator.Log
import Calculator.Proofs.Postfix.Steps

/-!
# Names without a meaning

A name without a meaning can be dropped where it is read or taken out before anything is read: the
postfix order is the same, and so is the error if there is none. Only in the log does it show
whether there were such names.

* `Token.unknownNames`, `Token.withoutUnknown`: the names without a meaning, and all other tokens.
* **`Conversion.foldlM_drop`**: dropping them is to be strict about the other tokens.
* `droppedNames_of_ok`, `droppedNames_of_error`: which names are dropped before a conversion ends
  or fails; `Log.warnings_ofConversion`: each of them is logged.
* **`toPostfix_drop`**: a conversion that drops names, its outcome and its warnings.
-/

namespace Calculator

namespace Token

/-- The names without a meaning, in their order. -/
def unknownNames (tokens : List Token) : List String := tokens.filterMap unknownName?

/-- The tokens other than names without a meaning. -/
def withoutUnknown (tokens : List Token) : List Token := tokens.filter (·.unknownName?.isNone)

theorem unknownName?_eq_some_iff {t : Token} {name : String} :
    t.unknownName? = some name ↔ t = .name name ∧ Meaning.ofName? name = none := by
  cases t with
  | name text =>
    by_cases h : Meaning.ofName? text = none
    · simp only [unknownName?, h, Option.isNone_none, if_true, Option.some_inj, Token.name.injEq]
      exact ⟨fun ht => ⟨ht, ht ▸ h⟩, fun ht => ht.1⟩
    · simp only [unknownName?, Option.isNone_iff_eq_none, h, if_false, Token.name.injEq]
      exact ⟨fun ht => (nomatch ht), fun ⟨ht, hm⟩ => absurd hm (ht ▸ h)⟩
  | _ => simp [unknownName?]

end Token

open Token

variable {tokens before : List Token}

/-! ## Two policies -/

namespace Conversion

theorem step_drop_of_unknown (s : Conversion) {t : Token} {name : String}
    (h : t.unknownName? = some name) : step .drop s t = .ok s := by
  obtain ⟨rfl, hn⟩ := unknownName?_eq_some_iff.mp h
  exact step_eq_ok_iff.mpr (.dropped hn rfl)

theorem step_drop_of_known (s : Conversion) {t : Token} (h : t.unknownName? = none) :
    step .drop s t = step .reject s t := by
  cases t with
  | name text =>
    obtain ⟨c, rfl⟩ | ⟨f, rfl⟩ | hn := Meaning.name_cases text
    · simp only [step, Meaning.ofName?_constant]
    · simp only [step, Meaning.ofName?_function]
    · cases h.symm.trans (unknownName?_eq_some_iff.mpr ⟨rfl, hn⟩)
  | _ => rfl

/-- **To drop unknown names is to be strict about the other tokens**, from any state on. -/
theorem foldlM_drop (s : Conversion) (tokens : List Token) :
    tokens.foldlM (step .drop) s = (withoutUnknown tokens).foldlM (step .reject) s := by
  unfold withoutUnknown
  induction tokens generalizing s with
  | nil => rfl
  | cons t rest ih =>
    rw [List.foldlM_cons, List.filter_cons]
    cases h : t.unknownName? with
    | some name =>
      -- A dropped name leaves the state as it is, so the rest starts where it stood.
      rw [step_drop_of_unknown s h]
      exact ih s
    | none =>
      rw [step_drop_of_known s h]
      exact bind_congr ih

/-- A token that the strict policy reads is no unknown name. -/
theorem Step.unknownName?_eq_none {s s' : Conversion} {t : Token} (h : Step .reject s t s') :
    t.unknownName? = none := by
  rw [Option.eq_none_iff_forall_ne_some]
  intro name ht
  obtain ⟨rfl, hn⟩ := unknownName?_eq_some_iff.mp ht
  have he : step .reject s (.name name) = .error (.unknownName name) :=
    step_eq_error_iff.mpr (.inl ⟨name, rfl, hn, rfl, rfl⟩)
  rw [step_eq_ok_iff.mpr h] at he
  cases he

end Conversion

/-- Tokens that the strict policy reads hold no unknown name. -/
theorem unknownName?_of_readInfix {s : Conversion} (h : readInfix .reject tokens = .ok s) :
    ∀ t ∈ tokens, t.unknownName? = none := by
  refine Conversion.readInfix_invariant (motive := fun before _ =>
    ∀ t ∈ before, t.unknownName? = none) h (fun _ ht => nomatch ht) ?_
  intro before s t s' hb hs
  rw [List.forall_mem_append, List.forall_mem_singleton]
  exact ⟨hb, hs.unknownName?_eq_none⟩

theorem withoutUnknown_of_readInfix {s : Conversion} (h : readInfix .reject tokens = .ok s) :
    withoutUnknown tokens = tokens := by
  rw [withoutUnknown, List.filter_eq_self]
  intro t ht
  rw [unknownName?_of_readInfix h t ht]
  rfl

theorem unknownNames_of_readInfix {s : Conversion} (h : readInfix .reject tokens = .ok s) :
    unknownNames tokens = [] := by
  rw [unknownNames, List.filterMap_eq_nil_iff]
  exact unknownName?_of_readInfix h

/-! ## Dropped names -/

theorem droppedNames_eq (unknown : UnknownNames) (tokens : List Token) :
    droppedNames unknown tokens =
      unknownNames ((trail (Conversion.step unknown) Conversion.start tokens).map (·.2.1)) := by
  rw [unknownNames, List.filterMap_map]
  rfl

/-- A conversion that ends drops all unknown names. -/
theorem droppedNames_of_ok {unknown : UnknownNames} {s : Conversion}
    (h : readInfix unknown tokens = .ok s) : droppedNames unknown tokens = unknownNames tokens := by
  rw [droppedNames_eq, map_trail_of_ok h]

/-- A conversion that fails drops the unknown names in front of the token that it fails at. -/
theorem droppedNames_of_error {unknown : UnknownNames} {s : Conversion} {t : Token}
    {e : ConversionError} (h : readInfix unknown before = .ok s)
    (ht : Conversion.step unknown s t = .error e) (after : List Token) :
    droppedNames unknown (before ++ t :: after) = unknownNames before := by
  rw [droppedNames_eq, trail_of_error h ht, map_trail_of_ok h]

namespace Log

/-- The line for a name that is dropped. -/
def dropping (name : String) : Record :=
  ⟨.warn, .conversion, "dropping unknown identifier '" ++ name ++ "'"⟩

/-- The warnings among log lines. -/
def warnings (records : List Record) : List Record := records.filter (·.level == .warn)

/-- **The warnings of a conversion are the names that it drops.** -/
theorem warnings_ofConversion (unknown : UnknownNames) (tokens : List Token) :
    warnings (ofConversion unknown tokens) = (droppedNames unknown tokens).map dropping := by
  have hdropped : warnings ((droppedNames unknown tokens).map dropping) =
      (droppedNames unknown tokens).map dropping := by
    rw [warnings, List.filter_eq_self]
    intro r hr
    obtain ⟨name, -, rfl⟩ := List.mem_map.mp hr
    rfl
  have hclosed (n : Nat) (text : String) :
      warnings (List.replicate n ⟨.debug, .conversion, text⟩) = [] := by
    simp [warnings]
  rw [ofConversion]
  cases toPostfix unknown tokens with
  | error e => exact hdropped
  | ok output =>
    change warnings ((droppedNames unknown tokens).map dropping ++ _ ++ _) = _
    rw [warnings, List.filter_append, List.filter_append]
    change warnings _ ++ warnings _ ++ warnings _ = _
    rw [hdropped, hclosed]
    simp [warnings]

end Log

/-! ## Outcomes -/

theorem readInfix_drop (tokens : List Token) :
    readInfix .drop tokens = readInfix .reject (withoutUnknown tokens) :=
  Conversion.foldlM_drop Conversion.start tokens

/-- **A conversion that drops unknown names** is a strict conversion of the other tokens. It warns
of the names that it drops: all of them if there is a postfix order, and otherwise those in front
of the token at which it fails. -/
theorem toPostfix_drop (tokens : List Token) :
    toPostfix .drop tokens = toPostfix .reject (withoutUnknown tokens) ∧
    (∀ output, toPostfix .drop tokens = .ok output →
      Log.warnings (Log.ofConversion .drop tokens) = (unknownNames tokens).map Log.dropping) ∧
    (∀ e, toPostfix .drop tokens = .error e → ∃ before t after output,
      tokens = before ++ t :: after ∧ toPostfix .drop before = .ok output ∧
      toPostfix .drop (before ++ [t]) = .error e ∧
      Log.warnings (Log.ofConversion .drop tokens) = (unknownNames before).map Log.dropping) ∧
    (∀ output, toPostfix .reject tokens = .ok output → toPostfix .drop tokens = .ok output ∧
      Log.warnings (Log.ofConversion .drop tokens) = []) := by
  have heq : toPostfix .drop tokens = toPostfix .reject (withoutUnknown tokens) := by
    rw [toPostfix, toPostfix, readInfix_drop]
  refine ⟨heq, fun output h => ?_, fun e h => ?_, fun output h => ?_⟩
  · obtain ⟨s, hs, -⟩ := toPostfix_eq_ok_iff.mp h
    rw [Log.warnings_ofConversion, droppedNames_of_ok hs]
  · obtain ⟨before, t, after, s, rfl, hs, ht⟩ :=
      foldlM_eq_error_iff.mp (toPostfix_eq_error_iff.mp h)
    refine ⟨before, t, after, s.finish, rfl, toPostfix_eq_ok_iff.mpr ⟨s, hs, rfl⟩, ?_, ?_⟩
    · exact toPostfix_eq_error_iff.mpr (foldlM_eq_error_iff.mpr ⟨before, t, [], s, rfl, hs, ht⟩)
    · rw [Log.warnings_ofConversion, droppedNames_of_error hs ht]
  · obtain ⟨s, hs, -⟩ := toPostfix_eq_ok_iff.mp h
    have hdrop : toPostfix .drop tokens = .ok output := by
      rw [heq, withoutUnknown_of_readInfix hs, h]
    obtain ⟨s', hs', -⟩ := toPostfix_eq_ok_iff.mp hdrop
    refine ⟨hdrop, ?_⟩
    rw [Log.warnings_ofConversion, droppedNames_of_ok hs', unknownNames_of_readInfix hs]
    rfl

/-- A `)` without a partner between two names: the strict policy fails at the first name, the other
one at the `)`, so that it warns of the first name only. -/
theorem toPostfix_drop_closing :
    toPostfix .reject [.name "x", .closing, .name "y"] = .error (.unknownName "x") ∧
    toPostfix .drop [.name "x", .closing, .name "y"] = .error .mismatchedClosing ∧
    ∃ before t after output, [Token.name "x", .closing, .name "y"] = before ++ t :: after ∧
      toPostfix .drop before = .ok output ∧
      toPostfix .drop (before ++ [t]) = .error .mismatchedClosing ∧
      Log.warnings (Log.ofConversion .drop [.name "x", .closing, .name "y"]) =
        (unknownNames before).map Log.dropping := by
  have h : toPostfix .drop [.name "x", .closing, .name "y"] = .error .mismatchedClosing := rfl
  exact ⟨rfl, h, (toPostfix_drop _).2.2.1 _ h⟩

end Calculator
