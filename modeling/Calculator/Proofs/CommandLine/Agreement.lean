import Mathlib
import Calculator.CommandLine
import Calculator.Proofs.Session.Answers

/-!
# One expression as an argument or as a line

An expression can stand among the arguments or on the standard input, and the two are answered by
different parts of the program. They agree: what is written is the same, only that the failure of an
expression among the arguments is reported with the exit code instead of written as a line.

* `Request.ofOptions_append`: the arguments in front of `--` are read on their own.
* `Invocation.options`, `Invocation.AskedBy`: arguments that ask for a given invocation.
* `Settings.order_withoutLineEnd`, `Settings.solve_withoutLineEnd`: the end of a line is no part of
  the expression on it.
* **`Invocation.run_expression`**: the two ways to give an expression compared.
-/

namespace Calculator

/-! ## Arguments in front of `--` -/

namespace Request

theorem continueWith_eq_invoke_iff {go : Invocation → Request} {next : Option Invocation}
    {i : Invocation} : continueWith go next = .invoke i ↔ ∃ j, next = some j ∧ go j = .invoke i := by
  cases next with
  | none => simp [continueWith]
  | some j => simp [continueWith]

/-- Letters that are right change the invocation, whatever comes after them. -/
theorem exists_of_ofLetters {go : Invocation → Request} {letters : List Char} {i j : Invocation}
    (h : ofLetters go i letters = .invoke j) :
    ∃ k, go k = .invoke j ∧ ∀ go', ofLetters go' i letters = go' k := by
  induction letters generalizing i with
  | nil => exact ⟨i, h, fun _ => rfl⟩
  | cons c rest ih =>
    unfold ofLetters at h ⊢
    split at h
    · next heq => cases heq
    · next heq =>
      cases heq
      exact ih h
    · cases h
    · cases h
    · cases h

/-- An argument that is right changes the invocation, whatever comes after it. -/
theorem exists_of_ofOptions_cons {argument : String} {rest : List String} {i j : Invocation}
    (hn : argument ≠ "--") (hp : argument ≠ "--precision")
    (h : ofOptions i (argument :: rest) = .invoke j) :
    ∃ k, ofOptions k rest = .invoke j ∧
      ∀ rest', ofOptions i (argument :: rest') = ofOptions k rest' := by
  by_cases hh : argument = "--help"
  · subst hh
    cases h
  by_cases hv : argument = "--version"
  · subst hv
    cases h
  have heq (rest : List String) := ofOptions.eq_7 i argument rest hn hh hv (fun he _ => hp he)
    fun _ _ he _ => hp he
  have hgo {next : Option Invocation}
      (hc : continueWith (ofOptions · rest) next = .invoke j) :
      ∃ k, ofOptions k rest = .invoke j ∧
        ∀ rest', continueWith (ofOptions · rest') next = ofOptions k rest' := by
    obtain ⟨k, rfl, hk⟩ := continueWith_eq_invoke_iff.mp hc
    exact ⟨k, hk, fun _ => rfl⟩
  rw [heq] at h
  simp only [heq]
  split_ifs at h ⊢
  · exact hgo h
  · split at h
    · exact hgo h
    · exact hgo h
    · obtain ⟨k, hk, hany⟩ := exists_of_ofLetters h
      exact ⟨k, hk, fun rest' => hany _⟩

/-- **The arguments in front of `--` are read on their own.** -/
theorem ofOptions_append {options : List String} (hn : "--" ∉ options) {i j : Invocation}
    (h : ofOptions i options = .invoke j) (rest : List String) :
    ofOptions i (options ++ "--" :: rest) = ofExpressions j rest := by
  induction hl : options.length using Nat.strong_induction_on generalizing options i with
  | _ n ih =>
    subst hl
    match options with
    | [] =>
      cases h
      rfl
    | argument :: later =>
      obtain ⟨ha, hlater⟩ : "--" ≠ argument ∧ "--" ∉ later := by simpa using hn
      by_cases hp : argument = "--precision"
      · subst hp
        match later with
        | [] => cases h
        | value :: later =>
          have hlast : "--" ∉ later := fun hm => hlater (List.mem_cons_of_mem _ hm)
          rw [ofOptions] at h
          rw [List.cons_append, List.cons_append, ofOptions]
          split_ifs at h ⊢
          obtain ⟨k, hk, hinvoke⟩ := continueWith_eq_invoke_iff.mp h
          rw [hk]
          exact ih _ (by simp) hlast hinvoke rfl
      · obtain ⟨k, hk, hany⟩ := exists_of_ofOptions_cons ha.symm hp h
        rw [List.cons_append, hany]
        exact ih _ (by simp) hlater hk rfl

end Request

namespace Invocation

/-- Options that ask for an invocation without an expression. -/
def options (i : Invocation) : List String :=
  (if i.lenient then ["--lenient"] else []) ++ (if i.showPostfix then ["--show-rpn"] else []) ++
    (if i.noPrompt then ["--no-prompt"] else []) ++
    i.places?.elim [] (fun places => ["--precision", toString places]) ++
    List.replicate i.verbosity "--verbose"

/-- The options ask for an invocation and leave room for an expression. -/
structure AskedBy (i : Invocation) (options : List String) : Prop where
  not_mem : "--" ∉ options
  ofArguments_eq : Request.ofArguments options = .invoke i
  expression?_eq : i.expression? = none

/-- The value of `--precision` is read in decimal. -/
theorem addPlaces?_toString {i : Invocation} (hi : i.places? = none) {places : Nat}
    (hp : places ≤ 17) : i.addPlaces? (toString places) = some { i with places? := some places } := by
  have hd : ∀ c ∈ Nat.toDigits 10 places, c.isDigit = true := fun c =>
    Decimal.isDigit_of_mem_toDigits
  have hs : Decimal.splitSign (Nat.toDigits 10 places) = (false, Nat.toDigits 10 places) :=
    Decimal.IsRun.splitSign_eq fun c hc => .inl (hd c hc)
  have hv : Decimal.ofDigits (Nat.toDigits 10 places) = places := Nat.ofDigitChars_ten_toDigits
  have ht : (toString places).toList = Nat.toDigits 10 places := by simp
  have hall : (Nat.toDigits 10 places).all Char.isDigit = true := List.all_eq_true.mpr hd
  rw [addPlaces?, ht, hs]
  simp [hall, hv, hi, hp]

theorem ofOptions_flag {flag : String}
    (h : flag ∈ ["--lenient", "--show-rpn", "--no-prompt", "--verbose"]) (i : Invocation)
    (rest : List String) : Request.ofOptions i (flag :: rest) =
      Request.continueWith (Request.ofOptions · rest) (i.addFlag? flag) := by
  obtain ⟨hh, hv, hn, hp, ho, ha, letters, hl⟩ : flag ≠ "--help" ∧ flag ≠ "--version" ∧
      flag ≠ "--" ∧ flag ≠ "--precision" ∧ Request.isOption flag = true ∧
      Request.attachedPlaces? flag = none ∧ ∃ letters, flag.toList = '-' :: '-' :: letters := by
    simp only [List.mem_cons, List.not_mem_nil, or_false] at h
    obtain rfl | rfl | rfl | rfl := h <;>
      exact ⟨by decide, by decide, by decide, by decide, by decide, by decide, _, rfl⟩
  rw [Request.ofOptions.eq_7 i flag rest hn hh hv (fun he _ => hp he) fun _ _ he _ => hp he, ho, ha,
    hl]
  rfl

theorem minus_not_mem_repr (n : Nat) : '-' ∉ n.repr.toList := by
  rw [Nat.toList_repr]
  exact fun hm => Bool.false_ne_true (Decimal.isDigit_of_mem_toDigits hm)

theorem ofOptions_precision {i : Invocation} (hi : i.places? = none) {places : Nat}
    (hp : places ≤ 17) (rest : List String) :
    Request.ofOptions i ("--precision" :: toString places :: rest) =
      Request.ofOptions { i with places? := some places } rest := by
  have hd : Request.isOption (toString places) = false := by
    rw [Request.isOption, Bool.and_eq_false_iff, beq_eq_false_iff_ne]
    exact .inl fun hc => minus_not_mem_repr places (List.mem_of_head? hc)
  rw [Request.ofOptions, hd, addPlaces?_toString hi hp]
  rfl

theorem ofOptions_verbose (i : Invocation) (n : Nat) :
    Request.ofOptions i (List.replicate n "--verbose") =
      .invoke { i with verbosity := i.verbosity + n } := by
  induction n generalizing i with
  | zero => rfl
  | succ n ih =>
    have hv : i.addFlag? "--verbose" = some { i with verbosity := i.verbosity + 1 } := rfl
    rw [List.replicate_succ, ofOptions_flag (by decide), hv, Request.continueWith, ih]
    simp [Nat.add_assoc, Nat.add_comm 1]

/-- **Every invocation without an expression can be asked for** with at most 17 decimal places. -/
theorem askedBy_options {i : Invocation} (he : i.expression? = none)
    (hp : ∀ places ∈ i.places?, places ≤ 17) : i.AskedBy i.options := by
  obtain ⟨e, lenient, showPostfix, noPrompt, places?, verbosity⟩ := i
  obtain rfl : e = none := he
  refine ⟨?_, ?_, rfl⟩
  · have hdigits (places : Nat) : "--" ≠ places.repr := by
      intro h
      have hm := minus_not_mem_repr places
      rw [← h] at hm
      exact hm (by decide)
    unfold options
    cases lenient <;> cases showPostfix <;> cases noPrompt <;> cases places? <;> simp [hdigits]
  · have hl (rest : List String) :
        Request.ofOptions {} ((if lenient then ["--lenient"] else []) ++ rest) =
          Request.ofOptions { lenient } rest := by
      cases lenient
      · rfl
      · exact ofOptions_flag (by decide) _ _
    have hs (rest : List String) :
        Request.ofOptions { lenient } ((if showPostfix then ["--show-rpn"] else []) ++ rest) =
          Request.ofOptions { lenient, showPostfix } rest := by
      cases showPostfix
      · rfl
      · exact ofOptions_flag (by decide) _ _
    have hn (rest : List String) : Request.ofOptions { lenient, showPostfix }
        ((if noPrompt then ["--no-prompt"] else []) ++ rest) =
          Request.ofOptions { lenient, showPostfix, noPrompt } rest := by
      cases noPrompt
      · rfl
      · exact ofOptions_flag (by decide) _ _
    have hplaces (rest : List String) : Request.ofOptions { lenient, showPostfix, noPrompt }
        (places?.elim [] (fun places => ["--precision", toString places]) ++ rest) =
          Request.ofOptions { lenient, showPostfix, noPrompt, places? } rest := by
      cases places? with
      | none => rfl
      | some places => exact ofOptions_precision rfl (hp places rfl) _
    simp only [options, Request.ofArguments, List.append_assoc, hl, hs, hn, hplaces,
      ofOptions_verbose, Nat.zero_add]

end Invocation

/-! ## The end of a line -/

/-- At the end of a line there are line feeds and carriage returns. -/
theorem exists_withoutLineEnd_append (text : String) :
    ∃ ending, text = withoutLineEnd text ++ ending ∧
      ∀ c ∈ ending.toList, c = '\n' ∨ c = '\r' := by
  refine ⟨String.ofList (text.toList.reverse.takeWhile fun c => c == '\n' || c == '\r').reverse,
    String.toList_injective ?_, fun c hc => ?_⟩
  · rw [withoutLineEnd, String.toList_append, String.toList_ofList, String.toList_ofList,
      ← List.reverse_append, List.takeWhile_append_dropWhile, List.reverse_reverse]
  · rw [String.toList_ofList, List.mem_reverse] at hc
    simpa using List.mem_takeWhile_imp hc

theorem isBlank_withoutLineEnd (text : String) :
    Text.isBlank (withoutLineEnd text) = Text.isBlank text := by
  obtain ⟨ending, heq, he⟩ := exists_withoutLineEnd_append text
  have hb : ending.toList.all Text.isBlankChar = true := by
    rw [List.all_eq_true]
    intro c hc
    obtain rfl | rfl := he c hc <;> rfl
  conv_rhs => rw [heq]
  rw [Text.isBlank, Text.isBlank, String.toList_append, List.all_append, hb, Bool.and_true]

theorem Token.ofString_withoutLineEnd (text : String) :
    ofString (withoutLineEnd text) = ofString text := by
  obtain ⟨ending, heq, he⟩ := exists_withoutLineEnd_append text
  have hd : significant ending.toList = [] := by
    unfold significant
    rw [List.filter_eq_nil_iff]
    intro c hc
    obtain rfl | rfl := he c hc <;> decide
  apply ofString_congr
  conv_rhs => rw [heq]
  rw [String.toList_append, significant_append, hd, List.append_nil]

namespace Settings

variable (settings : Settings) (expression : String)

theorem order_withoutLineEnd :
    settings.order (withoutLineEnd expression) = settings.order expression := by
  rw [order, order, Token.ofString_withoutLineEnd]

theorem solve_withoutLineEnd :
    settings.solve (withoutLineEnd expression) = settings.solve expression := by
  rw [solve, solve, order_withoutLineEnd]

end Settings

/-! ## The two ways to give an expression -/

namespace Invocation

open Transcript

variable {i : Invocation} {options : List String}

/-- An expression behind `--` is solved. -/
theorem AskedBy.run_append (h : i.AskedBy options) (expression : String) (input : List UInt8) :
    (Request.ofArguments (options ++ ["--", expression])).run input =
      i.runExpression expression := by
  obtain ⟨hn, ha, he⟩ := h
  rw [Request.ofArguments, Request.ofOptions_append hn ha, Request.ofExpressions, addExpression?, he]
  rfl

/-- Without an expression there is a session. -/
theorem AskedBy.run (h : i.AskedBy options) (input : List UInt8) :
    (Request.ofArguments options).run input = i.runSession input := by
  obtain ⟨-, ha, he⟩ := h
  rw [ha, Request.run, he]

/-- A line that is neither blank nor `exit` is the only expression of its text. -/
theorem expressions_line {expression : String} (hl : '\n' ∉ expression.toList)
    (hb : Text.isBlank expression = false) (hexit : withoutLineEnd expression ≠ "exit") :
    Text.expressions (expression ++ "\n") = [withoutLineEnd expression] := by
  have hs : (expression ++ "\n").toList.splitOn '\n' = [expression.toList, []] := by
    rw [String.toList_append]
    exact List.splitOn_append_cons_self_of_not_mem hl []
  have hne : (withoutLineEnd expression == "exit") = false := by simpa using hexit
  have hnil : withoutLineEnd (String.ofList []) = "" := rfl
  rw [Text.expressions, hs, List.map_cons, List.map_singleton, String.ofList_toList, hnil,
    Text.answered_cons, hne, isBlank_withoutLineEnd, hb]
  rfl

theorem writtenOn_runSession (i : Invocation) {expression : String} (hl : '\n' ∉ expression.toList)
    (hb : Text.isBlank expression = false) (hexit : withoutLineEnd expression ≠ "exit") :
    Text.WrittenOn ((i.session false).answerLines expression)
        (i.runSession (Text.bytes (expression ++ "\n"))).output ∧
      (i.runSession (Text.bytes (expression ++ "\n"))).exitCode = 0 := by
  have hw := Session.writtenOn_output (s := i.session false) rfl (expression ++ "\n")
  have hlines : (i.session false).answerLines (withoutLineEnd expression) =
      (i.session false).answerLines expression := by
    simp only [Session.answerLines, Session.linesBefore, Settings.answerLine,
      Settings.postfixLines, Settings.order_withoutLineEnd, Settings.solve_withoutLineEnd]
  rw [expressions_line hl hb hexit, List.flatMap_singleton, hlines] at hw
  have hending := (expressions_ofBytes (expression ++ "\n")).2
  unfold runSession
  dsimp only
  split
  · next heq => exact absurd heq hending
  · exact ⟨hw, rfl⟩

/-- What is reported about an expression that has no value. -/
def failureMessage (i : Invocation) (expression : String) (err : SolveError) : String :=
  match i.showPostfix, i.settings.order expression with
  | true, .error _ => "Error: " ++ err.message
  | _, _ => "Error: failed to evaluate '" ++ expression ++ "': " ++ err.message

theorem runExpression_of_solve_ok {expression : String} {x : Float}
    (h : i.settings.solve expression = .ok x) :
    (i.runExpression expression).exitCode = 0 ∧
      (i.runExpression expression).output = (i.session false).answer expression ∧
      (i.runExpression expression).message? = none := by
  obtain ⟨tokens, -, ho, -, -⟩ := Settings.solve_eq_ok_iff.mp h
  unfold runExpression
  rw [h, ho]
  cases i.showPostfix <;> exact ⟨rfl, rfl, rfl⟩

theorem runExpression_of_solve_error {expression : String} {err : SolveError}
    (h : i.settings.solve expression = .error err) :
    (i.runExpression expression).exitCode = 1 ∧
      (i.runExpression expression).output = (i.session false).postfixLine expression ∧
      (i.runExpression expression).message? = some (i.failureMessage expression err) := by
  unfold runExpression failureMessage
  rw [h]
  cases hs : i.showPostfix with
  | false => exact ⟨rfl, rfl, rfl⟩
  | true =>
    cases ho : i.settings.order expression with
    | ok tokens => exact ⟨rfl, rfl, rfl⟩
    | error err' =>
      have hp : (i.session false).postfixLine expression = "" := by
        simp only [Session.postfixLine, session, hs, ho, if_true]
      rw [Settings.solve_of_order_error ho] at h
      cases h
      exact ⟨rfl, hp.symm, rfl⟩

/-- **The two ways to give an expression agree.** A value is written alike. Without a value the
expression behind `--` fails: its answer is missing from what is written, and stands in the report
instead. -/
theorem run_expression {i : Invocation} (he : i.expression? = none)
    (hp : ∀ places ∈ i.places?, places ≤ 17) {expression : String}
    (hl : '\n' ∉ expression.toList) (hb : Text.isBlank expression = false)
    (hexit : withoutLineEnd expression ≠ "exit") :
    (∃ options, i.AskedBy options) ∧ ∀ options, i.AskedBy options → ∀ input,
      let once := (Request.ofArguments (options ++ ["--", expression])).run input
      let session := (Request.ofArguments options).run (Text.bytes (expression ++ "\n"))
      session.exitCode = 0 ∧
      match i.settings.solve expression with
      | .ok _ => once.exitCode = 0 ∧ once.output = session.output ∧ once.message? = none
      | .error err => once.exitCode = 1 ∧
          (∃ lines, Text.WrittenOn lines once.output ∧
            Text.WrittenOn (lines ++ ["error: " ++ err.message]) session.output) ∧
          once.message? = some (i.failureMessage expression err) := by
  refine ⟨⟨i.options, askedBy_options he hp⟩, fun options h input => ?_⟩
  obtain ⟨hw, hcode⟩ := i.writtenOn_runSession hl hb hexit
  rw [h.run_append, h.run]
  refine ⟨hcode, ?_⟩
  cases hsolve : i.settings.solve expression with
  | ok x =>
    obtain ⟨hc, ho, hm⟩ := runExpression_of_solve_ok hsolve
    refine ⟨hc, ?_, hm⟩
    rw [ho, hw.1, Session.answer_eq_join]
  | error err =>
    obtain ⟨hc, ho, hm⟩ := runExpression_of_solve_error hsolve
    have hanswer : i.settings.answerLine expression = "error: " ++ err.message := by
      rw [Settings.answerLine, hsolve]
    refine ⟨hc, ⟨(i.session false).linesBefore expression, ⟨?_, ?_⟩, ?_⟩, hm⟩
    · rw [ho, Session.postfixLine_eq_join]
    · exact fun line hm => (Session.plain_linesBefore _ _ line hm).not_breaksLine
    · rw [← hanswer]
      exact hw

/-- A division by zero is reported with its expression, the carriage return behind it included. -/
theorem run_one_over_zero :
    let once := (Request.ofArguments
      ["--lenient", "--show-rpn", "--precision", "3", "--", "1/0\r"]).run []
    once.exitCode = 1 ∧ once.message? =
      some "Error: failed to evaluate '1/0\r': undefined result: division by zero" := by
  let i : Invocation := { lenient := true, showPostfix := true, places? := some 3 }
  have hasked : i.AskedBy ["--lenient", "--show-rpn", "--precision", "3"] :=
    ⟨by decide, by decide +kernel, rfl⟩
  have hsolve : i.settings.solve "1/0\r" = .error (.evaluation (.arithmetic .divisionByZero)) := rfl
  have hmessage : i.failureMessage "1/0\r" (.evaluation (.arithmetic .divisionByZero)) =
      "Error: failed to evaluate '1/0\r': undefined result: division by zero" := rfl
  have hline : '\n' ∉ "1/0\r".toList := by decide
  have h := ((run_expression (i := i) rfl (by decide) hline (by decide) (by decide)).2 _ hasked []).2
  rw [hsolve] at h
  rw [← hmessage]
  exact ⟨h.1, h.2.2⟩

end Invocation

end Calculator
