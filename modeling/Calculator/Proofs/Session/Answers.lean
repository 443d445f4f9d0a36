import Mathlib
import Calculator.Proofs.Session.Append
import Calculator.Proofs.Solver.Displayed
import Calculator.Proofs.Text.Plain

/-!
# Answers line by line

A session answers each expression of its input with one line. Showing the postfix order puts a line
in front of an answer and changes nothing else.

* `Text.expressions`, `Transcript.expressions_ofBytes`: the expressions of an input.
* `Text.WrittenOn`, `Text.withoutLines`: texts made of lines, and what is left without some lines.
* `Settings.answerLine`, `Settings.postfixLines`: the lines about an expression;
  `Settings.plain_answerLine`, `Settings.plain_postfixLines`: no line breaks in them.
* **`Session.output_lines`**: what a session without a prompt writes, with the postfix order and
  without.
-/

namespace Calculator

namespace Text

/-- The lines in front of the first `exit` that are not blank. -/
def answered (lines : List String) : List String :=
  (lines.takeWhile (· != "exit")).filter (!isBlank ·)

theorem answered_cons (line : String) (rest : List String) : answered (line :: rest) =
    if line == "exit" then [] else if isBlank line then answered rest
    else line :: answered rest := by
  rw [answered, List.takeWhile_cons, bne]
  cases hexit : line == "exit" with
  | true => rfl
  | false => cases hblank : isBlank line <;> simp [hblank, answered, bne]

/-- The expressions of a text: the answered ones of its lines, each without its end. -/
def expressions (text : String) : List String :=
  answered ((text.toList.splitOn '\n').map fun line => withoutLineEnd (String.ofList line))

/-- The text is made of these lines: each has its end, and none has a line break before that. -/
def WrittenOn (lines : List String) (text : String) : Prop :=
  text = String.join (lines.map (· ++ "\n")) ∧
    ∀ line ∈ lines, ∀ c ∈ line.toList, breaksLine c = false

/-- A text without its lines that begin with `start`. -/
def withoutLines (start text : String) : String :=
  String.ofList (['\n'].intercalate
    ((text.toList.splitOn '\n').filter fun line => !start.toList.isPrefixOf line))

theorem intercalate_lines (lines : List String) :
    ['\n'].intercalate (lines.map String.toList ++ [[]]) =
      (String.join (lines.map (· ++ "\n"))).toList := by
  induction lines with
  | nil => rfl
  | cons line rest ih =>
    rw [List.map_cons, List.cons_append, List.intercalate_cons_of_ne_nil (by simp), ih]
    simp

theorem WrittenOn.splitOn_eq {lines : List String} {text : String} (h : WrittenOn lines text) :
    text.toList.splitOn '\n' = lines.map String.toList ++ [[]] := by
  obtain ⟨rfl, hl⟩ := h
  rw [← intercalate_lines, List.splitOn_intercalate]
  · rw [List.forall_mem_append, List.forall_mem_map]
    exact ⟨fun line hm hn => Bool.false_ne_true (hl line hm _ hn).symm, by simp⟩
  · simp

/-- **To leave out lines of a text is to leave them out of the list of its lines.** -/
theorem WrittenOn.withoutLines_eq {lines : List String} {text start : String}
    (h : WrittenOn lines text) (hs : start.toList.isPrefixOf [] = false) :
    withoutLines start text =
      String.join ((lines.filter fun line => !start.toList.isPrefixOf line.toList).map
        (· ++ "\n")) := by
  have hkeep : [([] : List Char)].filter (fun line => !start.toList.isPrefixOf line) = [[]] := by
    simp [hs]
  have hmap : (lines.map String.toList).filter (fun line => !start.toList.isPrefixOf line) =
      (lines.filter fun line => !start.toList.isPrefixOf line.toList).map String.toList :=
    List.filter_map
  rw [withoutLines, h.splitOn_eq, List.filter_append, hkeep, hmap, intercalate_lines,
    String.ofList_toList]

end Text

/-! ## What a session reads -/

namespace Transcript

/-- A line is an expression of the session unless it is blank or ends the session. -/
theorem expressions_ofLines (line : String) {rest : List (List UInt8)} {later : List String}
    (h : (ofLines rest).lines.filterMap id = Text.answered later ∧
      (ofLines rest).ending ≠ .invalidText) :
    (ofLines (Text.bytes line :: rest)).lines.filterMap id =
        Text.answered (withoutLineEnd line :: later) ∧
      (ofLines (Text.bytes line :: rest)).ending ≠ .invalidText := by
  obtain ⟨hlines, hending⟩ := h
  rw [ofLines, Entry.ofLine_bytes, Text.answered_cons]
  split_ifs with hexit hblank
  · exact ⟨rfl, by simp⟩
  · exact ⟨hlines, hending⟩
  · exact ⟨congrArg (withoutLineEnd line :: ·) hlines, hending⟩

/-- **A session reads the expressions of its input** and ends as it should. -/
theorem expressions_ofBytes (text : String) :
    (ofBytes (Text.bytes text)).lines.filterMap id = Text.expressions text ∧
      (ofBytes (Text.bytes text)).ending ≠ .invalidText := by
  rw [Text.expressions]
  obtain ⟨text, rfl⟩ : ∃ chars, text = String.ofList chars := ⟨text.toList, by simp⟩
  rw [String.toList_ofList]
  induction text using Text.lines_induction with
  | last line hl =>
    have hn : 10 ∉ Text.bytes (String.ofList line) := by
      rwa [Text.newline_mem_bytes, String.toList_ofList]
    obtain ⟨hf, hm⟩ := firstLine_of_not_mem hn
    rw [List.splitOn_eq_singleton hl]
    cases line with
    | nil => exact ⟨rfl, nofun⟩
    | cons c rest =>
      rw [ofBytes_of_ne_nil (by simp [Text.bytes_eq_flatMap]), hf, hm]
      exact expressions_ofLines _ ⟨rfl, nofun⟩
  | cons line rest hl ih =>
    have hs : String.ofList (line ++ '\n' :: rest) =
        String.ofList (line ++ ['\n']) ++ String.ofList rest := by
      rw [← String.ofList_append, List.append_assoc, List.singleton_append]
    rw [List.splitOn_append_cons_self_of_not_mem hl, hs, Text.bytes_append, ofBytes_line hl,
      List.map_cons, ← withoutLineEnd_append_newline]
    exact expressions_ofLines _ ih

example : (ofBytes (Text.bytes "1+2\r\n \n exit\nexit\n3")).lines.filterMap id = ["1+2", " exit"] := by
  decide +kernel

end Transcript

/-! ## Lines about an expression -/

namespace Settings

/-- The line that answers an expression. -/
def answerLine (settings : Settings) (expression : String) : String :=
  match settings.solve expression with
  | .ok x => Decimal.Style.result.write x
  | .error e => "error: " ++ e.message

/-- The line with the postfix order of an expression, if there is one. -/
def postfixLines (settings : Settings) (expression : String) : List String :=
  match settings.order expression with
  | .ok tokens => ["rpn: " ++ Token.display tokens]
  | .error _ => []

variable (settings : Settings) (expression : String)

theorem plain_answerLine : Text.Plain (settings.answerLine expression) := by
  unfold answerLine
  cases h : settings.solve expression with
  | ok x => exact Text.plain_result x
  | error e =>
    exact Text.plain_append (by decide)
      (Text.plain_message (fun _ => Token.lexical_of_mem_ofString) (reason_of_solve h))

theorem plain_postfixLines : ∀ line ∈ settings.postfixLines expression, Text.Plain line := by
  unfold postfixLines
  cases h : settings.order expression with
  | error e => simp
  | ok tokens =>
    rw [List.forall_mem_singleton]
    exact Text.plain_append (by decide) (Text.plain_display (lexical_of_order h))

/-- No answer looks like a line with a postfix order. -/
theorem not_isPrefixOf_answerLine :
    "rpn: ".toList.isPrefixOf (settings.answerLine expression).toList = false := by
  have hhead {line : List Char} (h : line.head? ≠ some 'r') :
      "rpn: ".toList.isPrefixOf line = false := by
    cases line with
    | nil => rfl
    | cons c rest =>
      have hc : ('r' == c) = false := by
        rw [beq_eq_false_iff_ne]
        rintro rfl
        exact h rfl
      change ('r' == c && "pn: ".toList.isPrefixOf rest) = false
      rw [hc, Bool.false_and]
  unfold answerLine
  cases settings.solve expression with
  | ok x =>
    refine hhead fun h => ?_
    have hn := Decimal.Style.write_numeral Decimal.isRun_wholeSuffix_result x 'r'
      (List.mem_of_head? h)
    cases hn
  | error e =>
    refine hhead ?_
    rw [String.toList_append]
    exact (by decide : some 'e' ≠ some 'r')

theorem isPrefixOf_postfixLines : ∀ line ∈ settings.postfixLines expression,
    "rpn: ".toList.isPrefixOf line.toList = true := by
  unfold postfixLines
  cases settings.order expression with
  | error e => simp
  | ok tokens =>
    rw [List.forall_mem_singleton, String.toList_append, List.isPrefixOf_iff_prefix]
    exact List.prefix_append _ _

/-- Of the lines about an expression only the answer looks like one. -/
theorem filter_postfixLines_append :
    (settings.postfixLines expression ++ [settings.answerLine expression]).filter
      (fun line => !"rpn: ".toList.isPrefixOf line.toList) = [settings.answerLine expression] := by
  rw [List.filter_append, List.filter_eq_nil_iff.mpr, List.nil_append, List.filter_singleton,
    not_isPrefixOf_answerLine]
  · rfl
  · intro line hl
    rw [settings.isPrefixOf_postfixLines expression line hl]
    exact Bool.false_ne_true

end Settings

namespace Session

open Transcript

/-- The lines in front of the answer to an expression. -/
def linesBefore (s : Session) (expression : String) : List String :=
  if s.showPostfix then s.settings.postfixLines expression else []

/-- What is written about one expression, line by line. -/
def answerLines (s : Session) (expression : String) : List String :=
  s.linesBefore expression ++ [s.settings.answerLine expression]

theorem postfixLine_eq_join (s : Session) (expression : String) :
    s.postfixLine expression = String.join ((s.linesBefore expression).map (· ++ "\n")) := by
  unfold postfixLine linesBefore Settings.postfixLines
  split_ifs
  · cases s.settings.order expression <;> simp
  · rfl

theorem answer_eq_join (s : Session) (expression : String) :
    s.answer expression = String.join ((s.answerLines expression).map (· ++ "\n")) := by
  have hresult : s.resultLine expression = s.settings.answerLine expression ++ "\n" := by
    unfold resultLine Settings.answerLine
    cases s.settings.solve expression <;> rfl
  rw [answer, postfixLine_eq_join, hresult, answerLines, List.map_append, String.join_append]
  simp

theorem plain_linesBefore (s : Session) (expression : String) :
    ∀ line ∈ s.linesBefore expression, Text.Plain line := by
  unfold linesBefore
  split_ifs
  · exact Settings.plain_postfixLines _ _
  · simp

theorem plain_answerLines (s : Session) (expression : String) :
    ∀ line ∈ s.answerLines expression, Text.Plain line := by
  unfold answerLines
  rw [List.forall_mem_append, List.forall_mem_singleton]
  exact ⟨plain_linesBefore _ _, Settings.plain_answerLine _ _⟩

/-- A session without a prompt writes the lines about each of the expressions that it reads. -/
theorem writtenOn_output {s : Session} (hp : s.prompt = false) (text : String) :
    Text.WrittenOn ((Text.expressions text).flatMap s.answerLines)
      (s.output (ofBytes (Text.bytes text))) := by
  have hnone : s.promptText = "" := by rw [promptText, hp]; rfl
  have hjoin (lines : List (Option String)) :
      String.join (lines.map fun line => "" ++ line.elim "" s.answer) =
        String.join (((lines.filterMap id).flatMap s.answerLines).map (· ++ "\n")) := by
    induction lines with
    | nil => rfl
    | cons line rest ih =>
      cases line with
      | none => simpa using ih
      | some expression => simp_all [answer_eq_join]
  constructor
  · rw [output, hnone, hjoin, (expressions_ofBytes text).1, String.append_empty]
  · intro line hl
    obtain ⟨expression, -, hm⟩ := List.mem_flatMap.mp hl
    exact (s.plain_answerLines expression line hm).not_breaksLine

/-- **A session without a prompt** writes one line for each expression. With the postfix order it
writes the same and a line in front of each answer to an expression that has one, so without these
lines it is the same text. -/
theorem output_lines (settings : Settings) (text : String) :
    let read := ofBytes (Text.bytes text)
    let plain : Session := { settings }
    let shown : Session := { settings, showPostfix := true }
    read.ending ≠ .invalidText ∧
    Text.WrittenOn ((Text.expressions text).map settings.answerLine) (plain.output read) ∧
    Text.WrittenOn ((Text.expressions text).flatMap fun expression =>
      settings.postfixLines expression ++ [settings.answerLine expression]) (shown.output read) ∧
    Text.withoutLines "rpn: " (shown.output read) = plain.output read := by
  have hplain := writtenOn_output (s := { settings }) rfl text
  have hshown := writtenOn_output (s := { settings, showPostfix := true }) rfl text
  have hmap : (Text.expressions text).flatMap ({ settings } : Session).answerLines =
      (Text.expressions text).map settings.answerLine := List.map_eq_flatMap.symm
  rw [hmap] at hplain
  refine ⟨(expressions_ofBytes text).2, hplain, hshown, ?_⟩
  rw [hshown.withoutLines_eq rfl, hplain.1]
  change String.join (List.map _ (((Text.expressions text).flatMap fun expression =>
    settings.postfixLines expression ++ [settings.answerLine expression]).filter _)) = _
  rw [List.filter_flatMap, List.flatMap_congr fun expression _ =>
    settings.filter_postfixLines_append expression,
    List.map_eq_flatMap (f := settings.answerLine)]

end Session

end Calculator
