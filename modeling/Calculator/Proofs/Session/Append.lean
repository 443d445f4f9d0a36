import Mathlib
import Calculator.Proofs.Text.Lines

/-!
# Sessions one after the other

What a session reads and writes is put together from its lines, and no line has an influence on
another one. So a session on two inputs is a session on the first and then one on the second.

* `Transcript.behind`, `Transcript.exists_ofBytes_line`, **`Transcript.exists_ofBytes_append`**:
  whole lines that end no session are read on their own.
* `Transcript.ofBytes_of_exit`, `Transcript.ofBytes_of_invalid`: the lines that end a session.
* **`Session.output_append`**: what a session writes on two inputs, and how it ends.
-/

namespace Calculator

namespace Transcript

/-- The transcript of a session that read other lines before. -/
def behind (before : List (Option String)) (t : Transcript) : Transcript :=
  ⟨before ++ t.lines, t.ending⟩

theorem ofBytes_of_ne_nil {input : List UInt8} (h : input ≠ []) :
    ofBytes input = ofLines (firstLine input :: splitLines (laterLines input)) := by
  rw [ofBytes, splitLines_of_ne_nil h]

theorem ne_nil_of_firstLine {input : List UInt8} (h : Entry.ofLine (firstLine input) ≠ .blank) :
    input ≠ [] := by
  rintro rfl
  exact h rfl

/-- A session ends with the line that asks for it, whatever follows. -/
theorem ofBytes_of_exit {input : List UInt8} (h : Entry.ofLine (firstLine input) = .exit) :
    ofBytes input = ⟨[], .exit⟩ := by
  have hn : input ≠ [] := ne_nil_of_firstLine (by simp [h])
  rw [ofBytes_of_ne_nil hn, ofLines, h]

/-- A session breaks off at a line that is no text. -/
theorem ofBytes_of_invalid {input : List UInt8} (h : Entry.ofLine (firstLine input) = .invalid) :
    ofBytes input = ⟨[], .invalidText⟩ := by
  have hn : input ≠ [] := ne_nil_of_firstLine (by simp [h])
  rw [ofBytes_of_ne_nil hn, ofLines, h]

/-- Read byte by byte, a line ends with the line feed that ends it as a text. -/
theorem ofBytes_line {line : List Char} (hl : '\n' ∉ line) (more : List UInt8) :
    ofBytes (Text.bytes (String.ofList (line ++ ['\n'])) ++ more) =
      ofLines (Text.bytes (String.ofList (line ++ ['\n'])) :: splitLines more) := by
  have hb : Text.bytes (String.ofList (line ++ ['\n'])) = Text.bytes (String.ofList line) ++ [10] := by
    rw [String.ofList_append, Text.bytes_append]
    rfl
  have hn : 10 ∉ Text.bytes (String.ofList line) := by
    rwa [Text.newline_mem_bytes, String.toList_ofList]
  have hs : Text.bytes (String.ofList (line ++ ['\n'])) ++ more =
      Text.bytes (String.ofList line) ++ 10 :: more := by
    rw [hb, List.append_assoc, List.singleton_append]
  obtain ⟨hf, hm⟩ := firstLine_append hn more
  rw [hs, ofBytes_of_ne_nil (by simp), hf, hm, hb]

/-- **A line that ends no session is read on its own.** -/
theorem exists_ofBytes_line {line : List Char} (hl : '\n' ∉ line)
    (hexit : withoutLineEnd (String.ofList line) ≠ "exit") :
    ∃ entry, ∀ more, ofBytes (Text.bytes (String.ofList (line ++ ['\n'])) ++ more) =
      (ofBytes more).behind [entry] := by
  have hne : (withoutLineEnd (String.ofList line) == "exit") = false := by simpa using hexit
  cases hblank : Text.isBlank (withoutLineEnd (String.ofList line)) with
  | true =>
    refine ⟨none, fun more => ?_⟩
    rw [ofBytes_line hl, ofLines, Entry.ofLine_bytes, withoutLineEnd_append_newline, hne, hblank]
    rfl
  | false =>
    refine ⟨some (withoutLineEnd (String.ofList line)), fun more => ?_⟩
    rw [ofBytes_line hl, ofLines, Entry.ofLine_bytes, withoutLineEnd_append_newline, hne, hblank]
    rfl

/-- **Whole lines that end no session are read on their own.** -/
theorem exists_ofBytes_append {text : List Char} (h : Text.Ended text)
    (hexit : ∀ line ∈ text.splitOn '\n', withoutLineEnd (String.ofList line) ≠ "exit") :
    ∃ before, ∀ more, ofBytes (Text.bytes (String.ofList text) ++ more) =
      (ofBytes more).behind before := by
  induction h with
  | nil => exact ⟨[], fun more => rfl⟩
  | @line line rest hl _ ih =>
    rw [List.splitOn_append_cons_self_of_not_mem hl rest, List.forall_mem_cons] at hexit
    obtain ⟨entry, hentry⟩ := exists_ofBytes_line hl hexit.1
    obtain ⟨before, hbefore⟩ := ih hexit.2
    refine ⟨entry :: before, fun more => ?_⟩
    have hs : String.ofList (line ++ '\n' :: rest) =
        String.ofList (line ++ ['\n']) ++ String.ofList rest := by
      rw [← String.ofList_append, List.append_assoc, List.singleton_append]
    rw [hs, Text.bytes_append, List.append_assoc, hentry, hbefore]
    rfl

end Transcript

namespace Session

open Transcript

/-- What is written until the given lines are answered. -/
def written (s : Session) (lines : List (Option String)) : String :=
  String.join (lines.map fun line => s.promptText ++ line.elim "" s.answer)

theorem output_eq (s : Session) (t : Transcript) :
    s.output t = s.written t.lines ++ s.promptText := rfl

theorem output_behind (s : Session) (before : List (Option String)) (t : Transcript) :
    s.output (t.behind before) = s.written before ++ s.output t := by
  have hw : s.written (before ++ t.lines) = s.written before ++ s.written t.lines := by
    simp [written]
  rw [output_eq, output_eq, behind, hw, String.append_assoc]

/-- **A session on two inputs.** If the first consists of whole lines that do not end the session,
the lines of the second are answered and the session ends as if there had been no others before
them. A line that ends a session hides all that follows, and behind a line that is no text only the
prompt in front of it is written. -/
theorem output_append (s : Session) {text : String}
    (hend : text = "" ∨ text.toList.getLast? = some '\n')
    (hexit : ∀ line ∈ text.toList.splitOn '\n', withoutLineEnd (String.ofList line) ≠ "exit") :
    ∃ body, s.output (ofBytes (Text.bytes text)) = body ++ s.promptText ∧
      (∀ more, s.output (ofBytes (Text.bytes text ++ more)) = body ++ s.output (ofBytes more) ∧
        (ofBytes (Text.bytes text ++ more)).ending = (ofBytes more).ending) ∧
      (∀ more line, Text.bytes line = firstLine more → withoutLineEnd line = "exit" →
        s.output (ofBytes (Text.bytes text ++ more)) = s.output (ofBytes (Text.bytes text)) ∧
          (ofBytes (Text.bytes text ++ more)).ending = .exit) ∧
      (∀ more, (∀ line, Text.bytes line ≠ firstLine more) →
        s.output (ofBytes more) = s.promptText ∧ (ofBytes more).ending = .invalidText ∧
          s.output (ofBytes (Text.bytes text ++ more)) = s.output (ofBytes (Text.bytes text))) := by
  have hlines : text.toList = [] ∨ text.toList.getLast? = some '\n' := hend.imp_left (by simp)
  obtain ⟨before, hbefore⟩ := exists_ofBytes_append (Text.ended_of_getLast? hlines) hexit
  rw [String.ofList_toList] at hbefore
  have hnil : s.output (ofBytes (Text.bytes text)) = s.written before ++ s.promptText := by
    have h := hbefore []
    rw [List.append_nil] at h
    rw [h, output_behind]
    rfl
  refine ⟨s.written before, hnil, fun more => ?_, fun more line hb he => ?_, fun more hn => ?_⟩
  · rw [hbefore, output_behind]
    exact ⟨rfl, rfl⟩
  · have hm := ofBytes_of_exit (Entry.ofLine_eq_exit_iff.mpr ⟨line, hb, he⟩)
    rw [hnil, hbefore, output_behind, hm]
    exact ⟨rfl, rfl⟩
  · have hm := ofBytes_of_invalid (Entry.ofLine_eq_invalid_iff.mpr hn)
    rw [hnil, hbefore, output_behind, hm]
    exact ⟨rfl, rfl, rfl⟩

/-- Behind a line that is answered, a blank one and one that only looks like `exit`, a session goes
on; it ends with `exit` in front of bytes that are no text, and breaks off at those. -/
theorem output_append_one_plus_two : ∃ body,
    ({ prompt := true } : Session).output (ofBytes (Text.bytes "1+2\r\n\n exit\n")) =
      body ++ "> " ∧
    ({ prompt := true } : Session).output
      (ofBytes (Text.bytes "1+2\r\n\n exit\n" ++ (Text.bytes "exit\r\n" ++ [255]))) =
      body ++ "> " ∧
    ({ prompt := true } : Session).output
      (ofBytes (Text.bytes "1+2\r\n\n exit\n" ++ [255, 10])) = body ++ "> " := by
  have hexit : ∀ line ∈ "1+2\r\n\n exit\n".toList.splitOn '\n',
      withoutLineEnd (String.ofList line) ≠ "exit" := by decide +kernel
  have hend : "1+2\r\n\n exit\n".toList.getLast? = some '\n' := rfl
  obtain ⟨body, hbody, -, hex, hinv⟩ := output_append { prompt := true } (.inr hend) hexit
  have h255 : ∀ line, Text.bytes line ≠ firstLine [255, 10] :=
    Entry.ofLine_eq_invalid_iff.mp (by decide +kernel)
  have hx := hex (Text.bytes "exit\r\n" ++ [255]) "exit\r\n" (by decide +kernel) (by decide +kernel)
  refine ⟨body, hbody, ?_, ?_⟩
  · rw [hx.1, hbody]
    rfl
  · rw [(hinv [255, 10] h255).2.2, hbody]
    rfl

end Session

end Calculator
