import Mathlib
import Calculator.Proofs.Token.Lexing

/-!
# The tokens of a text are its longest runs

A text is cut into tokens in one way only: into runs of digits and points and runs of letters, as
long as they get, and the marks between them.

* `isSignificant`, `Glyph.ofChar_eq_digit_iff`, `Glyph.ofChar_eq_letter_iff`,
  `Glyph.ofChar_eq_dropped_iff`: the characters of each kind.
* `Token.Lexing`: the token lists that a text can be cut into.
* `Token.exists_separate`: there is one, found from the end of the text to its start.
* **`Token.ofString_longest_runs`**: there is no other, and dropped characters do not matter.
* `Token.ofString_append_mark`, `Token.count_ofString`: a mark cuts the text, and each mark is a
  token.
-/

namespace Calculator

/-! ## Kinds of characters -/

/-- Whether a character is part of a token: ASCII digits and points, letters, parentheses and the
symbols of the operators are. -/
def isSignificant (c : Char) : Bool :=
  c.isDigit || c == '.' || Text.isLetter c || "()+-*/%^".toList.contains c

theorem Operator.ofSymbol?_eq_none_iff {c : Char} :
    ofSymbol? c = none ↔ "+-*/%^".toList.contains c = false := by
  unfold ofSymbol?
  split <;> simp_all

namespace Glyph

/-- Digits and points are no letters. -/
theorem isLetter_of_isDigit {c : Char} (h : c.isDigit = true ∨ c = '.') :
    Text.isLetter c = false := by
  obtain hd | rfl := h
  · have hle : 48 ≤ c.toNat ∧ c.toNat ≤ 57 := by
      simpa [Char.isDigit, UInt32.le_iff_toNat_le] using hd
    rw [Text.isLetter_of_lt (by omega), Bool.eq_false_iff]
    simp only [Char.isAlpha, Char.isUpper, Char.isLower, UInt32.le_iff_toNat_le, ge_iff_le,
      ne_eq, Bool.or_eq_true, Bool.and_eq_true, decide_eq_true_eq]
    change ¬ (65 ≤ c.toNat ∧ c.toNat ≤ 90 ∨ 97 ≤ c.toNat ∧ c.toNat ≤ 122)
    omega
  · decide

theorem ofChar_eq_digit_iff {c : Char} : ofChar c = .digit ↔ c.isDigit = true ∨ c = '.' := by
  unfold ofChar
  split_ifs with hd hl ho hc
  · simpa using hd
  · simpa using hd
  · simpa using hd
  · simpa using hd
  · cases Operator.ofSymbol? c <;> simpa using hd

theorem ofChar_eq_letter_iff {c : Char} : ofChar c = .letter ↔ Text.isLetter c = true := by
  unfold ofChar
  split_ifs with hd hl ho hc
  · have hn := isLetter_of_isDigit (c := c) (by simpa using hd)
    simp [hn]
  · simp [hl]
  · simp [hl]
  · simp [hl]
  · cases Operator.ofSymbol? c <;> simp [hl]

theorem ofChar_eq_dropped_iff {c : Char} : ofChar c = .dropped ↔ isSignificant c = false := by
  unfold ofChar isSignificant
  split_ifs with hd hl ho hc
  · simp [hd]
  · simp [hl]
  · simp_all
  · simp_all
  · have hs := Operator.ofSymbol?_eq_none_iff (c := c)
    cases h : Operator.ofSymbol? c <;> simp_all

/-- The marks are the parentheses and the operators. -/
theorem mark_cases {c : Char} {t : Token} (h : ofChar c = .mark t) :
    c = '(' ∧ t = .opening ∨ c = ')' ∧ t = .closing ∨
      ∃ o : Operator, c = o.symbol ∧ t = .operator o := by
  unfold ofChar at h
  split_ifs at h with hd hl ho hc
  · cases h
    exact .inl ⟨by simpa using ho, rfl⟩
  · cases h
    exact .inr (.inl ⟨by simpa using hc, rfl⟩)
  · cases hs : Operator.ofSymbol? c with
    | none =>
      rw [hs] at h
      cases h
    | some o =>
      rw [hs] at h
      cases h
      exact .inr (.inr ⟨o, (Operator.ofSymbol?_eq_some_iff.mp hs).symm, rfl⟩)

theorem toList_text_of_mark {c : Char} {t : Token} (h : ofChar c = .mark t) :
    t.text.toList = [c] := by
  obtain ⟨rfl, rfl⟩ | ⟨rfl, rfl⟩ | ⟨o, rfl, rfl⟩ := mark_cases h
  · rfl
  · rfl
  · exact String.toList_singleton o.symbol

theorem lexical_of_mark {c : Char} {t : Token} (h : ofChar c = .mark t) : t.Lexical := by
  obtain ⟨rfl, rfl⟩ | ⟨rfl, rfl⟩ | ⟨o, rfl, rfl⟩ := mark_cases h
  · trivial
  · trivial
  · trivial

theorem joins_mark {c : Char} {t : Token} (h : ofChar c = .mark t) (u : Token) :
    t.joins u = false ∧ u.joins t = false := by
  obtain ⟨rfl, rfl⟩ | ⟨rfl, rfl⟩ | ⟨o, rfl, rfl⟩ := mark_cases h
  · cases u <;> exact ⟨rfl, rfl⟩
  · cases u <;> exact ⟨rfl, rfl⟩
  · cases u <;> exact ⟨rfl, rfl⟩

end Glyph

theorem significant_append (text text' : List Char) :
    significant (text ++ text') = significant text ++ significant text' := List.filter_append ..

theorem significant_eq_filter (text : List Char) :
    significant text = text.filter isSignificant := by
  refine List.filter_congr fun c _ => ?_
  by_cases h : Glyph.ofChar c = .dropped
  · simp [h, Glyph.ofChar_eq_dropped_iff.mp h]
  · have hs : isSignificant c = true := by simpa [Glyph.ofChar_eq_dropped_iff] using h
    simp [h, hs]

namespace Token

theorem lexical_number_iff {text : String} : (number text).Lexical ↔
    text ≠ "" ∧ ∀ c ∈ text.toList, c.isDigit = true ∨ c = '.' := by
  simp only [Lexical, Glyph.ofChar_eq_digit_iff]

theorem lexical_name_iff {text : String} : (name text).Lexical ↔
    text ≠ "" ∧ ∀ c ∈ text.toList, Text.isLetter c = true := by
  simp only [Lexical, Glyph.ofChar_eq_letter_iff]

/-! ## Cutting a text -/

theorem significant_cons_of_dropped {c : Char} (h : Glyph.ofChar c = .dropped) (rest : List Char) :
    significant (c :: rest) = significant rest :=
  List.filter_cons_of_neg (by simpa using h)

theorem significant_cons {c : Char} (h : Glyph.ofChar c ≠ .dropped) (rest : List Char) :
    significant (c :: rest) = c :: significant rest :=
  List.filter_cons_of_pos (by simpa using h)

theorem joins_number_iff {run : String} {u : Token} :
    (number run).joins u = true ↔ ∃ run', u = number run' := by
  cases u <;> simp [joins]

theorem joins_name_iff {run : String} {u : Token} :
    (name run).joins u = true ↔ ∃ run', u = name run' := by
  cases u <;> simp [joins]

/-- A character of a run starts a token of its own unless the run goes on behind it. The two kinds
of runs are the numbers and the names, each made by its `wrap`. -/
theorem exists_separate_cons {c : Char} (wrap : String → Token)
    (hlex : ∀ run, (wrap run).Lexical ↔
      run ≠ "" ∧ ∀ d ∈ run.toList, Glyph.ofChar d = Glyph.ofChar c)
    (htext : ∀ run, (wrap run).text = run)
    (hjoin : ∀ run u, (wrap run).joins u = true ↔ ∃ run', u = wrap run')
    {tokens : List Token} (hl : ∀ t ∈ tokens, t.Lexical) (hs : Separate tokens) :
    ∃ tokens' : List Token, (∀ t ∈ tokens', t.Lexical) ∧ Separate tokens' ∧
      chars tokens' = c :: chars tokens := by
  by_cases hr : ∃ run rest, tokens = wrap run :: rest
  · obtain ⟨run, rest, rfl⟩ := hr
    obtain ⟨hlr, hrest⟩ := List.forall_mem_cons.mp hl
    have hsame (run' : String) (u : Token) : (wrap run').joins u = (wrap run).joins u := by
      rw [Bool.eq_iff_iff, hjoin, hjoin]
    refine ⟨wrap (String.ofList (c :: run.toList)) :: rest, ?_, ?_, ?_⟩
    · refine List.forall_mem_cons.mpr ⟨(hlex _).mpr ⟨by simp, ?_⟩, hrest⟩
      simpa using ((hlex run).mp hlr).2
    · rw [Separate, List.isChain_cons] at hs ⊢
      exact ⟨fun u hu => (hsame _ u).trans (hs.1 u hu), hs.2⟩
    · simp [chars_cons, htext]
  · refine ⟨wrap (String.singleton c) :: tokens, ?_, ?_, ?_⟩
    · exact List.forall_mem_cons.mpr ⟨(hlex _).mpr ⟨by simp, by simp⟩, hl⟩
    · refine hs.cons fun u hu => ?_
      by_contra hj
      obtain ⟨run, rfl⟩ := (hjoin _ u).mp (by simpa using hj)
      obtain ⟨rest, rfl⟩ := List.head?_eq_some_iff.mp hu
      exact hr ⟨run, rest, rfl⟩
    · simp [chars_cons, htext]

/-- A text can be cut into tokens, no two of which would be read as one. -/
theorem exists_separate (text : List Char) : ∃ tokens : List Token, (∀ t ∈ tokens, t.Lexical) ∧
    Separate tokens ∧ chars tokens = significant text := by
  -- From the end to the start, a character can only join the first of the tokens found so far.
  induction text with
  | nil => exact ⟨[], by simp, .nil, rfl⟩
  | cons c rest ih =>
    obtain ⟨tokens, hl, hs, hc⟩ := ih
    cases hg : Glyph.ofChar c with
    | dropped => exact ⟨tokens, hl, hs, by rw [significant_cons_of_dropped hg, hc]⟩
    | mark t =>
      refine ⟨t :: tokens, List.forall_mem_cons.mpr ⟨Glyph.lexical_of_mark hg, hl⟩,
        hs.cons fun u _ => (Glyph.joins_mark hg u).1, ?_⟩
      rw [significant_cons (by simp [hg]), chars_cons, Glyph.toList_text_of_mark hg, hc,
        List.singleton_append]
    | digit =>
      rw [significant_cons (by simp [hg]), ← hc]
      exact exists_separate_cons number (fun run => by rw [hg, Lexical]) (fun _ => rfl)
        (fun _ _ => joins_number_iff) hl hs
    | letter =>
      rw [significant_cons (by simp [hg]), ← hc]
      exact exists_separate_cons name (fun run => by rw [hg, Lexical]) (fun _ => rfl)
        (fun _ _ => joins_name_iff) hl hs

/-- **The tokens of a text** are lexical and separate, and written by its significant characters. -/
theorem ofString_eq_iff {text : String} {tokens : List Token} : ofString text = tokens ↔
    (∀ t ∈ tokens, t.Lexical) ∧ Separate tokens ∧ chars tokens = significant text.toList := by
  constructor
  · rintro rfl
    obtain ⟨tokens, hl, hs, hc⟩ := exists_separate text.toList
    rw [ofString_eq hl hs hc.symm]
    exact ⟨hl, hs, hc⟩
  · rintro ⟨hl, hs, hc⟩
    exact ofString_eq hl hs hc.symm

theorem lexical_of_mem_ofString {text : String} {t : Token} (h : t ∈ ofString text) : t.Lexical :=
  (ofString_eq_iff.mp rfl).1 t h

theorem separate_ofString (text : String) : Separate (ofString text) := (ofString_eq_iff.mp rfl).2.1

theorem chars_ofString (text : String) : chars (ofString text) = significant text.toList :=
  (ofString_eq_iff.mp rfl).2.2

theorem ofString_congr {text text' : String}
    (h : significant text.toList = significant text'.toList) : ofString text = ofString text' := by
  rw [ofString_eq_iff, h]
  exact ofString_eq_iff.mp rfl

/-! ## Longest runs -/

/-- The tokens are the longest runs and the marks of a text. -/
structure Lexing (text : String) (tokens : List Token) : Prop where
  /-- The texts of the tokens, one after another, are the text without what is dropped. -/
  chars_eq : chars tokens = text.toList.filter isSignificant
  number_run : ∀ run, number run ∈ tokens →
    run ≠ "" ∧ ∀ c ∈ run.toList, c.isDigit = true ∨ c = '.'
  name_run : ∀ run, name run ∈ tokens → run ≠ "" ∧ ∀ c ∈ run.toList, Text.isLetter c = true
  /-- No two numbers and no two names stand side by side. -/
  separate : Separate tokens

theorem forall_lexical_iff {tokens : List Token} : (∀ t ∈ tokens, t.Lexical) ↔
    (∀ run, number run ∈ tokens → run ≠ "" ∧ ∀ c ∈ run.toList, c.isDigit = true ∨ c = '.') ∧
      ∀ run, name run ∈ tokens → run ≠ "" ∧ ∀ c ∈ run.toList, Text.isLetter c = true := by
  constructor
  · intro h
    exact ⟨fun run hm => lexical_number_iff.mp (h _ hm), fun run hm => lexical_name_iff.mp (h _ hm)⟩
  · rintro ⟨hnumber, hname⟩ t ht
    cases t with
    | number run => exact lexical_number_iff.mpr (hnumber run ht)
    | name run => exact lexical_name_iff.mpr (hname run ht)
    | operator o => trivial
    | opening => trivial
    | closing => trivial

theorem lexing_iff {text : String} {tokens : List Token} : Lexing text tokens ↔
    (∀ t ∈ tokens, t.Lexical) ∧ Separate tokens ∧ chars tokens = significant text.toList := by
  rw [forall_lexical_iff, significant_eq_filter]
  exact ⟨fun h => ⟨⟨h.number_run, h.name_run⟩, h.separate, h.chars_eq⟩,
    fun ⟨⟨hnumber, hname⟩, hs, hc⟩ => ⟨hc, hnumber, hname, hs⟩⟩

/-- **A text has the tokens that it can be cut into, and no others.** So characters that are part of
no token can be put in or left out anywhere, even inside a number or a name. -/
theorem ofString_longest_runs :
    (∀ text tokens, ofString text = tokens ↔ Lexing text tokens) ∧
    ∀ before dropped after : String, (∀ c ∈ dropped.toList, isSignificant c = false) →
      ofString (before ++ dropped ++ after) = ofString (before ++ after) := by
  refine ⟨fun text tokens => ?_, fun before dropped after h => ofString_congr ?_⟩
  · rw [lexing_iff, ofString_eq_iff]
  · have hd : dropped.toList.filter isSignificant = [] := by
      rw [List.filter_eq_nil_iff]
      exact fun c hc => Bool.eq_false_iff.mp (h c hc)
    simp [significant_eq_filter, hd]

example : ofString "1 2p,i.5" = [.number "12", .name "pi", .number ".5"] := by rfl

/-! ## Marks -/

/-- **A mark cuts the text**: what is in front of it and what is behind it are read apart. -/
theorem ofString_append_mark {c : Char} {t : Token} (h : Glyph.ofChar c = .mark t)
    (before after : String) :
    ofString (before ++ String.singleton c ++ after) = ofString before ++ t :: ofString after := by
  rw [ofString_eq_iff]
  refine ⟨?_, ?_, ?_⟩
  · refine List.forall_mem_append.mpr ⟨fun _ => lexical_of_mem_ofString, ?_⟩
    exact List.forall_mem_cons.mpr ⟨Glyph.lexical_of_mark h, fun _ => lexical_of_mem_ofString⟩
  · rw [Separate, List.isChain_append]
    refine ⟨separate_ofString before,
      (separate_ofString after).cons fun u _ => (Glyph.joins_mark h u).1, fun u _ v hv => ?_⟩
    cases hv
    exact (Glyph.joins_mark h u).2
  · have hs : significant [c] = [c] := significant_cons (by simp [h]) []
    have ht : chars (ofString before ++ t :: ofString after) =
        chars (ofString before) ++ (t.text.toList ++ chars (ofString after)) := by
      simp [chars]
    rw [ht, chars_ofString, chars_ofString, Glyph.toList_text_of_mark h, String.toList_append,
      String.toList_append, String.toList_singleton, significant_append, significant_append, hs,
      List.append_assoc]

/-- The character of a mark stands in no other token. -/
theorem count_text {c : Char} {t : Token} (h : Glyph.ofChar c = .mark t) {u : Token}
    (hu : u.Lexical) : u.text.toList.count c = [u].count t := by
  have hrun {run : String} {kind : Glyph} (hk : kind ≠ .mark t)
      (hr : ∀ d ∈ run.toList, Glyph.ofChar d = kind) : run.toList.count c = 0 :=
    List.count_eq_zero.mpr fun hc => hk ((hr c hc).symm.trans h)
  have hmark {d : Char} (hd : Glyph.ofChar d = .mark u) : u.text.toList.count c = [u].count t := by
    rw [Glyph.toList_text_of_mark hd]
    by_cases hut : u = t
    · have hdc : [d] = [c] := by
        rw [← Glyph.toList_text_of_mark hd, hut, Glyph.toList_text_of_mark h]
      simp [hdc, hut]
    · have hdc : d ≠ c := by
        rintro rfl
        exact hut (Glyph.mark.inj (hd.symm.trans h))
      simp [hdc, hut]
  cases u with
  | number run =>
    obtain ⟨_, rfl⟩ | ⟨_, rfl⟩ | ⟨o, _, rfl⟩ := Glyph.mark_cases h <;>
      exact hrun (by simp) hu.2
  | name run =>
    obtain ⟨_, rfl⟩ | ⟨_, rfl⟩ | ⟨o, _, rfl⟩ := Glyph.mark_cases h <;>
      exact hrun (by simp) hu.2
  | operator o => exact hmark (d := o.symbol) (by cases o <;> rfl)
  | opening => exact hmark (d := '(') rfl
  | closing => exact hmark (d := ')') rfl

/-- **Each mark is a token.** -/
theorem count_ofString {c : Char} {t : Token} (h : Glyph.ofChar c = .mark t) (text : String) :
    (ofString text).count t = text.toList.count c := by
  have hf : (significant text.toList).count c = text.toList.count c :=
    List.count_filter (by simp [h])
  have hc (tokens : List Token) (hl : ∀ u ∈ tokens, u.Lexical) :
      (chars tokens).count c = tokens.count t := by
    induction tokens with
    | nil => rfl
    | cons u rest ih =>
      obtain ⟨hu, hr⟩ := List.forall_mem_cons.mp hl
      rw [chars_cons, List.count_append, ih hr, count_text h hu, List.count_cons, List.count_cons]
      simp [Nat.add_comm]
  rw [← hf, ← chars_ofString, hc _ fun _ => lexical_of_mem_ofString]

end Token

end Calculator
