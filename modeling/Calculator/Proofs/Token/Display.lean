import Mathlib
import Calculator.Proofs.Token.Runs

/-!
# Reading displayed tokens

Displayed tokens stand apart, but the spaces between them are dropped when the text is read again.
So tokens come back exactly if no two of them would run together; word by word they always do.

* `Token.significant_text`, `Token.significant_display`: the significant characters of displayed
  tokens are their texts.
* **`Token.ofString_display_iff`**: the tokens that are read back.
* `Token.ofWords`, **`Token.ofWords_display`**: reading word by word.
* `Token.display_injective`: displayed tokens can be told from others.
-/

namespace Calculator

namespace Token

/-- No character of a token's text is dropped. -/
theorem Lexical.ofChar_ne_dropped {t : Token} (h : t.Lexical) {c : Char} (hc : c ∈ t.text.toList) :
    Glyph.ofChar c ≠ .dropped := by
  cases t with
  | number text => simp [h.2 c hc]
  | name text => simp [h.2 c hc]
  | operator o =>
    rw [text, String.toList_singleton, List.mem_singleton] at hc
    subst hc
    cases o <;> decide
  | opening =>
    obtain rfl : c = '(' := List.mem_singleton.mp hc
    decide
  | closing =>
    obtain rfl : c = ')' := List.mem_singleton.mp hc
    decide

theorem significant_text {t : Token} (h : t.Lexical) :
    significant t.text.toList = t.text.toList :=
  List.filter_eq_self.mpr fun _ hc => decide_eq_true (h.ofChar_ne_dropped hc)

/-- A token is read back from its own text. -/
theorem ofString_text {t : Token} (h : t.Lexical) : ofString t.text = [t] := by
  refine ofString_eq (List.forall_mem_singleton.mpr h) (.singleton t) ?_
  rw [significant_text h, chars_cons]
  exact (List.append_nil _).symm

/-- **The significant characters of displayed tokens are their texts.** -/
theorem significant_display {tokens : List Token} (h : ∀ t ∈ tokens, t.Lexical) :
    significant (display tokens).toList = chars tokens := by
  fun_induction display tokens with
  | case1 => rfl
  | case2 t =>
    rw [significant_text (h t List.mem_cons_self), chars_cons]
    exact (List.append_nil _).symm
  | case3 t rest _ ih =>
    obtain ⟨ht, hr⟩ := List.forall_mem_cons.mp h
    have hspace : significant " ".toList = [] := by decide
    rw [String.toList_append, String.toList_append, significant_append, significant_append,
      significant_text ht, hspace, ih hr, List.append_nil, chars_cons]

/-- **Displayed tokens are read back** exactly if each can be written and no two of them would be
read as one. The tokens of a text are like that. -/
theorem ofString_display_iff :
    (∀ tokens, ofString (display tokens) = tokens ↔
      (∀ run, number run ∈ tokens → run ≠ "" ∧ ∀ c ∈ run.toList, c.isDigit = true ∨ c = '.') ∧
      (∀ run, name run ∈ tokens → run ≠ "" ∧ ∀ c ∈ run.toList, Text.isLetter c = true) ∧
      Separate tokens) ∧
    ∀ text, ofString (display (ofString text)) = ofString text := by
  have hback {tokens : List Token} (hl : ∀ t ∈ tokens, t.Lexical) (hs : Separate tokens) :
      ofString (display tokens) = tokens := ofString_eq hl hs (significant_display hl)
  refine ⟨fun tokens => ?_, fun text => ?_⟩
  · rw [← and_assoc, ← forall_lexical_iff]
    constructor
    · intro h
      rw [← h]
      exact ⟨fun _ => lexical_of_mem_ofString, separate_ofString _⟩
    · rintro ⟨hl, hs⟩
      exact hback hl hs
  · exact hback (fun _ => lexical_of_mem_ofString) (separate_ofString text)

example : ofString (display [number "1", number "2"]) = [number "12"] := by rfl

/-! ## Word by word -/

/-- The tokens of a text that is read word by word. -/
def ofWords (text : String) : List Token :=
  (text.toList.splitOn ' ').flatMap fun word => ofString (String.ofList word)

theorem toList_display (tokens : List Token) :
    (display tokens).toList = [' '].intercalate (tokens.map (·.text.toList)) := by
  fun_induction display tokens with
  | case1 => rfl
  | case2 t => simp
  | case3 t rest hne ih =>
    rw [List.map_cons, List.intercalate_cons_of_ne_nil (by simpa using hne), ← ih]
    simp

theorem flatMap_ofString_text {tokens : List Token} (h : ∀ t ∈ tokens, t.Lexical) :
    tokens.flatMap (fun t => ofString t.text) = tokens := by
  induction tokens with
  | nil => rfl
  | cons t rest ih =>
    obtain ⟨ht, hr⟩ := List.forall_mem_cons.mp h
    rw [List.flatMap_cons, ofString_text ht, ih hr]
    rfl

/-- **Read word by word, displayed tokens are read back**, even if some of them would run together
without the spaces. -/
theorem ofWords_display {tokens : List Token} (h : ∀ t ∈ tokens, t.Lexical) :
    ofWords (display tokens) = tokens := by
  by_cases hne : tokens = []
  · subst hne
    rfl
  · have hwords : ∀ word ∈ tokens.map (·.text.toList), ' ' ∉ word :=
      List.forall_mem_map.mpr fun t ht hc => (h t ht).ofChar_ne_dropped hc rfl
    rw [ofWords, toList_display, List.splitOn_intercalate ' ' hwords (by simpa using hne),
      List.flatMap_map]
    simp only [String.ofList_toList]
    exact flatMap_ofString_text h

/-- Tokens that can be written are displayed as no others are. -/
theorem display_injective {tokens tokens' : List Token} (h : ∀ t ∈ tokens, t.Lexical)
    (h' : ∀ t ∈ tokens', t.Lexical) (hd : display tokens = display tokens') : tokens = tokens' := by
  rw [← ofWords_display h, hd, ofWords_display h']

end Token

end Calculator
