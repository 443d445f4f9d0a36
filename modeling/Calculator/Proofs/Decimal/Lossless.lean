import Mathlib
import Calculator.Proofs.Binary64.Value
import Calculator.Proofs.Decimal.Reading

/-!
# Nothing is lost in a written number

A result is written by the shortest decimal of its double, with a point or with an exponent, and
under its sign. Each of these texts is read as that decimal, so it is read as the double.

* `IsScientific`, `exists_scientific_eq`, `unsigned?_scientific`: what is written with an exponent.
* `splitSign_signed`, `readFloat?_signed`: a sign in front of digits.
* `exists_write_eq`, `write_of_isFinite`, `write_of_isInfinite`: the texts of all doubles, read back.
* **`write_lossless`**: what the text of a result tells about it.
-/

namespace Calculator.Decimal

open Binary64

/-! ## Exponents -/

/-- A digit, or digits with a point after the first, in front of an exponent. -/
def IsScientific (text : List Char) : Prop :=
  ∃ first fraction exponent, first.isDigit = true ∧
    (fraction = [] ∨ ∃ digits, IsDigits digits ∧ fraction = '.' :: digits) ∧
    (IsDigits exponent ∨ ∃ digits, IsDigits digits ∧ exponent = '-' :: digits) ∧
    text = first :: fraction ++ 'e' :: exponent

theorem toString_toList_cases (k : Int) :
    (∃ n : Nat, k = n ∧ (toString k).toList = Nat.toDigits 10 n) ∨
      ∃ n : Nat, k = -n ∧ (toString k).toList = '-' :: Nat.toDigits 10 n := by
  have hnat (n : Nat) : (toString n).toList = Nat.toDigits 10 n := by
    rw [Nat.toString_eq_ofList_toDigits, String.toList_ofList]
  cases k with
  | ofNat n => exact .inl ⟨n, rfl, hnat n⟩
  | negSucc n =>
    refine .inr ⟨n + 1, rfl, ?_⟩
    show ("-" ++ toString (n + 1)).toList = _
    rw [String.toList_append, hnat]
    rfl

theorem splitSign_of_isDigits {text : List Char} (h : ∀ c ∈ text, c.isDigit = true) :
    splitSign text = (false, text) :=
  IsRun.splitSign_eq fun c hc => .inl (h c hc)

/-- A written exponent is read as it is. -/
theorem exponent?_toString (k : Int) : exponent? ('e' :: (toString k).toList) = some k := by
  rcases toString_toList_cases k with ⟨n, rfl, htext⟩ | ⟨n, rfl, htext⟩
  · obtain ⟨hne, hdigits⟩ := isDigits_toDigits n
    rw [htext, exponent?, splitSign_of_isDigits hdigits]
    simp [hne, ofDigits_toDigits, List.all_eq_true.mpr hdigits]
  · obtain ⟨hne, hdigits⟩ := isDigits_toDigits n
    rw [htext, exponent?, splitSign]
    simp [hne, ofDigits_toDigits, List.all_eq_true.mpr hdigits]

/-- With an exponent a number is written by its own digits. -/
theorem exists_scientific_eq (d : Decimal) : ∃ first rest,
    Nat.toDigits 10 d.coefficient = first :: rest ∧
      (scientific d).toList = first :: (if rest = [] then [] else '.' :: rest) ++
        'e' :: (toString (d.exponent + rest.length)).toList := by
  rw [scientific]
  cases h : Nat.toDigits 10 d.coefficient with
  | nil => exact absurd h Nat.toDigits_ne_nil
  | cons first rest =>
    refine ⟨first, rest, rfl, ?_⟩
    simp only [String.toList_append, String.toList_ofList, List.isEmpty_iff]
    rw [List.append_assoc]
    rfl

theorem isScientific_scientific (d : Decimal) : IsScientific (scientific d).toList := by
  obtain ⟨first, rest, hdigits, htext⟩ := exists_scientific_eq d
  have hall := (isDigits_toDigits d.coefficient).2
  rw [hdigits, List.forall_mem_cons] at hall
  refine ⟨first, _, _, hall.1, ?_, ?_, htext⟩
  · by_cases hrest : rest = []
    · exact .inl (if_pos hrest)
    · exact .inr ⟨rest, ⟨hrest, hall.2⟩, if_neg hrest⟩
  · rcases toString_toList_cases (d.exponent + rest.length) with ⟨n, -, h⟩ | ⟨n, -, h⟩
    · exact .inl (h ▸ isDigits_toDigits n)
    · exact .inr ⟨_, isDigits_toDigits n, h⟩

/-- A first digit, further ones behind a point, and an exponent are read together. -/
theorem unsigned?_exponent {first : Char} {rest exponent : List Char} {k : Int}
    (hfirst : first.isDigit = true) (hrest : ∀ c ∈ rest, c.isDigit = true)
    (hk : exponent? ('e' :: exponent) = some k) :
    unsigned? (first :: (if rest = [] then [] else '.' :: rest) ++ 'e' :: exponent) =
      some ⟨ofDigits (first :: rest), k - rest.length⟩ := by
  have he : 'e'.isDigit = false := rfl
  have hpoint : '.'.isDigit = false := rfl
  by_cases hnil : rest = []
  · subst hnil
    simp [unsigned?, hfirst, he, hk]
  · have hwhole : (rest ++ 'e' :: exponent).takeWhile Char.isDigit = rest := by
      rw [List.takeWhile_append_of_pos hrest]
      simp [he]
    have htail : (rest ++ 'e' :: exponent).dropWhile Char.isDigit = 'e' :: exponent := by
      rw [List.dropWhile_append_of_pos hrest]
      simp [he]
    simp [unsigned?, hnil, hfirst, hpoint, hwhole, htail, hk]

/-- **What is written with an exponent is read as the same decimal.** -/
theorem unsigned?_scientific (d : Decimal) : unsigned? (scientific d).toList = some d := by
  obtain ⟨first, rest, hdigits, htext⟩ := exists_scientific_eq d
  have hall := (isDigits_toDigits d.coefficient).2
  have hvalue := ofDigits_toDigits d.coefficient
  rw [hdigits] at hall hvalue
  rw [List.forall_mem_cons] at hall
  rw [htext, unsigned?_exponent hall.1 hall.2 (exponent?_toString _), hvalue, add_sub_cancel_right]

/-! ## Signs -/

section

variable {text : String} {first : Char} {rest : List Char}

theorem splitSign_cons (h : first.isDigit = true) :
    splitSign (first :: rest) = (false, first :: rest) := by
  unfold splitSign
  split
  · next heq =>
    cases heq
    cases h
  · next heq =>
    cases heq
    cases h
  · rfl

/-- A sign in front of digits is taken off. -/
theorem splitSign_signed (htext : text.toList = first :: rest) (h : first.isDigit = true)
    (negative : Bool) :
    splitSign (if negative then "-" ++ text else text).toList = (negative, text.toList) := by
  cases negative with
  | false =>
    rw [if_neg Bool.false_ne_true, htext]
    exact splitSign_cons h
  | true =>
    rw [if_pos rfl, String.toList_append]
    rfl

/-- What starts with a digit is no word. -/
theorem readFloat?_signed (htext : text.toList = first :: rest) (h : first.isDigit = true)
    (negative : Bool) : readFloat? (if negative then "-" ++ text else text) =
      (unsigned? text.toList).map (toFloat negative) := by
  have hword (word : String) (hhead : word.toList.head? ≠ some first) :
      (String.ofList (text.toList.map Char.toLower) == word) = false := by
    rw [beq_eq_false_iff_ne]
    rintro rfl
    rw [String.toList_ofList, htext, List.map_cons, toLower_of_isDigit h] at hhead
    exact hhead rfl
  have hletter (c : Char) (hc : c.isDigit = false) : (some c : Option Char) ≠ some first := by
    rintro ⟨⟩
    rw [h] at hc
    cases hc
  rw [readFloat?, splitSign_signed htext h]
  simp only [hword "inf" (hletter 'i' rfl), hword "infinity" (hletter 'i' rfl),
    hword "nan" (hletter 'n' rfl), Bool.or_false, Bool.false_eq_true, if_false]

end

/-! ## The two layouts -/

theorem IsPositional.exists_eq_cons {text : List Char} (h : IsPositional text) :
    ∃ first rest, text = first :: rest ∧ first.isDigit = true := by
  obtain ⟨whole, fraction, ⟨hne, hwhole⟩, -, rfl⟩ := h
  obtain ⟨first, rest, rfl⟩ := List.exists_cons_of_ne_nil hne
  exact ⟨first, rest ++ '.' :: fraction, rfl, hwhole first List.mem_cons_self⟩

theorem IsScientific.exists_eq_cons {text : List Char} (h : IsScientific text) :
    ∃ first rest, text = first :: rest ∧ first.isDigit = true := by
  obtain ⟨first, fraction, exponent, hfirst, -, -, rfl⟩ := h
  exact ⟨first, _, rfl, hfirst⟩

/-- With an exponent there is a letter, and without one there is none. -/
theorem IsScientific.not_isPositional {text : List Char} (h : IsScientific text) :
    ¬ IsPositional text := by
  obtain ⟨first, fraction, exponent, -, -, -, rfl⟩ := h
  rintro ⟨whole, fraction', ⟨-, hwhole⟩, ⟨-, hfraction⟩, heq⟩
  have hmem : 'e' ∈ first :: fraction ++ 'e' :: exponent := by simp
  rw [heq, List.mem_append, List.mem_cons] at hmem
  rcases hmem with he | he | he
  · exact Bool.false_ne_true (hwhole _ he)
  · cases he
  · exact Bool.false_ne_true (hfraction _ he)

theorem isPositional_positional (d : Decimal) : IsPositional (positional ".0" d).toList := by
  obtain ⟨whole, fraction, -, htext, hwhole, hfraction, -⟩ := exists_positional_eq d
  exact ⟨whole, fraction, hwhole, hfraction, htext⟩

/-! ## Results -/

/-- The doubles that are written without an exponent. -/
def InPositionalRange (x : Float) : Prop := isZero x = true ∨ 1e-4 ≤ x.abs ∧ x.abs < 1e16

theorem rank_abs {x : Float} (hx : isNaN x = false) : Binary64.rank x.abs = Binary64.rank x := by
  have hr : Binary64.rank x ≤ infinityRank := by simpa [isNaN] using hx
  rw [abs_eq hx, rank_ofRank false hr]

theorem InPositionalRange.isFinite {x : Float} (hx : isNaN x = false) (h : InPositionalRange x) :
    isFinite x = true := by
  apply decide_eq_true
  rcases h with hzero | hrange
  · rw [eq_of_beq hzero]
    decide
  · rw [← rank_abs hx]
    exact (rank_of_le_of_lt hrange).2.2.2

section

variable {x : Float}

/-- **A finite double is written by a decimal with the fewest digits** that reads back, under its
sign and in the layout of its range. -/
theorem exists_write_eq (hx : isFinite x = true) : ∃ d text,
    Style.result.write x = (if isNegative x then "-" ++ text else text) ∧
      d.toFloat (isNegative x) = x ∧
      (∀ negative d', toFloat negative d' = x → d.significantDigits ≤ d'.significantDigits) ∧
      (InPositionalRange x → text = positional ".0" d) ∧
      (¬ InPositionalRange x → text = scientific d) := by
  have hr : Binary64.rank x < infinityRank := of_decide_eq_true hx
  have hnan := isNaN_of_isFinite hx
  have hinf : isInfinite x = false := beq_eq_false_iff_ne.mpr hr.ne
  have hself := ofRank_rank hnan
  by_cases hzero : isZero x = true
  · refine ⟨⟨0, 0⟩, positional ".0" ⟨0, 0⟩, ?_, ?_, ?_, fun _ => rfl, fun h => absurd (.inl hzero) h⟩
    · simp only [Style.write, hnan, hinf, hzero, Bool.false_eq_true, if_true, if_false]
      rfl
    · rw [eq_of_beq hzero] at hself
      exact hself
    · exact fun _ _ _ => Nat.zero_le _
  · have hne : Binary64.rank x ≠ 0 := fun h => hzero (beq_iff_eq.mpr h)
    rw [Bool.not_eq_true] at hzero
    have hrange : Style.result.isPositional x.abs = true ↔ InPositionalRange x := by
      rw [InPositionalRange, hzero]
      simp [Style.result]
    refine ⟨shortest (Binary64.rank x), if Style.result.isPositional x.abs then
      positional ".0" (shortest (Binary64.rank x)) else scientific (shortest (Binary64.rank x)),
      ?_, ?_, ?_, fun h => if_pos (hrange.mpr h), fun h => if_neg (hrange.not.mpr h)⟩
    · simp only [Style.write, hnan, hinf, hzero, Bool.false_eq_true, if_false]
      rfl
    · rw [toFloat, rank_shortest hr.le, hself]
    · intro negative d' hd'
      apply significantDigits_shortest_le hr.le hne
      rw [← hd', toFloat, rank_ofRank negative d'.rank_le_infinityRank]

/-- **A result without a sign and without an exponent** is written with a point, by a decimal that
stands for it. -/
theorem exists_write_result (hn : isNegative x = false)
    (h : isZero x = true ∨ 1e-4 ≤ x ∧ x < 1e16) :
    ∃ d, Style.result.write x = positional ".0" d ∧ d.toFloat false = x := by
  have hfin : isFinite x = true := by
    apply decide_eq_true
    rcases h with hzero | hrange
    · rw [eq_of_beq hzero]
      decide
    · exact (rank_of_le_of_lt hrange).2.2.2
  have hnan := isNaN_of_isFinite hfin
  have habs : x.abs = x := by
    have hself := ofRank_rank hnan
    rwa [hn, ← abs_eq hnan] at hself
  obtain ⟨d, text, hwrite, hd, -, hpos, -⟩ := exists_write_eq hfin
  rw [hn] at hwrite hd
  refine ⟨d, hwrite.trans (hpos ?_), hd⟩
  rwa [InPositionalRange, habs]

example : Style.result.write 0.667 = "0.667" := by decide +kernel

/-- Both layouts are read as the decimal, up to zeros at its end. -/
theorem exists_unsigned?_eq {d : Decimal} {text : String}
    (hpos : InPositionalRange x → text = positional ".0" d)
    (hsci : ¬ InPositionalRange x → text = scientific d) :
    ∃ m : Nat, unsigned? text.toList = some ⟨d.coefficient * tenPow m, d.exponent - m⟩ := by
  by_cases h : InPositionalRange x
  · rw [hpos h]
    exact exists_unsigned?_positional d
  · have hzero : d.coefficient * tenPow 0 = d.coefficient := Nat.mul_one _
    refine ⟨0, ?_⟩
    rw [hsci h, unsigned?_scientific, hzero]
    simp

/-- **A finite double is read back from its text**, which has the layout of its range and the fewest
digits. -/
theorem write_of_isFinite (hx : isFinite x = true) :
    readFloat? (Style.result.write x) = some x ∧
    (InPositionalRange x → IsPositional (splitSign (Style.result.write x).toList).2) ∧
    (¬ InPositionalRange x → IsScientific (splitSign (Style.result.write x).toList).2) ∧
    ∃ d, unsigned? (splitSign (Style.result.write x).toList).2 = some d ∧
      toFloat (isNegative x) d = x ∧ ∀ negative d', toFloat negative d' = x →
        d.significantDigits ≤ d'.significantDigits := by
  obtain ⟨d, text, hwrite, hd, hleast, hpos, hsci⟩ := exists_write_eq hx
  obtain ⟨m, hread⟩ := exists_unsigned?_eq hpos hsci
  have hlayout (h : InPositionalRange x) : IsPositional text.toList := by
    rw [hpos h]
    exact isPositional_positional d
  have hlayout' (h : ¬ InPositionalRange x) : IsScientific text.toList := by
    rw [hsci h]
    exact isScientific_scientific d
  obtain ⟨first, rest, htext, hfirst⟩ : ∃ first rest, text.toList = first :: rest ∧
      first.isDigit = true := by
    by_cases h : InPositionalRange x
    · exact (hlayout h).exists_eq_cons
    · exact (hlayout' h).exists_eq_cons
  rw [hwrite, splitSign_signed htext hfirst, readFloat?_signed htext hfirst, hread]
  have hshift : toFloat (isNegative x) ⟨d.coefficient * tenPow m, d.exponent - m⟩ = x := by
    rw [toFloat, rank_shift]
    exact hd
  refine ⟨?_, hlayout, hlayout', _, rfl, hshift, fun negative d' hd' => ?_⟩
  · rw [Option.map_some, hshift]
  · rw [significantDigits_mul_tenPow _ _ _ d.exponent]
    exact hleast negative d' hd'

/-- An infinity is read back from its word, which has no digits. -/
theorem write_of_isInfinite (hx : isInfinite x = true) :
    readFloat? (Style.result.write x) = some x ∧
      ¬ IsPositional (splitSign (Style.result.write x).toList).2 := by
  have hr : Binary64.rank x = infinityRank := eq_of_beq hx
  have hnan : isNaN x = false := by
    rw [isNaN, hr]
    exact decide_eq_false (lt_irrefl _)
  have hself := ofRank_rank hnan
  have hword : ¬ IsPositional "inf".toList := by
    intro h
    obtain ⟨first, rest, heq, hfirst⟩ := h.exists_eq_cons
    cases heq
    cases hfirst
  rw [hr] at hself
  have hwrite : Style.result.write x = if isNegative x then "-" ++ "inf" else "inf" := by
    simp only [Style.write, hnan, hx, Bool.false_eq_true, if_true, if_false]
  rw [hwrite]
  cases hneg : isNegative x with
  | false =>
    rw [hneg] at hself
    exact ⟨congrArg some hself, hword⟩
  | true =>
    rw [hneg] at hself
    exact ⟨congrArg some hself, hword⟩

theorem readFloat?_write (hx : isNaN x = false) : readFloat? (Style.result.write x) = some x := by
  rcases isFinite_or_isInfinite hx with h | h
  · exact (write_of_isFinite h).1
  · exact (write_of_isInfinite h).1

end

/-- **Result text is lossless.** Every double other than `nan` is read back from its text. The text
has a point between digits for zero and from `1e-4` up to `1e16`, and an exponent for every other
finite double. No decimal that stands for a finite double has fewer significant digits than its
text. So different doubles have different texts. -/
theorem write_lossless (x : Float) (hx : isNaN x = false) :
    readFloat? (Style.result.write x) = some x ∧
    (IsPositional (splitSign (Style.result.write x).toList).2 ↔
      isZero x = true ∨ 1e-4 ≤ x.abs ∧ x.abs < 1e16) ∧
    (isFinite x = true → ¬ (isZero x = true ∨ 1e-4 ≤ x.abs ∧ x.abs < 1e16) →
      IsScientific (splitSign (Style.result.write x).toList).2) ∧
    (isFinite x = true → ∃ d, unsigned? (splitSign (Style.result.write x).toList).2 = some d ∧
      toFloat (isNegative x) d = x ∧ ∀ negative d', toFloat negative d' = x →
        d.significantDigits ≤ d'.significantDigits) ∧
    ∀ y, isNaN y = false → Style.result.write y = Style.result.write x → y = x := by
  refine ⟨readFloat?_write hx, ⟨fun hpos => ?_, fun hrange => ?_⟩, fun hfin hrange => ?_,
    fun hfin => (write_of_isFinite hfin).2.2.2, fun y hy heq => ?_⟩
  · by_contra hrange
    rcases isFinite_or_isInfinite hx with h | h
    · exact ((write_of_isFinite h).2.2.1 hrange).not_isPositional hpos
    · exact (write_of_isInfinite h).2 hpos
  · exact (write_of_isFinite (InPositionalRange.isFinite hx hrange)).2.1 hrange
  · exact (write_of_isFinite hfin).2.2.1 hrange
  · have hread := readFloat?_write hy
    rw [heq, readFloat?_write hx] at hread
    exact (Option.some_inj.mp hread).symm

/-- The smallest positive double is written with an exponent and one digit. -/
theorem write_lossless_smallest : isNaN 5e-324 = false ∧ isFinite 5e-324 = true ∧
    ¬ (isZero 5e-324 = true ∨ 1e-4 ≤ (5e-324 : Float).abs ∧ (5e-324 : Float).abs < 1e16) ∧
    Style.result.write 5e-324 = "5e-324" ∧ readFloat? "5e-324" = some 5e-324 ∧
    IsScientific "5e-324".toList ∧ ∃ d, unsigned? "5e-324".toList = some d ∧
      ∀ negative d', toFloat negative d' = 5e-324 → d.significantDigits ≤ d'.significantDigits := by
  have hx : isNaN 5e-324 = false := by decide +kernel
  have hfin : isFinite 5e-324 = true := by decide +kernel
  have hrange : ¬ (isZero 5e-324 = true ∨
      1e-4 ≤ (5e-324 : Float).abs ∧ (5e-324 : Float).abs < 1e16) := by decide +kernel
  have htext : Style.result.write 5e-324 = "5e-324" := by decide +kernel
  have hbody : (splitSign "5e-324".toList).2 = "5e-324".toList := by decide
  obtain ⟨hread, -, hscientific, hleast, -⟩ := write_lossless 5e-324 hx
  obtain ⟨d, hd, -, hmin⟩ := hleast hfin
  have hlayout := hscientific hfin hrange
  rw [htext] at hread
  rw [htext, hbody] at hd hlayout
  exact ⟨hx, hfin, hrange, htext, hread, hlayout, d, hd, hmin⟩

end Calculator.Decimal
