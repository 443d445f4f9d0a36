/-!
# Double precision numbers by rank

A double is a sign and a **rank**: zero has rank `0`, and each next larger magnitude has the next
rank, up to infinity and, above it, the value that is no number. Comparing magnitudes is comparing
ranks, and the neighbours of a double have the neighbouring ranks. Every finite double is a whole
number of **units** of `2 ^ (-1074)`, so exact arithmetic on doubles is integer arithmetic.

* `isNegative`, `rank`, `ofRank`: the two parts of a double, and the double of two parts.
* `isZero`, `isFinite`, `isInfinite`, `isNaN`: the classes of doubles, each a range of ranks.
* `unitsOfRank`, `units`, `signedUnits`: the exact value.
* `unitsOfRank_of_lt`, **`unitsOfRank_add`**: on the ranks of one binade the units grow in equal
  steps.
-/

namespace Calculator.Binary64

/-- The number of doubles from a power of two to the next, `2 ^ 52`. -/
def binade : Nat := 0x10000000000000

/-- The sign bit of a double as a number, `2 ^ 63`. -/
def signBit : Nat := 0x8000000000000000

/-- Whether the sign bit of `x` is set; it may be on a zero. -/
def isNegative (x : Float) : Bool := signBit ≤ x.toBits.toNat

/-- The place of `|x|` among the magnitudes in ascending order. -/
def rank (x : Float) : Nat := x.toBits.toNat % signBit

/-- The rank of infinity; the finite doubles are those of lower rank. -/
def infinityRank : Nat := 2047 * binade

/-- The double with a given sign and rank. -/
def ofRank (negative : Bool) (r : Nat) : Float :=
  Float.ofBits (UInt64.ofNat (if negative then signBit + r else r))

def isZero (x : Float) : Bool := rank x == 0

def isFinite (x : Float) : Bool := rank x < infinityRank

def isInfinite (x : Float) : Bool := rank x == infinityRank

def isNaN (x : Float) : Bool := infinityRank < rank x

/-- The value that is no number. -/
def nan : Float := ofRank false (infinityRank + binade / 2)

/-! ## Exact values -/

/-- The number one, in units of `2 ^ (-1074)`. -/
def one : Nat := 1 <<< 1074

/-- The magnitude of rank `r`, in units of `2 ^ (-1074)`. The ranks of the first two binades are one
unit apart; after them the distance doubles with each binade. -/
def unitsOfRank (r : Nat) : Nat :=
  if r < binade then r else (binade + r % binade) <<< (r / binade - 1)

/-- The magnitude of a finite double, in units of `2 ^ (-1074)`. -/
def units (x : Float) : Nat := unitsOfRank (rank x)

/-- A finite double, in units of `2 ^ (-1074)`. -/
def signedUnits (x : Float) : Int := if isNegative x then -(units x : Int) else units x

theorem unitsOfRank_of_lt {r : Nat} (h : r < binade) : unitsOfRank r = r := if_pos h

/-- **A binade of ranks that starts at `s * binade + binade` has steps of `1 <<< s` units.** -/
theorem unitsOfRank_add {s m : Nat} (hl : binade ≤ m) (hu : m < 2 * binade) :
    unitsOfRank (s * binade + m) = m <<< s := by
  have hb : 0 < binade := by decide
  have h1 : ¬ s * binade + m < binade := by omega
  have h2 : (s * binade + m) / binade = s + 1 := by
    rw [Nat.add_comm, Nat.add_mul_div_right _ _ hb, Nat.div_eq_of_lt_le (k := 1) (by omega) (by omega)]
    omega
  have h3 : (s * binade + m) % binade = m - binade := by
    rw [Nat.mul_add_mod_self_right, Nat.mod_eq_sub_mod hl, Nat.mod_eq_of_lt (by omega)]
  rw [unitsOfRank, if_neg h1, h2, h3, Nat.add_sub_cancel, Nat.add_sub_cancel' hl]

end Calculator.Binary64
