/-!
# Named functions and constants

* `Func`, `Constant`: what a name can stand for, with its spelling and its value.
* `Meaning.ofName?`: the meaning of a name, if it has one.
* **`Func.ofName?_eq_some_iff`**, **`Constant.ofName?_eq_some_iff`**: a meaning has one spelling.
* `Meaning.ofName?_eq_constant_iff`, `Meaning.ofName?_eq_function_iff`,
  `Meaning.ofName?_eq_none_iff`, `Meaning.name_cases`: the names of each kind.
-/

namespace Calculator

/-- The functions that an expression can call by name. -/
inductive Func where
  | sqrt
  | sin
  | asin
  | cos
  | acos
  | tan
  | atan
  | log
  | ln
  deriving DecidableEq, Repr

/-- The constants that an expression can use by name. -/
inductive Constant where
  | pi
  | e
  deriving DecidableEq, Repr

namespace Func

def all : List Func := [sqrt, sin, asin, cos, acos, tan, atan, log, ln]

def name : Func → String
  | sqrt => "sqrt"
  | sin => "sin"
  | asin => "asin"
  | cos => "cos"
  | acos => "acos"
  | tan => "tan"
  | atan => "atan"
  | log => "log"
  | ln => "ln"

def ofName? (name : String) : Option Func := all.find? fun f => f.name == name

/-- How many operands a call takes. -/
def arity : Func → Nat := fun _ => 1

/-- The value at `x`; `log` is the logarithm to base ten and `ln` the natural one. -/
def eval : Func → Float → Float
  | sqrt => Float.sqrt
  | sin => Float.sin
  | asin => Float.asin
  | cos => Float.cos
  | acos => Float.acos
  | tan => Float.tan
  | atan => Float.atan
  | log => Float.log10
  | ln => Float.log

@[simp] theorem ofName?_name (f : Func) : ofName? f.name = some f := by cases f <;> decide

theorem ofName?_eq_some_iff {name : String} {f : Func} : ofName? name = some f ↔ f.name = name := by
  constructor
  · intro h
    simpa using List.find?_some h
  · rintro rfl
    exact ofName?_name f

end Func

namespace Constant

def all : List Constant := [pi, e]

def name : Constant → String
  | pi => "pi"
  | e => "e"

def ofName? (name : String) : Option Constant := all.find? fun c => c.name == name

/-- The double nearest to the constant. -/
def value : Constant → Float
  | pi => 3.141592653589793
  | e => 2.718281828459045

@[simp] theorem ofName?_name (c : Constant) : ofName? c.name = some c := by cases c <;> decide

@[simp] theorem ofName?_function_name (f : Func) : ofName? f.name = none := by cases f <;> decide

theorem ofName?_eq_some_iff {name : String} {c : Constant} :
    ofName? name = some c ↔ c.name = name := by
  constructor
  · intro h
    simpa using List.find?_some h
  · rintro rfl
    exact ofName?_name c

end Constant

/-- What a name stands for. -/
inductive Meaning where
  | constant (c : Constant)
  | function (f : Func)
  deriving DecidableEq, Repr

/-- The meaning of a name; a name that has none is *unknown*. -/
def Meaning.ofName? (name : String) : Option Meaning :=
  match Constant.ofName? name with
  | some c => some (.constant c)
  | none => (Func.ofName? name).map .function

namespace Meaning

@[simp] theorem ofName?_constant (c : Constant) : ofName? c.name = some (.constant c) := by
  cases c <;> decide

@[simp] theorem ofName?_function (f : Func) : ofName? f.name = some (.function f) := by
  cases f <;> decide

theorem ofName?_eq_constant_iff {name : String} {c : Constant} :
    ofName? name = some (.constant c) ↔ c.name = name := by
  constructor
  · intro h
    rw [ofName?] at h
    split at h
    · next c' hc =>
      cases h
      exact Constant.ofName?_eq_some_iff.mp hc
    · simp at h
  · rintro rfl
    exact ofName?_constant c

theorem ofName?_eq_function_iff {name : String} {f : Func} :
    ofName? name = some (.function f) ↔ f.name = name := by
  constructor
  · intro h
    rw [ofName?] at h
    split at h
    · simp at h
    · exact Func.ofName?_eq_some_iff.mp (by simpa using h)
  · rintro rfl
    exact ofName?_function f

/-- Every name is that of a constant, that of a function or unknown. -/
theorem name_cases (name : String) :
    (∃ c : Constant, name = c.name) ∨ (∃ f : Func, name = f.name) ∨ ofName? name = none := by
  match h : ofName? name with
  | some (.constant c) => exact .inl ⟨c, (ofName?_eq_constant_iff.mp h).symm⟩
  | some (.function f) => exact .inr (.inl ⟨f, (ofName?_eq_function_iff.mp h).symm⟩)
  | none => exact .inr (.inr rfl)

theorem ofName?_eq_none_iff {name : String} :
    ofName? name = none ↔ Constant.ofName? name = none ∧ Func.ofName? name = none := by
  rw [ofName?]
  split
  · next c hc => simp [hc]
  · next hc => simp [hc]

end Meaning

end Calculator
