import Mathlib.Init

/-!
# Machine numbers that must not wrap

Code over machine numbers rejects its input or goes on, and must never wrap a number around. A run
in which nothing wraps computes what the machine does.
-/

namespace Houfeng.Guarded

/-- How a run ends early. -/
inductive Halt (ε : Type)
  | rejected (error : ε)
  | wrapped
deriving DecidableEq

abbrev Run (ε α : Type) := Except (Halt ε) α

variable {ε : Type}

/-- Rejects the input unless the condition holds. -/
def require (c : Prop) [Decidable c] (error : ε) : Run ε Unit :=
  if c then .ok () else .error (.rejected error)

/-- The numbers below it are the values of a `uint64`. -/
abbrev uint64Size : Nat := 0x10000000000000000

/-- The numbers below it are the values of an `int` that are not negative. -/
abbrev intSize : Nat := 0x8000000000000000

/-- A sum of two `uint64`. -/
def add64 (a b : Nat) : Run ε Nat :=
  if a + b < uint64Size then .ok (a + b) else .error .wrapped

/-- A product of two `uint64`. -/
def mul64 (a b : Nat) : Run ε Nat :=
  if a * b < uint64Size then .ok (a * b) else .error .wrapped

/-- The conversion of a number to an `int`. -/
def toInt (a : Nat) : Run ε Nat :=
  if a < intSize then .ok a else .error .wrapped

end Houfeng.Guarded
