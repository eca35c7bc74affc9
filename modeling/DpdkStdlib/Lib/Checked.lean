import Mathlib.Data.Nat.Basic

/-!
# Checked arithmetic

Numbers below a bound, with operations that are `none` where a machine would overflow or divide by zero.
-/

namespace DpdkStdlib.Lib.Checked

variable {bound a b : Nat}

def add (bound a b : Nat) : Option Nat := if a + b < bound then some (a + b) else none

def mul (bound a b : Nat) : Option Nat := if a * b < bound then some (a * b) else none

def sub (a b : Nat) : Option Nat := if b ≤ a then some (a - b) else none

def div (a b : Nat) : Option Nat := if b = 0 then none else some (a / b)

theorem add_eq (h : a + b < bound) : add bound a b = some (a + b) := if_pos h

theorem mul_eq (h : a * b < bound) : mul bound a b = some (a * b) := if_pos h

theorem sub_eq (h : b ≤ a) : sub a b = some (a - b) := if_pos h

theorem div_eq (h : b ≠ 0) : div a b = some (a / b) := if_neg h

end DpdkStdlib.Lib.Checked
