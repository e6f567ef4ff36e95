import LabelPress.Calendar.Iso
import Mathlib.Algebra.Order.Group.Nat

/-!
# Numbers of a fixed width

Dates and times are written in numbers of a fixed width. Such a number stands by its last decimal
digits, and read at the start of any text it is the same number.
-/

namespace LabelPress
variable {width n : Nat}

def lastDigits : Nat → Nat → List Char
  | 0, _ => []
  | width + 1, n => lastDigits width (n / 10) ++ [Nat.digitChar (n % 10)]

theorem length_lastDigits (width n : Nat) : (lastDigits width n).length = width := by
  induction width generalizing n with
  | zero => rfl
  | succ width ih => simp [lastDigits, ih]

theorem lastDigits_zero (width : Nat) : lastDigits width 0 = List.replicate width '0' := by
  induction width with
  | zero => rfl
  | succ width ih =>
    rw [lastDigits, Nat.zero_div, ih, List.replicate_succ']
    rfl

theorem isAsciiDigit_digitChar (h : n < 10) : Text.isAsciiDigit (Nat.digitChar n) = true :=
  (by decide : ∀ n < 10, Text.isAsciiDigit (Nat.digitChar n) = true) n h

theorem isAsciiDigit_of_mem_lastDigits {c : Char} (h : c ∈ lastDigits width n) :
    Text.isAsciiDigit c = true := by
  induction width generalizing n with
  | zero => cases h
  | succ width ih =>
    rcases List.mem_append.mp h with h | h
    · exact ih h
    · rw [List.mem_singleton.mp h]
      exact isAsciiDigit_digitChar (Nat.mod_lt n (by decide))

/-- A number that fits is written by its last digits. -/
theorem paddedDigits_eq (hwidth : 0 < width) (h : n < 10 ^ width) :
    paddedDigits width n = lastDigits width n := by
  induction width generalizing n with
  | zero => exact absurd hwidth (Nat.lt_irrefl 0)
  | succ width ih =>
    by_cases hn : n < 10
    · rw [paddedDigits, Nat.toDigits_of_lt_base hn, lastDigits, Nat.div_eq_of_lt hn,
        Nat.mod_eq_of_lt hn, lastDigits_zero]
      rfl
    · have hwidth : 0 < width := by
        rcases Nat.eq_zero_or_pos width with rfl | hpos
        · exact absurd h hn
        · exact hpos
      have hrest : n / 10 < 10 ^ width := by
        rw [pow_succ] at h
        omega
      rw [lastDigits, ← ih hwidth hrest, paddedDigits, paddedDigits,
        Nat.toDigits_of_base_le (by decide) (not_lt.mp hn), List.length_append,
        List.length_singleton, Nat.add_sub_add_right, List.append_assoc]

/-- A number with no fewer digits than asked for needs no zeros before it. -/
theorem toDigits_eq (hmost : n < 10 ^ (width + 1)) (hleast : 10 ^ width ≤ n) :
    Nat.toDigits 10 n = lastDigits (width + 1) n := by
  induction width generalizing n with
  | zero =>
    have hn : n < 10 := hmost
    rw [Nat.toDigits_of_lt_base hn, lastDigits, Nat.mod_eq_of_lt hn]
    rfl
  | succ width ih =>
    rw [pow_succ] at hmost hleast
    have hpos : 0 < 10 ^ width := Nat.pow_pos (by decide)
    rw [Nat.toDigits_of_base_le (by decide) (by omega), ih (by omega) (by omega)]
    rfl

/-- The number that digits stand for is that of the last digit and ten times that of the others. -/
theorem foldl_lastDigits (h : n < 10 ^ width) :
    (lastDigits width n).foldl (fun a c => a * 10 + (c.toNat - '0'.toNat)) 0 = n := by
  induction width generalizing n with
  | zero => exact (Nat.lt_one_iff.mp h).symm
  | succ width ih =>
    have hdigit : ∀ d < 10, (Nat.digitChar d).toNat - '0'.toNat = d := by decide
    have hrest : n / 10 < 10 ^ width := by
      rw [pow_succ] at h
      omega
    rw [lastDigits, List.foldl_append, ih hrest, List.foldl_cons, List.foldl_nil,
      hdigit _ (Nat.mod_lt n (by decide))]
    omega

namespace Iso

/-- A number of a fixed width is read back, whatever follows. -/
theorem digits_append (hwidth : 0 < width) (h : n < 10 ^ width) (rest : List Char) :
    digits width (paddedDigits width n ++ rest) = some (n, rest) := by
  have hlength := length_lastDigits width n
  have hall : (lastDigits width n).all Text.isAsciiDigit = true :=
    List.all_eq_true.mpr fun c hc => isAsciiDigit_of_mem_lastDigits hc
  rw [paddedDigits_eq hwidth h, digits, List.take_left' hlength, List.drop_left' hlength,
    if_pos ⟨hlength, hall⟩, foldl_lastDigits h]

end Iso
end LabelPress
