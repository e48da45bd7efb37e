import EventRewards.Calendar.Rfc3339
import Mathlib.Data.List.TakeWhile
import Mathlib.Data.Nat.Digits.Defs

/-!
# Numbers as digits

Reading the digits of a number gives the number, zeros before them or not, and stops where the digits
end.
-/

namespace EventRewards

/-! ## Digits of a number -/

theorem isDigit_of_mem_toDigits {number : Nat} {c : Char} (h : c ∈ Nat.toDigits 10 number) :
    c.isDigit = true :=
  Nat.isDigit_of_mem_toDigits (by decide) (by decide) h

theorem natOfDigits_toDigits (number : Nat) : natOfDigits (Nat.toDigits 10 number) = number := by
  calc
    natOfDigits (Nat.toDigits 10 number) = Nat.ofDigitChars 10 (Nat.toDigits 10 number) 0 := by
      simp only [natOfDigits, Nat.ofDigitChars_eq_foldl, Nat.mul_comm]
    _ = number := Nat.ofDigitChars_ten_toDigits

/-- Zeros in front do not count. -/
theorem natOfDigits_zeros_append (zeros : Nat) (digits : List Char) :
    natOfDigits (List.replicate zeros '0' ++ digits) = natOfDigits digits := by
  induction zeros with
  | zero => rfl
  | succ zeros ih => simpa [natOfDigits, List.replicate_succ] using ih

theorem isDigit_of_mem_paddedDigits {width number : Nat} {c : Char}
    (h : c ∈ paddedDigits width number) : c.isDigit = true := by
  rw [paddedDigits, List.mem_append] at h
  rcases h with hzero | hdigit
  · rw [List.eq_of_mem_replicate hzero]
    rfl
  · exact isDigit_of_mem_toDigits hdigit

theorem natOfDigits_paddedDigits (width number : Nat) :
    natOfDigits (paddedDigits width number) = number := by
  rw [paddedDigits, natOfDigits_zeros_append, natOfDigits_toDigits]

theorem le_length_paddedDigits (width number : Nat) :
    width ≤ (paddedDigits width number).length := by
  simp only [paddedDigits, List.length_append, List.length_replicate]
  omega

theorem length_paddedDigits {width number : Nat} (hwidth : 0 < width) (h : number < 10 ^ width) :
    (paddedDigits width number).length = width := by
  have hfits := Nat.toDigits_length 10 number width hwidth h
  simp only [paddedDigits, List.length_append, List.length_replicate]
  omega

/-! ## Reading digits -/

/-- Whether no digit stands at the front of a text. -/
def EndsDigits (rest : List Char) : Prop :=
  ∀ c ∈ rest.head?, c.isDigit = false

variable {digits rest : List Char}

theorem EndsDigits.cons {c : Char} (h : c.isDigit = false) : EndsDigits (c :: rest) := by
  simpa [EndsDigits] using h

theorem EndsDigits.takeWhile (h : EndsDigits rest) : rest.takeWhile Char.isDigit = [] := by
  cases rest with
  | nil => rfl
  | cons c rest => simp [h c rfl]

theorem EndsDigits.dropWhile (h : EndsDigits rest) : rest.dropWhile Char.isDigit = rest := by
  cases rest with
  | nil => rfl
  | cons c rest => simp [h c rfl]

theorem EndsDigits.take (h : EndsDigits rest) (n : Nat) : EndsDigits (rest.take n) := by
  intro c hc
  rw [List.head?_take] at hc
  cases n with
  | zero => cases hc
  | succ n => exact h c hc

theorem spanDigits_append (hdigits : ∀ c ∈ digits, c.isDigit = true) (hrest : EndsDigits rest) :
    spanDigits (digits ++ rest) = (digits, rest) := by
  simp [spanDigits, List.takeWhile_append_of_pos hdigits, List.dropWhile_append_of_pos hdigits,
    hrest.takeWhile, hrest.dropWhile]

namespace Rfc3339

/-- A number is read off its digits where there are enough of them and either no more are taken or
none follows. -/
theorem number?_append {least most : Nat} (hdigits : ∀ c ∈ digits, c.isDigit = true)
    (hleast : least ≤ digits.length) (hmost : digits.length ≤ most)
    (hend : digits.length = most ∨ EndsDigits rest) :
    number? least most (digits ++ rest) = some (natOfDigits digits, rest) := by
  have htaken : ((digits ++ rest).take most).takeWhile Char.isDigit = digits := by
    rw [List.take_append, List.take_of_length_le hmost, List.takeWhile_append_of_pos hdigits]
    rcases hend with hfull | hnone
    · simp [hfull]
    · simp [(hnone.take _).takeWhile]
  simp [number?, htaken, hleast]

/-- A number of a fixed width is read off by its width. -/
theorem number?_paddedDigits {least width number : Nat} (hwidth : 0 < width) (hleast : least ≤ width)
    (h : number < 10 ^ width) (rest : List Char) :
    number? least width (paddedDigits width number ++ rest) = some (number, rest) := by
  have hlength := length_paddedDigits hwidth h
  have hread : number? least width (paddedDigits width number ++ rest) =
      some (natOfDigits (paddedDigits width number), rest) :=
    number?_append (fun _ => isDigit_of_mem_paddedDigits) (hleast.trans hlength.ge) hlength.le
      (.inl hlength)
  simpa only [natOfDigits_paddedDigits] using hread

end Rfc3339
end EventRewards
