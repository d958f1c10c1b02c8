import Promotions.Decimal.Amount
import Promotions.Proofs.Decimal.Spelled

/-! Decimals are read back as they were written. Zeros that are added in front of the digits count
for nothing, and the point and the exponent together give the exponent of the number again. -/
namespace Promotions.Decimal

open Token (pointFraction)

variable {digits : List Char}

theorem toDigitsAll (n : Nat) : (Nat.toDigits 10 n).all Char.isDigit = true :=
  List.all_eq_true.mpr fun _ mem => Nat.isDigit_of_mem_toDigits (by decide) (by decide) mem

theorem zerosAll (zeros n : Nat) :
    (List.replicate zeros '0' ++ Nat.toDigits 10 n).all Char.isDigit = true := by
  rw [List.all_append, toDigitsAll, Bool.and_true, List.all_replicate]
  simp

theorem zerosRead (zeros n : Nat) :
    Nat.ofDigitChars 10 (List.replicate zeros '0' ++ Nat.toDigits 10 n) 0 = n := by
  rw [Nat.ofDigitChars_append, Nat.ofDigitChars_replicate_zero, Nat.mul_zero,
    Nat.ofDigitChars_ten_toDigits]

theorem exponentRead (shift : Int) : exponent?
    ((if shift < 0 then '-' else '+') :: Nat.toDigits 10 shift.natAbs) = some shift := by
  have read : digits? (Nat.toDigits 10 shift.natAbs) = some shift.natAbs := by
    rw [digits?, if_pos (toDigitsAll _), Nat.ofDigitChars_ten_toDigits]
  by_cases below : shift < 0
  · have negated : signed true shift.natAbs = shift := by
      rw [signed, if_pos rfl]
      omega
    rw [if_pos below, exponent?, takeSign]
    simp only [Nat.toDigits_ne_nil, if_false, read, Option.map_some, negated]
  · have same : signed false shift.natAbs = shift := by
      rw [signed, if_neg Bool.false_ne_true]
      omega
    rw [if_neg below, exponent?, takeSign]
    simp only [Nat.toDigits_ne_nil, if_false, read, Option.map_some, same]

theorem exponentWritten (shift : Int) :
    let tail := 'E' :: (if shift < 0 then '-' else '+') :: Nat.toDigits 10 shift.natAbs
    Shift tail shift ∧ tail.all writtenChar = true := by
  refine ⟨.exponent (exponentRead shift), ?_⟩
  have digits : (Nat.toDigits 10 shift.natAbs).all writtenChar = true := by
    rw [List.all_eq_true]
    intro c mem
    simp [writtenChar, Token.numeralChar, List.all_eq_true.mp (toDigitsAll _) c mem]
  have sign : writtenChar (if shift < 0 then '-' else '+') = true := by split <;> rfl
  rw [List.all_cons, List.all_cons, sign, digits]
  rfl

/-- A point in front of the last digits, with zeros in front if there are not enough of them. -/
theorem pointedSplit (present : digits ≠ []) (places : Nat) : ∃ zeros whole fraction,
    pointed digits places = whole ++ pointFraction fraction ∧ whole ≠ [] ∧
      whole ++ fraction = List.replicate zeros '0' ++ digits ∧ fraction.length = places := by
  unfold pointed
  split
  · rename_i none
    exact ⟨0, digits, [], by simp [pointFraction], present, by simp, by simp [none]⟩
  · rename_i some
    generalize same : List.replicate (places + 1 - digits.length) '0' ++ digits = padded
    have long : places < padded.length := by
      rw [← same, List.length_append, List.length_replicate]
      omega
    have count : (padded.drop (padded.length - places)).length = places := by
      rw [List.length_drop]
      omega
    refine ⟨_, padded.take (padded.length - places), padded.drop (padded.length - places),
      ?_, ?_, (List.take_append_drop ..).trans same.symm, count⟩
    · cases fraction : padded.drop (padded.length - places) with
      | nil => simp [fraction] at count; omega
      | cons =>
        dsimp only
        rw [fraction]
        rfl
    · intro none
      have := congrArg List.length none
      rw [List.length_take, List.length_nil] at this
      omega

theorem scientificSplit (d : Char) (rest : List Char) (shift : Int) :
    scientific (d :: rest) shift = [d] ++ pointFraction rest ++
      'E' :: (if shift < 0 then '-' else '+') :: Nat.toDigits 10 shift.natAbs := by
  cases rest <;> rfl

/-- The parts of a number that is written out, and what they say of its exponent. -/
theorem finiteSplit (coefficient : Nat) (exponent : Int) : ∃ zeros whole fraction tail shift,
    finiteText coefficient exponent = whole ++ pointFraction fraction ++ tail ∧ whole ≠ [] ∧
      whole ++ fraction = List.replicate zeros '0' ++ Nat.toDigits 10 coefficient ∧
      Shift tail shift ∧ tail.all writtenChar = true ∧ shift - fraction.length = exponent := by
  unfold finiteText
  dsimp only
  split
  · rename_i few
    obtain ⟨zeros, whole, fraction, split, present, all, count⟩ :=
      pointedSplit Nat.toDigits_ne_nil exponent.natAbs
    exact ⟨zeros, whole, fraction, [], 0, by rw [split, List.append_nil], present, all, .none, rfl,
      by omega⟩
  · obtain ⟨d, rest, same⟩ := List.exists_cons_of_ne_nil (@Nat.toDigits_ne_nil coefficient 10)
    have count : digitCount coefficient = rest.length + 1 := by
      rw [digitCount, same, List.length_cons]
    obtain ⟨behind, inside⟩ := exponentWritten (adjusted coefficient exponent)
    refine ⟨0, [d], rest, _, _, ?_, List.cons_ne_nil _ _, same.symm, behind, inside, ?_⟩
    · rw [same]
      exact scientificSplit d rest _
    · rw [adjusted]
      omega

/-- A number that is written out is read as itself, if a numeral may have such an exponent. -/
theorem readText (negative : Bool) (coefficient : Nat) (exponent : Int) :
    read? (finite negative coefficient exponent).text =
      if inRange coefficient exponent then some (finite negative coefficient exponent)
      else none := by
  obtain ⟨zeros, whole, fraction, tail, shift, split, present, all, behind, inside, same⟩ :=
    finiteSplit coefficient exponent
  have digits := zerosAll zeros coefficient
  rw [← all, List.all_append, Bool.and_eq_true] at digits
  have read := @readParts inRange negative _ _ _ _ present digits.1 digits.2 behind inside
  rw [same, all, zerosRead, ← split] at read
  exact read

/-- Numbers that can be computed, and all beside them that have digits enough, are in range. -/
theorem computableInRange {coefficient : Nat} {exponent : Int}
    (low : tiniest ≤ adjusted coefficient exponent)
    (high : adjusted coefficient exponent ≤ maxExponent)
    (short : digitCount coefficient ≤ mostDigits) : inRange coefficient exponent = true := by
  have positive := digitCountPos coefficient
  unfold tiniest minExponent precision at low
  unfold maxExponent at high
  unfold mostDigits at short
  rw [inRange, Bool.and_eq_true, decide_eq_true_eq, decide_eq_true_eq]
  rw [adjusted] at *
  omega

end Promotions.Decimal
