import Promotions.Proofs.Lexing
import Promotions.Decimal.Numeral

/-! The decimals that numerals stand for: digits with a point, and an exponent if there is one. -/
namespace Promotions.Decimal

open Token (pointFraction numeralChar numeralChars)

variable {admits : Nat → Int → Bool} {negative : Bool} {chars whole fraction tail : List Char}
  {shift : Int}

/-- The characters that decimals are written with. -/
def writtenChar (c : Char) : Bool := numeralChar c || c = 'E' || c = '+' || c = '-'

theorem writtenPlain {c : Char} (inside : writtenChar c = true) :
    Text.isBlank c = false ∧ c ≠ '_' ∧ 0 < c.toNat ∧ c.toNat < 128 := by
  simp only [writtenChar, numeralChar, Bool.or_eq_true, decide_eq_true_eq, or_assoc] at inside
  rcases inside with digit | rfl | rfl | rfl | rfl
  · obtain ⟨low, high⟩ := Char.isDigit_iff_toNat.mp digit
    have low : 48 ≤ c.toNat := low
    have high : c.toNat ≤ 57 := high
    refine ⟨?_, ?_, by omega, by omega⟩
    · simp only [Text.isBlank, Bool.or_eq_false_iff, Bool.and_eq_false_iff, decide_eq_false_iff_not,
        beq_eq_false_iff_ne]
      omega
    · rintro rfl
      cases digit
  all_goals decide

theorem trimNone (none : ∀ c ∈ chars, Text.isBlank c = false) : Text.trim chars = chars := by
  have kept {chars : List Char} (none : ∀ c ∈ chars, Text.isBlank c = false) :
      chars.dropWhile Text.isBlank = chars := by
    cases chars with
    | nil => rfl
    | cons c rest => simp [none c List.mem_cons_self]
  rw [Text.trim, kept none, kept (by simpa using none), List.reverse_reverse]

theorem plainWritten (inside : ∀ c ∈ chars, writtenChar c = true) : plain chars = some chars := by
  induction chars with
  | nil => rfl
  | cons c rest ih =>
    obtain ⟨first, later⟩ := List.forall_mem_cons.mp inside
    obtain ⟨_, noBar, positive, ascii⟩ := writtenPlain first
    simp [plain, noBar, positive, ascii, ih later]

theorem digitLower {c : Char} (digit : c.isDigit = true) : c.toLower = c := by
  have upper : ¬ (c.val ≥ 'A'.val ∧ c.val ≤ 'Z'.val) := by
    simp only [Char.isDigit] at digit
    grind
  exact dif_neg upper

theorem unsignedNumeral {c : Char} (digit : c.isDigit = true) :
    unsigned? admits negative (c :: chars) = number? admits negative (c :: chars) := by
  unfold unsigned?
  rw [List.map_cons, digitLower digit]
  split
  case h_5 => rfl
  all_goals
    rename_i same
    rw [(List.cons.inj same).1] at digit
    cases digit

/-- What may be behind the digits of a number, and how far it shifts the point. -/
inductive Shift : List Char → Int → Prop
  | none : Shift [] 0
  | exponent {digits : List Char} {shift : Int} (read : exponent? digits = some shift) :
      Shift ('E' :: digits) shift

theorem numberWritten (present : whole ≠ []) (digits : whole.all Char.isDigit = true)
    (digits' : fraction.all Char.isDigit = true) (behind : Shift tail shift) :
    let coefficient := Nat.ofDigitChars 10 (whole ++ fraction) 0
    number? admits negative (whole ++ pointFraction fraction ++ tail) =
      if admits coefficient (shift - fraction.length) then
        some (.finite negative coefficient (shift - fraction.length)) else none := by
  intro coefficient
  have mantissa : (whole ++ pointFraction fraction ++ tail).takeWhile (fun c => c ≠ 'e' ∧ c ≠ 'E') =
      whole ++ pointFraction fraction := by
    apply Token.takeWhileFront
    · have inside := numeralChars digits digits'
      rw [List.all_eq_true] at inside ⊢
      intro c mem
      have inside := inside c mem
      rw [decide_eq_true_eq]
      constructor <;> rintro rfl <;> cases inside
    · cases behind <;> simp
  have point : (whole ++ pointFraction fraction).takeWhile (· ≠ '.') = whole := by
    apply Token.takeWhileFront
    · rw [List.all_eq_true] at digits ⊢
      intro c mem
      have digit := digits c mem
      simp only [ne_eq, decide_not, Bool.not_eq_true', decide_eq_false_iff_not]
      rintro rfl
      cases digit
    · cases fraction <;> simp [pointFraction]
  have later : (whole ++ pointFraction fraction).drop (whole.length + 1) = fraction := by
    cases fraction <;> simp [pointFraction]
  have all : (whole ++ fraction).all Char.isDigit = true := by simp [digits, digits']
  simp only [number?, mantissa, List.drop_left, point, later, digits?, all]
  cases behind with
  | none => simp [present, coefficient, bind, Option.bind]
  | exponent read => simp [read, present, coefficient, bind, Option.bind]

/-- Digits with a point are read as what they are, with a sign and an exponent that they have. -/
theorem readParts (present : whole ≠ []) (digits : whole.all Char.isDigit = true)
    (digits' : fraction.all Char.isDigit = true) (behind : Shift tail shift)
    (inside : tail.all writtenChar = true) :
    let coefficient := Nat.ofDigitChars 10 (whole ++ fraction) 0
    let written := whole ++ pointFraction fraction ++ tail
    readIn? admits (String.ofList (if negative then '-' :: written else written)) =
      if admits coefficient (shift - fraction.length) then
        some (.finite negative coefficient (shift - fraction.length)) else none := by
  intro coefficient written
  have inside : ∀ c ∈ if negative then '-' :: written else written, writtenChar c = true := by
    have among : ∀ c ∈ written, writtenChar c = true := by
      rw [List.all_eq_true] at inside
      intro c mem
      rcases List.mem_append.mp mem with front | later
      · rw [writtenChar, List.all_eq_true.mp (numeralChars digits digits') c front]
        rfl
      · exact inside c later
    cases negative with
    | false => exact among
    | true => exact List.forall_mem_cons.mpr ⟨rfl, among⟩
  obtain ⟨first, others, same⟩ := List.exists_cons_of_ne_nil present
  have digit : first.isDigit = true := by simp_all
  have front : written = first :: (others ++ pointFraction fraction ++ tail) := by
    simp [written, same]
  have sign : takeSign (if negative then '-' :: written else written) = (negative, written) := by
    cases negative with
    | true => rfl
    | false =>
      rw [if_neg (by simp), front, takeSign]
      all_goals rintro _ same; cases same; cases digit
  have number : unsigned? admits negative written = number? admits negative written := by
    rw [front, unsignedNumeral digit]
  rw [readIn?, String.toList_ofList, trimNone fun c mem => (writtenPlain (inside c mem)).1,
    plainWritten inside]
  simp only [bind, Option.bind, sign, number]
  exact numberWritten present digits digits' behind

theorem readNumeral (present : whole ≠ []) (digits : whole.all Char.isDigit = true)
    (digits' : fraction.all Char.isDigit = true)
    (fits : inRange (Nat.ofDigitChars 10 (whole ++ fraction) 0) (-fraction.length) = true) :
    read? (String.ofList (whole ++ pointFraction fraction)) =
      some (.finite false (Nat.ofDigitChars 10 (whole ++ fraction) 0) (-fraction.length)) := by
  have read := @readParts inRange false _ _ _ _ present digits digits' .none rfl
  rw [read?]
  simpa only [Int.zero_sub, fits, if_true, List.append_nil, Bool.false_eq_true, if_false] using read

theorem digitsLess {chars : List Char} (digits : chars.all Char.isDigit = true) (start : Nat) :
    Nat.ofDigitChars 10 chars start < (start + 1) * 10 ^ chars.length := by
  induction chars generalizing start with
  | nil => simp
  | cons c chars ih =>
    rw [List.all_cons, Bool.and_eq_true] at digits
    obtain ⟨low, high⟩ := Char.isDigit_iff_toNat.mp digits.1
    have one : 10 * start + (c.toNat - '0'.toNat) + 1 ≤ (start + 1) * 10 := by
      have high : c.toNat ≤ 57 := high
      have zero : '0'.toNat = 48 := rfl
      omega
    calc Nat.ofDigitChars 10 (c :: chars) start
        = Nat.ofDigitChars 10 chars (10 * start + (c.toNat - '0'.toNat)) := Nat.ofDigitChars_cons ..
      _ < (10 * start + (c.toNat - '0'.toNat) + 1) * 10 ^ chars.length := ih digits.2 _
      _ ≤ (start + 1) * 10 * 10 ^ chars.length := Nat.mul_le_mul_right _ one
      _ = (start + 1) * 10 ^ (c :: chars).length := by
        rw [List.length_cons, Nat.pow_succ', Nat.mul_assoc]

/-- No numeral is out of range unless it has more than 10^18 digits. -/
theorem numeralFits {whole fraction : List Char}
    (digits : (whole ++ fraction).all Char.isDigit = true) (present : whole ≠ [])
    (short : (whole ++ fraction).length ≤ 1000000000000000000) :
    inRange (Nat.ofDigitChars 10 (whole ++ fraction) 0) (-fraction.length) = true := by
  have positive : 0 < whole.length := List.length_pos_iff.mpr present
  rw [List.length_append] at short
  have count : digitCount (Nat.ofDigitChars 10 (whole ++ fraction) 0) ≤
      whole.length + fraction.length := by
    rw [digitCountLeIff (by omega), ← List.length_append]
    simpa using digitsLess digits 0
  rw [inRange, adjusted, Bool.and_eq_true]
  exact ⟨decide_eq_true (by omega), decide_eq_true (by omega)⟩

end Promotions.Decimal
