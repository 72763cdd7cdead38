import Trivariate.Proofs.Number.Integral

namespace Trivariate.Number

def Finite (x : Float) : Prop := rung x < top

/-- The middle between the greatest finite double and 2^1024. -/
def limit : Nat := 1 <<< 1024 - 1 <<< 970

def Literal (x : Float) : Prop := ∃ negative digits, x = ofDigits negative digits

instance (x : Float) : Decidable (Finite x) :=
  inferInstanceAs (Decidable (_ < _))

open Float.Model UnpackedFloat

theorem isNaNBits_iff (b : BitVec 64) :
    @isNaNBits Format.binary64 b = true ↔ top < b.toNat % signBit := by
  have ones : (-BitVec.ofNat Format.binary64.exponentBits 1).toNat = 2047 := by decide
  have zeros : (BitVec.ofNat Format.binary64.mantissaBitsWithoutImplicit 0).toNat = 0 := by decide
  simp only [isNaNBits, unpackExponent_def, unpackMantissa_def, decide_eq_true_eq, ne_eq,
    ← BitVec.toNat_inj, ones, zeros, BitVec.extractLsb'_toNat, Nat.shiftRight_eq_div_pow, signBit,
    top, stretch]
  omega

theorem toBits_ofBits {b : UInt64} (number : b.toNat % signBit ≤ top) :
    (Float.ofBits b).toBits = b := by
  have plain : @isNaNBits Format.binary64 b.toBitVec = false := by
    rw [Bool.eq_false_iff, Ne, isNaNBits_iff, UInt64.toNat_toBitVec]
    omega
  rw [← UInt64.toBitVec_inj]
  exact (pack_unpack _).trans (by rw [plain]; rfl)

theorem eq_nan_of_top_lt {x : Float} (above : top < rung x) : x = nan := by
  have canonical := x.toModel.valid.eq_packedNaN
  have same : nan.toBits.toBitVec = packedNaN Format.binary64 := by decide +kernel
  rw [rung, ← UInt64.toNat_toBitVec, ← isNaNBits_iff] at above
  obtain ⟨exponent, fraction⟩ := of_decide_eq_true above
  rw [← Float.toBits_inj, ← UInt64.toBitVec_inj, same]
  exact canonical exponent fraction

theorem rung_ofRung (negative : Bool) {n : Nat} (number : n ≤ top) :
    rung (ofRung negative n) = n := by
  have below : top < signBit := by decide
  have wide : 2 * signBit = UInt64.size := by decide
  obtain ⟨v, value, small, rest⟩ : ∃ v, (if negative then signBit + n else n) = v ∧
      v < UInt64.size ∧ v % signBit = n := by
    refine ⟨_, rfl, ?_⟩
    cases negative with
    | true =>
      simp only [if_true, Nat.add_mod_left]
      exact ⟨by omega, Nat.mod_eq_of_lt (by omega)⟩
    | false =>
      simp only [Bool.false_eq_true, if_false]
      exact ⟨by omega, Nat.mod_eq_of_lt (by omega)⟩
  have bits : (UInt64.ofNat v).toNat = v := UInt64.toNat_ofNat_of_lt' small
  rw [ofRung, value, rung, toBits_ofBits (by rw [bits, rest]; exact number), bits, rest]

theorem nearest_lt_top_iff (c : Nat) : nearest (c <<< 1074) 1 < top ↔ c < limit := by
  have middle : height (top - 1) + height top = 2 * (limit * one) := by decide +kernel
  have positive : 0 < one := by decide
  have odd : (top - 1) % 2 ≠ 0 := by decide
  have last : top - 1 < top := by decide
  obtain ⟨n, rounds, same⟩ : ∃ n, Rounds (c <<< 1074) 1 n ∧ nearest (c <<< 1074) 1 = min n top :=
    ⟨_, rounds_place _ _ Nat.one_pos, rfl⟩
  have lower := rounds.lower
  have upper := rounds.upper
  rw [shiftLeft_eq_mul_one] at lower upper
  rw [same]
  constructor
  · intro finite
    have fits : n ≤ top - 1 := by omega
    have here := height_le fits
    have next : height (n + 1) ≤ height top := height_le (by omega)
    have most : c * one < limit * one := by
      apply Nat.lt_of_le_of_ne (by omega)
      intro equal
      -- Halfway the greatest finite rung would have to be even.
      have even := rounds.upper_even (by rw [shiftLeft_eq_mul_one]; omega)
      have greatest : n = top - 1 := by
        by_contra other
        have less : height n < height (top - 1) := height_lt (by omega)
        omega
      exact odd (greatest ▸ even)
    exact Nat.lt_of_mul_lt_mul_right most
  · intro small
    have most := Nat.mul_lt_mul_of_pos_right small positive
    by_contra infinite
    have here : height top ≤ height n := height_le (by omega)
    have before : height (top - 1) ≤ height (n - 1) := height_le (by omega)
    omega

theorem rung_ofDigits (negative : Bool) (digits : List Char) :
    rung (ofDigits negative digits) = nearest (Nat.ofDigitChars 10 digits 0 <<< 1074) 1 := by
  rw [ofDigits_eq]
  exact rung_ofRung negative (Nat.min_le_right ..)

theorem finite_ofDigits_iff (negative : Bool) (digits : List Char) :
    Finite (ofDigits negative digits) ↔ Nat.ofDigitChars 10 digits 0 < limit := by
  rw [Finite, rung_ofDigits, nearest_lt_top_iff]

theorem ofDigits_of_limit_le (negative : Bool) {digits : List Char}
    (large : limit ≤ Nat.ofDigitChars 10 digits 0) :
    ofDigits negative digits = ofRung negative top := by
  have most : nearest (Nat.ofDigitChars 10 digits 0 <<< 1074) 1 ≤ top := Nat.min_le_right ..
  have finite := nearest_lt_top_iff (Nat.ofDigitChars 10 digits 0)
  have infinite : nearest (Nat.ofDigitChars 10 digits 0 <<< 1074) 1 = top := by omega
  rw [ofDigits_eq, infinite]

/-- A literal has no fraction, so nothing but its size can keep it from being a whole number. -/
theorem Literal.integral_iff {x : Float} (literal : Literal x) : Integral x ↔ Finite x := by
  obtain ⟨negative, digits, rfl⟩ := literal
  rw [Integral, Finite, rung_ofDigits]
  exact ⟨fun integral => integral.1, fun finite => ⟨finite, whole_nearest finite⟩⟩

theorem signed_minus (negative : Bool) {d : Char} (digit : d.isDigit = true) (cs : List Char) :
    signed (minus negative ++ d :: cs) = (negative, d :: cs) := by
  cases negative with
  | true => rfl
  | false =>
    unfold signed
    split
    · rename_i sign
      cases (List.cons.inj sign).1
      cases digit
    · rename_i sign
      cases (List.cons.inj sign).1
      cases digit
    · rfl

theorem toLower_ne_of_isDigit {d letter : Char} (digit : d.isDigit = true)
    (alpha : letter.isAlpha = true) : d.toLower ≠ letter := by
  rintro rfl
  rw [Char.isAlpha_toLower_eq_isAlpha] at alpha
  simp [Char.isAlpha, Char.isUpper, Char.isLower, Char.isDigit, UInt32.le_iff_toNat_le]
    at alpha digit
  omega

theorem read?_of_isDigit (negative : Bool) {d : Char} (digit : d.isDigit = true) (cs : List Char) :
    read? (String.ofList (minus negative ++ d :: cs)) = ofText? negative (d :: cs) := by
  have other : ∀ letter rest, letter.isAlpha = true →
      (d :: cs).map Char.toLower ≠ letter :: rest := by
    intro letter rest alpha same
    exact toLower_ne_of_isDigit digit alpha (List.cons.inj same).1
  have infinity : ¬ ((d :: cs).map Char.toLower = "inf".toList ∨
      (d :: cs).map Char.toLower = "infinity".toList) :=
    not_or.mpr ⟨other 'i' _ rfl, other 'i' _ rfl⟩
  have none : (d :: cs).map Char.toLower ≠ "nan".toList := other 'n' _ rfl
  simp only [read?, String.toList_ofList, signed_minus negative digit, if_neg infinity, if_neg none]

theorem span_digits {digits : List Char} (all : ∀ c ∈ digits, c.isDigit = true) (rest : List Char)
    (stops : rest.takeWhile Char.isDigit = []) :
    (digits ++ rest).span Char.isDigit = (digits, rest) := by
  have split := List.takeWhile_append_dropWhile (p := Char.isDigit) (l := rest)
  rw [stops, List.nil_append] at split
  rw [List.span_eq_takeWhile_dropWhile, List.takeWhile_append_of_pos all,
    List.dropWhile_append_of_pos all, stops, split, List.append_nil]

theorem ofText?_digits (negative : Bool) {digits : List Char} (nonempty : digits ≠ [])
    (all : ∀ c ∈ digits, c.isDigit = true) :
    ofText? negative digits = some (ofDigits negative digits) := by
  have run := span_digits all [] rfl
  rw [List.append_nil] at run
  have value : Nat.ofDigitChars 10 (digits ++ []) 0 = Nat.ofDigitChars 10 digits 0 := by
    rw [List.append_nil]
  simp only [ofText?, run, fraction, exponent?]
  rw [if_neg (fun both => nonempty both.1), value]
  rfl

theorem read?_digits (negative : Bool) {digits : List Char} (nonempty : digits ≠ [])
    (all : ∀ c ∈ digits, c.isDigit = true) :
    read? (String.ofList (minus negative ++ digits)) = some (ofDigits negative digits) := by
  obtain ⟨d, cs, rfl⟩ := List.exists_cons_of_ne_nil nonempty
  rw [read?_of_isDigit negative (all d (List.mem_cons_self ..)),
    ofText?_digits negative nonempty all]

theorem literal_zero : Literal 0 :=
  ⟨false, ['0'], by decide +kernel⟩

theorem literal_one : Literal 1 :=
  ⟨false, ['1'], by decide +kernel⟩

end Trivariate.Number
