import Mathlib
import Trivariate.Number.Rounding
import Trivariate.Number.Text

/-! Whole numbers among the doubles and their text. A whole number rounds to a whole number, so
exactly the whole numbers are written without a point. What is written for them reads back to the
same bits. -/
namespace Trivariate.Number

def one : Nat := 1 <<< 1074

def Whole (n : Nat) : Prop := one ∣ height n

def Integral (x : Float) : Prop := rung x < top ∧ Whole (rung x)

instance (n : Nat) : Decidable (Whole n) :=
  inferInstanceAs (Decidable (_ ∣ _))

instance (x : Float) : Decidable (Integral x) :=
  inferInstanceAs (Decidable (_ ∧ _))

example : Integral (-3) ∧ ¬ Integral 0.5 := by decide +kernel

theorem ofRung_rung (x : Float) : ofRung (isNegative x) (rung x) = x := by
  have bound : x.toBits.toNat < 2 * signBit := x.toBits.toNat_lt
  have whole : (if isNegative x then signBit + rung x else rung x) = x.toBits.toNat := by
    simp only [isNegative, rung, signBit] at bound ⊢
    by_cases negative : 0x8000000000000000 ≤ x.toBits.toNat
    · simp only [negative, decide_true, if_true]
      omega
    · simp only [negative, decide_false, Bool.false_eq_true, if_false]
      omega
  rw [ofRung, whole, UInt64.ofNat_toNat, Float.ofBits_toBits]

theorem shiftLeft_eq_mul (c k : Nat) : c <<< k = c * 1 <<< k := by
  simp only [Nat.shiftLeft_eq, Nat.one_mul]

theorem shiftLeft_eq_mul_one (c : Nat) : c <<< 1074 = c * one :=
  shiftLeft_eq_mul c 1074

theorem Rounds.exact (n : Nat) : Rounds (height n) 1 n := by
  have above := height_lt_succ n
  have below : height (n - 1) ≤ height n := height_le (by omega)
  constructor
  · omega
  · omega
  · intro positive same
    have less : height (n - 1) < height n := height_lt (by omega)
    omega
  · omega

theorem rounds_nearest {num den : Nat} (positive : 0 < den) (finite : nearest num den < top) :
    Rounds num den (nearest num den) := by
  have rounds := rounds_place num den positive
  simp only [nearest] at finite ⊢
  rw [Nat.min_eq_left (by omega)]
  exact rounds

theorem whole_of_le {n : Nat} (high : 1075 * stretch ≤ n) : Whole n := by
  have positive : 0 < stretch := by decide
  have steep : 1075 ≤ n / stretch := (Nat.le_div_iff_mul_le positive).mpr high
  obtain ⟨d, exponent⟩ : ∃ d, n / stretch - 1 = d + 1074 := ⟨n / stretch - 1 - 1074, by omega⟩
  rw [Whole, height, if_neg (by omega), exponent, Nat.shiftLeft_add, shiftLeft_eq_mul_one]
  exact Nat.dvd_mul_left ..

theorem exists_height_eq {c : Nat} (short : c < 2 * stretch) :
    ∃ m, m ≤ top ∧ height m = c <<< 1074 := by
  by_cases zero : c = 0
  · subst zero
    exact ⟨0, Nat.zero_le _, by rw [Nat.zero_shiftLeft]; rfl⟩
  · -- Shifted up to 53 bits, the number is a place in a stretch.
    have bits : c.log2 ≤ 52 := Nat.le_of_lt_succ ((Nat.log2_lt zero).mpr short)
    obtain ⟨k, length⟩ : ∃ k, c.log2 + k = 52 := ⟨52 - c.log2, by omega⟩
    have low : stretch ≤ c <<< k := by
      have least := Nat.mul_le_mul_right (2 ^ k) (Nat.log2_self_le zero)
      rw [← Nat.pow_add, length] at least
      rw [Nat.shiftLeft_eq]
      exact least
    have high : c <<< k < 2 * stretch := by
      have greatest := Nat.mul_lt_mul_of_pos_right (Nat.lt_log2_self (n := c)) (Nat.two_pow_pos k)
      have exponent : c.log2 + 1 + k = 53 := by omega
      rw [← Nat.pow_add, exponent] at greatest
      rw [Nat.shiftLeft_eq]
      exact greatest
    have place := height_place (1074 - k) (c <<< k) (Or.inr low) (Nat.le_of_lt high)
    have exponent : k + (1074 - k) = 1074 := by omega
    refine ⟨(1074 - k) * stretch + c <<< k, ?_, ?_⟩
    · have steps := Nat.mul_le_mul_right stretch (Nat.sub_le 1074 k)
      simp only [top]
      omega
    · rw [place, ← Nat.shiftLeft_add, exponent]

theorem whole_nearest {c : Nat} (finite : nearest (c <<< 1074) 1 < top) :
    Whole (nearest (c <<< 1074) 1) := by
  by_cases high : 1075 * stretch ≤ nearest (c <<< 1074) 1
  · exact whole_of_le high
  · have rounds := rounds_nearest Nat.one_pos finite
    have short : c < 2 * stretch := by
      have edge : height (1075 * stretch) = stretch <<< 1074 :=
        height_place 1074 stretch (Or.inr (Nat.le_refl _)) (by omega)
      have here : height (nearest (c <<< 1074) 1) ≤ height (1075 * stretch) :=
        height_le (by omega)
      have next : height (nearest (c <<< 1074) 1 + 1) ≤ height (1075 * stretch) :=
        height_le (by omega)
      have upper := rounds.upper
      have positive : 0 < one := by decide
      rw [edge, shiftLeft_eq_mul_one] at here next
      rw [shiftLeft_eq_mul_one] at upper here next
      have few : c * one ≤ stretch * one := by omega
      have bound := Nat.le_of_mul_le_mul_right few positive
      have nonempty : 0 < stretch := by decide
      omega
    obtain ⟨m, fits, exact⟩ := exists_height_eq short
    have same : nearest (c <<< 1074) 1 = m := by
      rw [← exact]
      exact nearest_eq Nat.one_pos (Rounds.exact m) fits
    rw [same, Whole, exact, shiftLeft_eq_mul_one]
    exact Nat.dvd_mul_left ..

theorem tenTo_eq (j : Nat) : tenTo j = 1 <<< j * Nat.pow 5 j := by
  rw [Nat.shiftLeft_eq, Nat.one_mul]
  exact Nat.mul_pow 2 5 j

theorem tenTo_pos (j : Nat) : 0 < tenTo j :=
  Nat.pow_pos (by decide)

theorem parts_of_height {n c : Nat} (whole : height n = c * one) : parts n = c * tenTo 1074 := by
  rw [one] at whole
  rw [parts, whole]
  generalize 1074 = places
  rw [tenTo_eq, Nat.mul_assoc]

theorem onGrid?_exact {n j c : Nat} (on : parts n = c * tenTo j) : onGrid? n j = some c := by
  have positive := tenTo_pos j
  have nearer : 2 * (c * tenTo j) < (2 * c + 1) * tenTo j := by
    rw [Nat.add_mul, Nat.mul_assoc]
    omega
  have rounds := roundsTo_parts n
  rw [on] at rounds
  simp only [onGrid?, on, Nat.mul_div_cancel _ positive, rounds, if_pos nearer]
  split
  all_goals simp_all

theorem coarsest_places {n c : Nat} (on : parts n = c * tenTo 1074) (j : Nat) (coarse : 1074 ≤ j) :
    (coarsest n j).places = 0 := by
  induction j with
  | zero => omega
  | succ j ih =>
    rw [coarsest]
    split
    · exact Nat.sub_eq_zero_of_le coarse
    · rename_i none
      by_cases last : j + 1 = 1074
      · rw [last, onGrid?_exact on] at none
        cases none
      · exact ih (by omega)

theorem le_log2 {n k : Nat} (large : 1 <<< k ≤ n) : k ≤ n.log2 := by
  have positive := Nat.two_pow_pos k
  rw [Nat.shiftLeft_eq, Nat.one_mul] at large
  exact (Nat.le_log2 (by omega)).mpr large

theorem shortest_places_of_whole {n : Nat} (whole : Whole n) : (shortest n).places = 0 := by
  obtain ⟨c, equal⟩ := whole
  rw [Nat.mul_comm] at equal
  have on := parts_of_height equal
  rw [shortest]
  split
  · rfl
  · rename_i nonzero
    apply coarsest_places on
    have positive : parts 0 < parts n := parts_lt (by omega)
    have factor : 1 ≤ c := by
      apply Nat.one_le_iff_ne_zero.mpr
      rintro rfl
      omega
    have least : tenTo 1074 ≤ parts n := by
      rw [on]
      exact Nat.le_mul_of_pos_left _ factor
    have bits : 1 <<< 3567 ≤ tenTo 1074 := by decide +kernel
    have length := le_log2 (Nat.le_trans bits least)
    omega

theorem whole_of_shortest_places {n : Nat} (finite : n < top) (none : (shortest n).places = 0) :
    Whole n := by
  have read := nearest_shortest (Nat.le_of_lt finite)
  rw [none] at read
  rw [← read] at finite ⊢
  exact whole_nearest finite

def minus (negative : Bool) : List Char :=
  if negative then ['-'] else []

theorem toList_write (x : Float) (number : rung x ≤ top) :
    (write x).toList = minus (isNegative x) ++
      if rung x = top then ['i', 'n', 'f'] else (shortest (rung x)).digits := by
  rw [write, if_neg (by omega), minus, String.toList_ofList]
  cases isNegative x <;> rfl

theorem ofDigits_eq (negative : Bool) (digits : List Char) :
    ofDigits negative digits =
      ofRung negative (nearest (Nat.ofDigitChars 10 digits 0 <<< 1074) 1) := by
  have exponent : ∀ c : Nat, max (-(c.log2 + 400 : Int)) (min 0 400) = 0 := by omega
  have unit : tenTo 0 = 1 := rfl
  rw [ofDigits, ofDecimal]
  simp only [exponent, Int.toNat_zero, Int.neg_zero, unit, Nat.mul_one]

theorem isDigit_of_mem_toDigits {n : Nat} : ∀ c ∈ Nat.toDigits 10 n, c.isDigit = true :=
  fun _ => Nat.isDigit_of_mem_toDigits (by decide) (by decide)

theorem toList_write_integral {x : Float} (integral : Integral x) :
    ∃ c, (write x).toList = minus (isNegative x) ++ Nat.toDigits 10 c ∧
      ofDigits (isNegative x) (Nat.toDigits 10 c) = x := by
  obtain ⟨finite, whole⟩ := integral
  have places := shortest_places_of_whole whole
  have read := nearest_shortest (Nat.le_of_lt finite)
  rw [places] at read
  refine ⟨(shortest (rung x)).coefficient, ?_, ?_⟩
  · have unit : tenTo 0 = 1 := rfl
    have digits : (shortest (rung x)).digits = Nat.toDigits 10 (shortest (rung x)).coefficient := by
      rw [Decimal.digits, if_pos places, places, unit, Nat.div_one]
    rw [toList_write x (Nat.le_of_lt finite), if_neg (by omega), digits]
  · rw [ofDigits_eq, Nat.ofDigitChars_ten_toDigits]
    exact (congrArg (ofRung (isNegative x)) read).trans (ofRung_rung x)

/-- The text of any other double comes to a point or a letter after its sign and its digits. -/
theorem toList_write_other {x : Float} (other : ¬ Integral x) :
    ∃ negative digits symbol rest,
      (write x).toList = minus negative ++ digits ++ symbol :: rest ∧
        (∀ c ∈ digits, c.isDigit = true) ∧ symbol ∈ ['.', 'i', 'N'] := by
  by_cases none : top < rung x
  · exact ⟨false, [], 'N', ['a', 'N'], by rw [write, if_pos none]; rfl, nofun, by decide⟩
  · have text := toList_write x (by omega)
    by_cases infinite : rung x = top
    · rw [if_pos infinite] at text
      exact ⟨isNegative x, [], 'i', ['n', 'f'], by simp [text], nofun, by decide⟩
    · have places : (shortest (rung x)).places ≠ 0 := by
        intro zero
        have finite : rung x < top := by omega
        exact other ⟨finite, whole_of_shortest_places finite zero⟩
      rw [if_neg infinite, Decimal.digits, if_neg places, ← List.append_assoc] at text
      exact ⟨isNegative x, _, '.', _, text, isDigit_of_mem_toDigits, by decide⟩

end Trivariate.Number
