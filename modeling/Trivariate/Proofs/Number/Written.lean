import Trivariate.Proofs.Number.Literal

namespace Trivariate.Number

theorem places_le_log2 {d : Decimal} {v e : Nat} (least : Nat.pow 5 e ≤ 2 * v)
    (value : v * tenTo d.places = d.coefficient * tenTo e) :
    3 * d.places ≤ d.coefficient.log2 + (e + 1) := by
  have positive : 0 < Nat.pow 5 e := Nat.pow_pos (by decide)
  have few : tenTo d.places ≤ d.coefficient * 2 ^ (e + 1) := by
    apply Nat.le_of_mul_le_mul_left _ positive
    calc Nat.pow 5 e * tenTo d.places
      _ ≤ 2 * v * tenTo d.places := Nat.mul_le_mul_right _ least
      _ = 2 * (d.coefficient * tenTo e) := by rw [Nat.mul_assoc, value]
      _ = Nat.pow 5 e * (d.coefficient * 2 ^ (e + 1)) := by
        rw [tenTo_eq, Nat.shiftLeft_eq, Nat.pow_succ 2]
        ring
  have bits : d.coefficient * 2 ^ (e + 1) < 2 ^ (d.coefficient.log2 + 1 + (e + 1)) := by
    rw [Nat.pow_add 2 (d.coefficient.log2 + 1)]
    exact Nat.mul_lt_mul_of_pos_right Nat.lt_log2_self (Nat.two_pow_pos _)
  have eights : 2 ^ (3 * d.places) ≤ tenTo d.places := by
    rw [Nat.pow_mul]
    exact Nat.pow_le_pow_left (by decide) _
  have exponents := (Nat.pow_lt_pow_iff_right Nat.one_lt_two).mp
    (Nat.lt_of_le_of_lt (Nat.le_trans eights few) bits)
  omega

theorem places_le (n : Nat) : (shortest n).places ≤ (shortest n).coefficient.log2 + 400 := by
  rw [shortest]
  split
  · exact Nat.zero_le _
  · rename_i nonzero
    obtain ⟨-, v, inside, equal⟩ := coarsest_rounds n (((parts n).log2 + 1) * 28 / 93 + 1)
    generalize coarsest n _ = d at *
    have climbs : height 0 < height n := height_lt (by omega)
    have least : Nat.pow 5 1074 ≤ 2 * v :=
      Nat.le_trans (Nat.le_mul_of_pos_left _ (by omega)) (rounds_of_roundsTo inside).lower
    have few := places_le_log2 least equal
    omega

theorem ofDecimal_shortest (negative : Bool) {n : Nat} (finite : n ≤ top) :
    ofDecimal negative (shortest n).coefficient (-(shortest n).places) = ofRung negative n := by
  have few := places_le n
  have exponent : max (-((shortest n).coefficient.log2 + 400 : Int))
      (min (-((shortest n).places : Int)) 400) = -(shortest n).places := by omega
  have unit : tenTo 0 = 1 := rfl
  rw [ofDecimal]
  simp only [exponent, Int.toNat_neg_natCast, Int.neg_neg, Int.toNat_natCast, unit, Nat.mul_one,
    nearest_shortest finite]

theorem isDigit_of_mem_leftpad {n p : Nat} :
    ∀ c ∈ (Nat.toDigits 10 n).leftpad p '0', c.isDigit = true := by
  intro c member
  rcases List.mem_append.mp member with filling | digit
  · rw [(List.mem_replicate.mp filling).2]
    rfl
  · exact isDigit_of_mem_toDigits c digit

theorem length_leftpad {n p : Nat} (nonzero : p ≠ 0) (fits : n < tenTo p) :
    ((Nat.toDigits 10 n).leftpad p '0').length = p := by
  have length : (Nat.toDigits 10 n).length ≤ p :=
    (Nat.length_toDigits_le_iff (by decide) (Nat.pos_of_ne_zero nonzero)).mpr fits
  rw [List.length_leftpad, Nat.max_eq_left length]

theorem ofDigitChars_leftpad {n p : Nat} (nonzero : p ≠ 0) (fits : n < tenTo p) (whole : Nat) :
    Nat.ofDigitChars 10 ((Nat.toDigits 10 n).leftpad p '0') whole = whole * tenTo p + n := by
  have length := length_leftpad nonzero fits
  rw [List.leftpad, List.length_append, List.length_replicate, Nat.add_comm] at length
  rw [List.leftpad, Nat.ofDigitChars_append, Nat.ofDigitChars_replicate_zero,
    Nat.ofDigitChars_eq_ofDigitChars_zero, Nat.ofDigitChars_ten_toDigits, ← Nat.mul_assoc,
    ← Nat.pow_add, length, Nat.mul_comm whole]
  rfl

theorem ofText?_point (negative : Bool) {whole places : List Char} (nonempty : whole ≠ [])
    (whole_digits : ∀ c ∈ whole, c.isDigit = true)
    (places_digits : ∀ c ∈ places, c.isDigit = true) :
    ofText? negative (whole ++ '.' :: places) =
      some (ofDecimal negative (Nat.ofDigitChars 10 (whole ++ places) 0) (-places.length)) := by
  have first := span_digits whole_digits ('.' :: places) rfl
  have second := span_digits places_digits [] rfl
  rw [List.append_nil] at second
  simp only [ofText?, first, fraction, second, exponent?, if_neg (not_and_of_not_left _ nonempty),
    Option.map_some, Int.zero_sub]

theorem ofText?_decimal (negative : Bool) (d : Decimal) :
    ofText? negative d.digits = some (ofDecimal negative d.coefficient (-d.places)) := by
  rw [Decimal.digits]
  split
  · rename_i none
    have unit : tenTo 0 = 1 := rfl
    rw [ofText?_digits negative Nat.toDigits_ne_nil isDigit_of_mem_toDigits, none, unit,
      Nat.div_one, ofDigits, Nat.ofDigitChars_ten_toDigits]
    rfl
  · rename_i places
    have fits : d.coefficient % tenTo d.places < tenTo d.places := Nat.mod_lt _ (tenTo_pos _)
    rw [ofText?_point negative Nat.toDigits_ne_nil isDigit_of_mem_toDigits isDigit_of_mem_leftpad,
      Nat.ofDigitChars_append, Nat.ofDigitChars_ten_toDigits, ofDigitChars_leftpad places fits,
      length_leftpad places fits, Nat.div_add_mod']

theorem digits_eq_cons (d : Decimal) : ∃ c cs, d.digits = c :: cs ∧ c.isDigit = true := by
  obtain ⟨c, cs, whole⟩ := List.exists_cons_of_ne_nil
    (Nat.toDigits_ne_nil (b := 10) (n := d.coefficient / tenTo d.places))
  have digit := isDigit_of_mem_toDigits c (whole ▸ List.mem_cons_self ..)
  simp only [Decimal.digits, whole]
  split
  · exact ⟨c, _, rfl, digit⟩
  · exact ⟨c, _, rfl, digit⟩

theorem read?_write (x : Float) : read? (write x) = some x := by
  by_cases above : top < rung x
  · rw [write, if_pos above, eq_nan_of_top_lt above]
    rfl
  · have text := congrArg String.ofList (toList_write x (by omega))
    have bits := ofRung_rung x
    rw [String.ofList_toList] at text
    rw [text]
    split
    · rename_i infinite
      rw [infinite] at bits
      rw [← bits]
      cases isNegative x <;> rfl
    · obtain ⟨c, cs, digits, digit⟩ := digits_eq_cons (shortest (rung x))
      rw [digits, read?_of_isDigit _ digit, ← digits, ofText?_decimal,
        ofDecimal_shortest _ (by omega), bits]

theorem write_injective : Function.Injective write := by
  intro x y same
  have read := congrArg read? same
  rw [read?_write, read?_write] at read
  exact Option.some.inj read

theorem mem_digits {d : Decimal} {c : Char} (member : c ∈ d.digits) :
    c.isDigit = true ∨ c = '.' := by
  rw [Decimal.digits] at member
  split at member
  · exact Or.inl (isDigit_of_mem_toDigits c member)
  · rcases List.mem_append.mp member with whole | behind
    · exact Or.inl (isDigit_of_mem_toDigits c whole)
    · rcases List.mem_cons.mp behind with point | place
      · exact Or.inr point
      · exact Or.inl (isDigit_of_mem_leftpad c place)

theorem mem_write {x : Float} {c : Char} (member : c ∈ (write x).toList) :
    c.isDigit = true ∨ c ∈ ['-', '.', 'i', 'n', 'f', 'N', 'a'] := by
  by_cases above : top < rung x
  · rw [write, if_pos above] at member
    have letters : "NaN".toList ⊆ ['-', '.', 'i', 'n', 'f', 'N', 'a'] := by decide
    exact Or.inr (letters member)
  · rw [toList_write x (by omega)] at member
    rcases List.mem_append.mp member with sign | magnitude
    · cases isNegative x <;> simp_all [minus]
    · split at magnitude
      · have letters : ['i', 'n', 'f'] ⊆ ['-', '.', 'i', 'n', 'f', 'N', 'a'] := by decide
        exact Or.inr (letters magnitude)
      · rcases mem_digits magnitude with digit | rfl
        · exact Or.inl digit
        · exact Or.inr (by decide)

end Trivariate.Number
