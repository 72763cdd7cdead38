import Trivariate.Number.Shortest

/-! The ladder of doubles is strictly increasing, and `nearest` finds the one rung to which a
quotient rounds. Main statement: the shortest decimal of a rung rounds back to it. -/
namespace Trivariate.Number

theorem height_place (s q : Nat) (normal : s = 0 ∨ stretch ≤ q) (within : q ≤ 2 * stretch) :
    height (s * stretch + q) = q <<< s := by
  have positive : 0 < stretch := by decide
  by_cases low : q < stretch
  · have zero : s = 0 := by omega
    subst zero
    simp [height, low]
  · have high : ¬ s * stretch + q < stretch := by omega
    simp only [height, if_neg high]
    by_cases last : q = 2 * stretch
    · subst last
      have place : s * stretch + 2 * stretch = (s + 2) * stretch := by rw [Nat.add_mul]
      rw [place, Nat.mul_mod_left, Nat.mul_div_cancel _ positive]
      simp only [Nat.shiftLeft_eq, Nat.add_zero, show s + 2 - 1 = s + 1 by omega, Nat.pow_succ]
      rw [Nat.mul_comm (2 ^ s) 2, ← Nat.mul_assoc, Nat.mul_comm stretch 2]
    · have place : s * stretch + q = (q - stretch) + stretch * (s + 1) := by
        rw [Nat.mul_add, Nat.mul_comm stretch s]
        omega
      rw [place, Nat.add_mul_mod_self_left, Nat.add_mul_div_left _ _ positive,
        Nat.mod_eq_of_lt (by omega), Nat.div_eq_of_lt (by omega),
        show stretch + (q - stretch) = q by omega, show 0 + (s + 1) - 1 = s by omega]

theorem height_succ (n : Nat) : height (n + 1) = height n + 1 <<< (n / stretch - 1) := by
  have positive : 0 < stretch := by decide
  have split := Nat.div_add_mod n stretch
  have bound := Nat.mod_lt n positive
  by_cases low : n < stretch
  · have first := height_place 0 n (Or.inl rfl) (by omega)
    have second := height_place 0 (n + 1) (Or.inl rfl) (by omega)
    simp only [Nat.zero_mul, Nat.zero_add, Nat.shiftLeft_zero] at first second
    rw [first, second, Nat.div_eq_of_lt low]
    rfl
  · have above : 1 ≤ n / stretch := (Nat.one_le_div_iff positive).mpr (by omega)
    obtain ⟨s, hs⟩ : ∃ s, n / stretch = s + 1 := ⟨n / stretch - 1, by omega⟩
    rw [hs, Nat.mul_add, Nat.mul_comm stretch s] at split
    have here : n = s * stretch + (stretch + n % stretch) := by omega
    have next : n + 1 = s * stretch + (stretch + n % stretch + 1) := by omega
    have first := height_place s (stretch + n % stretch) (Or.inr (by omega)) (by omega)
    have second := height_place s (stretch + n % stretch + 1) (Or.inr (by omega)) (by omega)
    rw [← here] at first
    rw [← next] at second
    rw [first, second, hs]
    simp only [Nat.shiftLeft_eq, Nat.add_sub_cancel, Nat.add_mul, Nat.one_mul]

theorem height_lt_succ (n : Nat) : height n < height (n + 1) := by
  have positive : 0 < 1 <<< (n / stretch - 1) := by
    rw [Nat.shiftLeft_eq, Nat.one_mul]
    exact Nat.two_pow_pos _
  rw [height_succ]
  omega

theorem height_lt {m n : Nat} (less : m < n) : height m < height n := by
  induction n with
  | zero => omega
  | succ n ih =>
    have step := height_lt_succ n
    by_cases equal : m = n
    · rw [equal]; exact step
    · exact Nat.lt_trans (ih (by omega)) step

theorem height_le {m n : Nat} (le : m ≤ n) : height m ≤ height n := by
  by_cases equal : m = n
  · exact Nat.le_of_eq (congrArg height equal)
  · exact Nat.le_of_lt (height_lt (by omega))

/-- The quotient `num / den` lies between the midpoints to the neighbours of rung `n`, which
count for `n` only when it is even. Nothing lies below rung zero. -/
structure Rounds (num den n : Nat) : Prop where
  lower : (height (n - 1) + height n) * den ≤ 2 * num
  upper : 2 * num ≤ (height n + height (n + 1)) * den
  lower_even : 0 < n → (height (n - 1) + height n) * den = 2 * num → n % 2 = 0
  upper_even : 2 * num = (height n + height (n + 1)) * den → n % 2 = 0

theorem Rounds.not_lt {num den m n : Nat} (positive : 0 < den) (at_m : Rounds num den m)
    (at_n : Rounds num den n) : ¬ m < n := by
  intro less
  have ends : height m + height (m + 1) ≤ height (n - 1) + height n :=
    Nat.add_le_add (height_le (by omega)) (height_le (by omega))
  have chain := Nat.mul_le_mul_right den ends
  have high := at_m.upper
  have low := at_n.lower
  have m_even := at_m.upper_even (by omega)
  have n_even := at_n.lower_even (by omega) (by omega)
  have equal : height m + height (m + 1) = height (n - 1) + height n :=
    Nat.eq_of_mul_eq_mul_right positive (by omega)
  have gap : m + 1 < n := by omega
  have one := height_lt gap
  have two := height_le (show m ≤ n - 1 by omega)
  omega

theorem Rounds.unique {num den m n : Nat} (positive : 0 < den) (at_m : Rounds num den m)
    (at_n : Rounds num den n) : m = n := by
  have left := at_m.not_lt positive at_n
  have right := at_n.not_lt positive at_m
  omega

theorem stretch_bounds (v : Nat) :
    v / 1 <<< (v.log2 - 52) < 2 * stretch ∧
      (v.log2 - 52 = 0 ∨ stretch ≤ v / 1 <<< (v.log2 - 52)) := by
  rw [Nat.shiftLeft_eq, Nat.one_mul]
  have above := Nat.lt_log2_self (n := v)
  have power : 2 ^ 52 = stretch := by decide
  by_cases short : v.log2 ≤ 52
  · have none : v.log2 - 52 = 0 := by omega
    have bound : 2 ^ (v.log2 + 1) ≤ 2 ^ 53 := Nat.pow_le_pow_right (by decide) (by omega)
    have twice : 2 ^ 53 = 2 * stretch := by decide
    rw [none, Nat.pow_zero, Nat.div_one]
    exact ⟨by omega, Or.inl rfl⟩
  · obtain ⟨s, hs⟩ : ∃ s, v.log2 = 52 + s := ⟨v.log2 - 52, by omega⟩
    have nonzero : v ≠ 0 := by
      intro zero
      subst zero
      simp at short
    have below := Nat.log2_self_le nonzero
    have positive := Nat.two_pow_pos s
    rw [hs, Nat.pow_succ, Nat.pow_add, power] at above
    rw [hs, Nat.pow_add, power] at below
    rw [hs, Nat.add_sub_cancel_left]
    refine ⟨(Nat.div_lt_iff_lt_mul positive).mpr ?_,
      Or.inr ((Nat.le_div_iff_mul_le positive).mpr below)⟩
    rw [Nat.mul_comm 2, Nat.mul_right_comm]
    exact above

theorem rounds_place (num den : Nat) (positive : 0 < den) :
    Rounds num den (((num / den).log2 - 52) * stretch +
      divNearest num (den <<< ((num / den).log2 - 52))) := by
  obtain ⟨fits, normal⟩ := stretch_bounds (num / den)
  generalize (num / den).log2 - 52 = s at *
  rw [Nat.div_div_eq_div_mul, Nat.shiftLeft_eq, Nat.one_mul, ← Nat.shiftLeft_eq] at fits normal
  have step_positive : 0 < den <<< s := by
    rw [Nat.shiftLeft_eq]
    exact Nat.mul_pos positive (Nat.two_pow_pos s)
  have scale : ∀ q, (q <<< s) * den = q * (den <<< s) := fun q => by
    rw [Nat.shiftLeft_eq, Nat.shiftLeft_eq, Nat.mul_assoc, Nat.mul_comm den]
  have division := Nat.div_add_mod num (den <<< s)
  have rest := Nat.mod_lt num step_positive
  have even : ∀ q, (s * stretch + q) % 2 = q % 2 := fun q => by
    rw [show stretch = 2251799813685248 * 2 by decide, ← Nat.mul_assoc, Nat.add_comm,
      Nat.add_mul_mod_self_right]
  simp only [divNearest]
  generalize num / (den <<< s) = q at *
  generalize num % (den <<< s) = r at *
  have here := height_place s q normal (by omega)
  have next := height_place s (q + 1) (by omega) (by omega)
  have here_scaled := scale q
  have next_scaled := scale (q + 1)
  rw [← here] at here_scaled
  rw [← next, Nat.add_mul, Nat.one_mul] at next_scaled
  rw [Nat.mul_comm] at division
  generalize q * (den <<< s) = whole at *
  generalize den <<< s = unit at *
  split
  · rename_i down
    have before : height (s * stretch + q - 1) * den ≤ height (s * stretch + q) * den :=
      Nat.mul_le_mul_right den (height_le (by omega))
    refine ⟨?_, ?_, ?_, ?_⟩ <;> rw [Nat.add_mul]
    · omega
    · rw [Nat.add_assoc]; omega
    · intro later equal
      have less := Nat.mul_lt_mul_of_pos_right
        (height_lt (show s * stretch + q - 1 < s * stretch + q by omega)) positive
      omega
    · rw [Nat.add_assoc, even]; omega
  · rename_i up
    have after : height (s * stretch + (q + 1)) * den < height (s * stretch + (q + 1) + 1) * den :=
      Nat.mul_lt_mul_of_pos_right (height_lt (by omega)) positive
    have back : s * stretch + (q + 1) - 1 = s * stretch + q := by omega
    refine ⟨?_, ?_, ?_, ?_⟩ <;> rw [Nat.add_mul]
    · rw [back]; omega
    · omega
    · rw [back, even]; omega
    · omega

theorem nearest_eq {num den n : Nat} (positive : 0 < den) (at_n : Rounds num den n)
    (finite : n ≤ top) : nearest num den = n := by
  have place := (rounds_place num den positive).unique positive at_n
  simp only [nearest, place]
  omega

theorem Rounds.congr {num den num' den' n : Nat} (positive : 0 < den) (positive' : 0 < den')
    (equal : num * den' = num' * den) (rounds : Rounds num den n) : Rounds num' den' n := by
  have scale : ∀ a, a * den * den' = a * den' * den := fun a => Nat.mul_right_comm a den den'
  have twice : 2 * num * den' = 2 * num' * den := by rw [Nat.mul_assoc, equal, Nat.mul_assoc]
  refine ⟨?_, ?_, fun later same => ?_, fun same => ?_⟩
  · apply Nat.le_of_mul_le_mul_right _ positive
    rw [← scale, ← twice]
    exact Nat.mul_le_mul_right den' rounds.lower
  · apply Nat.le_of_mul_le_mul_right _ positive
    rw [← scale, ← twice]
    exact Nat.mul_le_mul_right den' rounds.upper
  · apply rounds.lower_even later
    apply Nat.eq_of_mul_eq_mul_right positive'
    rw [scale, twice, same]
  · apply rounds.upper_even
    apply Nat.eq_of_mul_eq_mul_right positive'
    rw [scale, twice, same]

theorem rounds_of_roundsTo {n v : Nat} (inside : roundsTo n v = true) :
    Rounds v (Nat.pow 5 1074) n := by
  simp only [roundsTo, parts, ← Nat.add_mul] at inside
  generalize Nat.pow 5 1074 = unit at *
  split at inside <;> simp only [Bool.and_eq_true, decide_eq_true_eq] at inside
  · rename_i even
    exact ⟨inside.1, inside.2, fun _ _ => even, fun _ => even⟩
  · exact ⟨Nat.le_of_lt inside.1, Nat.le_of_lt inside.2, fun _ same => by omega,
      fun same => by omega⟩

theorem parts_lt {m n : Nat} (less : m < n) : parts m < parts n := by
  have unit : ∀ e, 0 < Nat.pow 5 e := fun _ => Nat.pow_pos (by decide)
  simp only [parts]
  generalize 1074 = places
  exact Nat.mul_lt_mul_of_pos_right (height_lt less) (unit places)

theorem roundsTo_parts (n : Nat) : roundsTo n (parts n) = true := by
  have above := parts_lt (show n < n + 1 by omega)
  simp only [roundsTo]
  split <;> simp only [Bool.and_eq_true, decide_eq_true_eq]
  · by_cases lowest : n = 0
    · rw [lowest, Nat.zero_sub]
      rw [lowest] at above
      omega
    · have below := parts_lt (show n - 1 < n by omega)
      omega
  · have below := parts_lt (show n - 1 < n by omega)
    omega

theorem roundsTo_of_onGrid? {n j c : Nat} (found : onGrid? n j = some c) :
    roundsTo n (c * tenTo j) = true := by
  simp only [onGrid?] at found
  split at found
  · rename_i low high
    cases found
    split
    · exact low
    · exact high
  · rename_i low _
    cases found
    exact low
  · rename_i _ high
    cases found
    exact high
  · contradiction

theorem tenTo_add (m n : Nat) : tenTo (m + n) = tenTo m * tenTo n :=
  Nat.pow_add 10 m n

theorem coarsest_rounds (n j : Nat) :
    (coarsest n j).places ≤ 1074 ∧
      ∃ v, roundsTo n v = true ∧
        v * tenTo (coarsest n j).places = (coarsest n j).coefficient * tenTo 1074 := by
  induction j with
  | zero => exact ⟨Nat.le_refl _, parts n, roundsTo_parts n, rfl⟩
  | succ j ih =>
    rw [coarsest]
    split
    · rename_i c found
      refine ⟨Nat.sub_le _ _, c * tenTo (j + 1), roundsTo_of_onGrid? found, ?_⟩
      have exponents : ∀ e, j + 1 + (e - (j + 1)) = j + 1 - e + e := by omega
      have powers : ∀ e, tenTo (j + 1) * tenTo (e - (j + 1)) = tenTo (j + 1 - e) * tenTo e :=
        fun e => by rw [← tenTo_add, ← tenTo_add, exponents]
      show c * tenTo (j + 1) * tenTo (1074 - (j + 1)) = c * tenTo (j + 1 - 1074) * tenTo 1074
      rw [Nat.mul_assoc, Nat.mul_assoc, powers]
    · exact ih

theorem nearest_shortest {n : Nat} (finite : n ≤ top) :
    nearest ((shortest n).coefficient <<< 1074) (tenTo (shortest n).places) = n := by
  have tens : ∀ e, 0 < tenTo e := fun _ => Nat.pow_pos (by decide)
  have fives : ∀ e, 0 < Nat.pow 5 e := fun _ => Nat.pow_pos (by decide)
  have split : ∀ c e, c * tenTo e = c <<< e * Nat.pow 5 e := fun c e => by
    rw [Nat.shiftLeft_eq, Nat.mul_assoc]
    exact congrArg (c * ·) (Nat.mul_pow 2 5 e)
  rw [shortest]
  split
  · rename_i zero
    rw [zero]
    simp [nearest, divNearest, Nat.zero_shiftLeft, tens]
  · obtain ⟨-, v, inside, equal⟩ := coarsest_rounds n (((parts n).log2 + 1) * 28 / 93 + 1)
    generalize coarsest n _ = d at *
    have rounds := rounds_of_roundsTo inside
    generalize 1074 = places at *
    rw [split d.coefficient] at equal
    exact nearest_eq (tens _) (rounds.congr (fives places) (tens _) equal) finite

end Trivariate.Number
