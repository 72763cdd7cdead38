import Mathlib

namespace Trivariate.Number

/-- Zero of either sign, or no number. -/
def Null (x : Float) : Prop :=
  x = 0 ∨ x = -0 ∨ x.isNaN = true

open Float.Model UnpackedFloat

def Bare (u : UnpackedFloat) : Prop :=
  u = notANumber ∨ ∃ s, u = zero s

namespace Bare

variable {u v : UnpackedFloat}

theorem neg (bare : Bare u) : Bare u.neg := by
  rcases bare with rfl | ⟨s, rfl⟩
  · exact Or.inl rfl
  · exact Or.inr ⟨_, rfl⟩

theorem add (left : Bare u) (right : Bare v) : Bare (u.add Format.binary64 v) := by
  rcases left with rfl | ⟨s, rfl⟩
  · exact Or.inl rfl
  rcases right with rfl | ⟨t, rfl⟩
  · exact Or.inl rfl
  · cases s <;> cases t <;> exact Or.inr ⟨_, rfl⟩

theorem sub (left : Bare u) (right : Bare v) : Bare (u.sub Format.binary64 v) := by
  rcases left with rfl | ⟨s, rfl⟩
  · exact Or.inl rfl
  rcases right with rfl | ⟨t, rfl⟩
  · exact Or.inl rfl
  · cases s <;> cases t <;> exact Or.inr ⟨_, rfl⟩

theorem mul_left (bare : Bare u) : Bare (u.mul Format.binary64 v) := by
  rcases bare with rfl | ⟨s, rfl⟩
  · exact Or.inl rfl
  cases v with
  | infinity t => exact Or.inl rfl
  | notANumber => exact Or.inl rfl
  | zero t => exact Or.inr ⟨_, rfl⟩
  | finite t m e positive => exact Or.inr ⟨_, rfl⟩

theorem mul_right (bare : Bare v) : Bare (u.mul Format.binary64 v) := by
  rcases bare with rfl | ⟨s, rfl⟩
  · cases u <;> exact Or.inl rfl
  cases u with
  | infinity t => exact Or.inl rfl
  | notANumber => exact Or.inl rfl
  | zero t => exact Or.inr ⟨_, rfl⟩
  | finite t m e positive => exact Or.inr ⟨_, rfl⟩

theorem div (bare : Bare u) : Bare (u.div Format.binary64 v) := by
  rcases bare with rfl | ⟨s, rfl⟩
  · exact Or.inl rfl
  cases v with
  | infinity t => exact Or.inr ⟨_, rfl⟩
  | notANumber => exact Or.inl rfl
  | zero t => exact Or.inl rfl
  | finite t m e positive => exact Or.inr ⟨_, rfl⟩

end Bare

theorem unpack_inj (x y : Float) : x.toModel.unpack = y.toModel.unpack ↔ x = y := by
  rw [← Float.toBits_inj, ← UInt64.toBitVec_inj]
  exact unpack_inj_of_valid x.toModel.valid y.toModel.valid

theorem null_iff_bare (x : Float) : Null x ↔ Bare x.toModel.unpack := by
  have positive : (0 : Float).toModel.unpack = zero .positive := rfl
  have negative : (-0 : Float).toModel.unpack = zero .negative := rfl
  have none : x.isNaN = true ↔ x.toModel.unpack = notANumber := isNaN_iff
  rw [Null, none, ← unpack_inj x 0, ← unpack_inj x (-0), positive, negative]
  constructor
  · rintro (zero | zero | none)
    · exact Or.inr ⟨_, zero⟩
    · exact Or.inr ⟨_, zero⟩
    · exact Or.inl none
  · rintro (none | ⟨s, zero⟩)
    · exact Or.inr (Or.inr none)
    · cases s with
      | positive => exact Or.inl zero
      | negative => exact Or.inr (Or.inl zero)

theorem null_pack {u : UnpackedFloat} (bare : Bare u) : Null (.ofModel (pack u)) := by
  rw [null_iff_bare]
  rcases bare with rfl | ⟨s, rfl⟩
  · exact Or.inl (@unpack_packedNaN Format.binary64)
  · exact Or.inr ⟨s, @unpack_packedZero Format.binary64 s⟩

namespace Null

variable {x y : Float}

theorem neg (null : Null x) : Null (-x) :=
  null_pack ((null_iff_bare x).mp null).neg

theorem add (left : Null x) (right : Null y) : Null (x + y) :=
  null_pack (((null_iff_bare x).mp left).add ((null_iff_bare y).mp right))

theorem sub (left : Null x) (right : Null y) : Null (x - y) :=
  null_pack (((null_iff_bare x).mp left).sub ((null_iff_bare y).mp right))

theorem mul_left (null : Null x) : Null (x * y) :=
  null_pack ((null_iff_bare x).mp null).mul_left

theorem mul_right (null : Null y) : Null (x * y) :=
  null_pack ((null_iff_bare y).mp null).mul_right

theorem div (null : Null x) : Null (x / y) :=
  null_pack ((null_iff_bare x).mp null).div

end Null

end Trivariate.Number
