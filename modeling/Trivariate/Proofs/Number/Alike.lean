import Mathlib
import Trivariate.Proofs.Number.Null

namespace Trivariate.Number

/-- Equal as doubles, or both of them no number. -/
def Alike (x y : Float) : Prop :=
  (x == y) = true ∨ (x.isNaN = true ∧ y.isNaN = true)

def IsZero (x : Float) : Prop :=
  x = 0 ∨ x = -0

instance (x y : Float) : Decidable (Alike x y) :=
  inferInstanceAs (Decidable (_ ∨ _))

instance (x : Float) : Decidable (IsZero x) :=
  inferInstanceAs (Decidable (_ ∨ _))

instance (x : Float) : Decidable (Null x) :=
  inferInstanceAs (Decidable (_ ∨ _))

variable {x x' y y' z : Float}

theorem alike_iff : Alike x y ↔ x = y ∨ (IsZero x ∧ IsZero y) := by
  have positive : (0 : Float) ≠ .nan := by decide +kernel
  have negative : (-0 : Float) ≠ .nan := by decide +kernel
  simp only [Alike, IsZero, Float.beq_iff_ne_nan_and_eq, Float.isNaN_eq_decide_eq_nan,
    decide_eq_true_eq]
  grind

theorem null_iff : Null x ↔ IsZero x ∨ x.isNaN = true := by
  rw [Null, IsZero, or_assoc]

theorem Alike.refl (x : Float) : Alike x x :=
  alike_iff.mpr (Or.inl rfl)

theorem Alike.of_zeros (left : IsZero x) (right : IsZero y) : Alike x y :=
  alike_iff.mpr (Or.inr ⟨left, right⟩)

theorem Alike.symm (alike : Alike x y) : Alike y x := by
  rw [alike_iff] at alike ⊢
  exact alike.imp Eq.symm And.symm

theorem Alike.zero (alike : Alike x y) (zero : IsZero x) : IsZero y := by
  rcases alike_iff.mp alike with rfl | zeros
  · exact zero
  · exact zeros.2

theorem Alike.eq (alike : Alike x y) (other : ¬ IsZero x) : x = y := by
  rcases alike_iff.mp alike with same | zeros
  · exact same
  · exact absurd zeros.1 other

theorem Alike.trans (left : Alike x y) (right : Alike y z) : Alike x z := by
  rcases alike_iff.mp left with rfl | zeros
  · exact right
  · exact .of_zeros zeros.1 (right.zero zeros.2)

theorem Alike.null (alike : Alike x y) (null : Null x) : Null y := by
  rw [null_iff] at null
  rcases alike_iff.mp alike with rfl | zeros
  · exact null_iff.mpr null
  · exact null_iff.mpr (Or.inl zeros.2)

theorem Alike.map (f : Float → Float) (alike : Alike x y) (zeros : Alike (f 0) (f (-0))) :
    Alike (f x) (f y) := by
  rcases alike_iff.mp alike with rfl | ⟨rfl | rfl, rfl | rfl⟩
  · exact .refl _
  · exact .refl _
  · exact zeros
  · exact zeros.symm
  · exact .refl _

theorem Alike.map₂ (f : Float → Float → Float) (first : Alike x x') (second : Alike y y')
    (left : ∀ y, Alike (f 0 y) (f (-0) y)) (right : ∀ x, Alike (f x 0) (f x (-0))) :
    Alike (f x y) (f x' y') :=
  (first.map (f · y) (left y)).trans (second.map (f x') (right x'))

theorem Alike.square (alike : Alike x y) : x * x = y * y := by
  rcases alike_iff.mp alike with rfl | ⟨rfl | rfl, rfl | rfl⟩
  · rfl
  all_goals decide +kernel

open Float.Model UnpackedFloat

def Close (u v : UnpackedFloat) : Prop :=
  u = v ∨ ∃ s t, u = zero s ∧ v = zero t

theorem alike_pack {u v : UnpackedFloat} (close : Close u v) :
    Alike (.ofModel (pack u)) (.ofModel (pack v)) := by
  have zeros : ∀ s, IsZero (.ofModel (pack (zero s))) := by decide +kernel
  rcases close with rfl | ⟨s, t, rfl, rfl⟩
  · exact .refl _
  · exact .of_zeros (zeros s) (zeros t)

/-- The sign of a zero operand shows in a zero at most. -/
def Blind (op : Format → UnpackedFloat → UnpackedFloat → UnpackedFloat) : Prop :=
  ∀ s t u, Close (op Format.binary64 (zero s) u) (op Format.binary64 (zero t) u) ∧
    Close (op Format.binary64 u (zero s)) (op Format.binary64 u (zero t))

theorem blind_add : Blind add := by
  intro s t u
  cases u with
  | zero sign =>
    cases s <;> cases t <;> cases sign
    all_goals exact ⟨Or.inr ⟨_, _, rfl, rfl⟩, Or.inr ⟨_, _, rfl, rfl⟩⟩
  | _ => exact ⟨Or.inl rfl, Or.inl rfl⟩

theorem blind_sub : Blind sub := by
  intro s t u
  cases u with
  | zero sign =>
    cases s <;> cases t <;> cases sign
    all_goals exact ⟨Or.inr ⟨_, _, rfl, rfl⟩, Or.inr ⟨_, _, rfl, rfl⟩⟩
  | _ => exact ⟨Or.inl rfl, Or.inl rfl⟩

theorem blind_mul : Blind mul := by
  intro s t u
  cases u with
  | zero sign => exact ⟨Or.inr ⟨_, _, rfl, rfl⟩, Or.inr ⟨_, _, rfl, rfl⟩⟩
  | finite sign m e positive => exact ⟨Or.inr ⟨_, _, rfl, rfl⟩, Or.inr ⟨_, _, rfl, rfl⟩⟩
  | _ => exact ⟨Or.inl rfl, Or.inl rfl⟩

theorem close_div_left (s t : Sign) (u : UnpackedFloat) :
    Close ((zero s).div Format.binary64 u) ((zero t).div Format.binary64 u) := by
  cases u with
  | infinity sign => exact Or.inr ⟨_, _, rfl, rfl⟩
  | finite sign m e positive => exact Or.inr ⟨_, _, rfl, rfl⟩
  | _ => exact Or.inl rfl

theorem close_div_right (s t : Sign) {u : UnpackedFloat} (bare : Bare u) :
    Close (u.div Format.binary64 (zero s)) (u.div Format.binary64 (zero t)) := by
  rcases bare with rfl | ⟨sign, rfl⟩
  · exact Or.inl rfl
  · exact Or.inl rfl

/-- An operation on doubles is one on what they are taken apart into. -/
theorem Blind.alike {op : Format → UnpackedFloat → UnpackedFloat → UnpackedFloat} (blind : Blind op)
    (left : Alike x x') (right : Alike y y') :
    Alike (.ofModel (pack (op Format.binary64 x.toModel.unpack y.toModel.unpack)))
      (.ofModel (pack (op Format.binary64 x'.toModel.unpack y'.toModel.unpack))) := by
  apply left.map₂
    (fun a b => .ofModel (pack (op Format.binary64 a.toModel.unpack b.toModel.unpack))) right
  · exact fun y => alike_pack (blind .positive .negative _).1
  · exact fun x => alike_pack (blind .positive .negative _).2

namespace Alike

theorem neg (alike : Alike x y) : Alike (-x) (-y) :=
  alike.map (- ·) (by decide +kernel)

theorem add (left : Alike x x') (right : Alike y y') : Alike (x + y) (x' + y') :=
  blind_add.alike left right

theorem sub (left : Alike x x') (right : Alike y y') : Alike (x - y) (x' - y') :=
  blind_sub.alike left right

theorem mul (left : Alike x x') (right : Alike y y') : Alike (x * y) (x' * y') :=
  blind_mul.alike left right

theorem div (left : Alike x x') (right : Alike y y') (kept : ¬ Null x → y = y') :
    Alike (x / y) (x' / y') := by
  have numerators : Alike (x / y) (x' / y) :=
    left.map (· / y) (alike_pack (close_div_left .positive .negative _))
  by_cases null : Null x
  · have bare := (null_iff_bare x').mp (left.null null)
    exact numerators.trans
      (right.map (x' / ·) (alike_pack (close_div_right .positive .negative bare)))
  · rw [← kept null]
    exact numerators

end Alike

end Trivariate.Number
