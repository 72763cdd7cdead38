import Mathlib.Algebra.Field.Basic
import Mathlib.Algebra.Group.Pi.Basic
import Mathlib.Tactic.Ring
import Trivariate.Variable

/-! Values of a field together with all of their mixed derivatives. Sums, products and quotients
follow the rules of differentiation, which makes the jets a commutative ring. A jet is flat if two
successive derivatives may be taken in either order, and flat jets are closed under every rule. -/
namespace Trivariate

/-- One value for every list of variables, that of the list's successive derivatives. -/
def Jet (K : Type) : Type := List Variable → K

namespace Jet

variable {K : Type} [Field K]

instance : AddCommGroup (Jet K) :=
  inferInstanceAs (AddCommGroup (List Variable → K))

def shift (v : Variable) (f : Jet K) : Jet K :=
  fun vs => f (v :: vs)

def product : List Variable → Jet K → Jet K → K
  | [], f, g => f [] * g []
  | v :: vs, f, g => product vs (f.shift v) g + product vs f (g.shift v)

instance : Mul (Jet K) := ⟨fun f g vs => product vs f g⟩

instance : One (Jet K) := ⟨fun vs => if vs = [] then 1 else 0⟩

theorem shift_add (v : Variable) (f g : Jet K) : (f + g).shift v = f.shift v + g.shift v := rfl

theorem shift_neg (v : Variable) (f : Jet K) : (-f).shift v = -f.shift v := rfl

theorem shift_sub (v : Variable) (f g : Jet K) : (f - g).shift v = f.shift v - g.shift v := rfl

theorem shift_mul (v : Variable) (f g : Jet K) :
    (f * g).shift v = f.shift v * g + f * g.shift v := rfl

theorem shift_one (v : Variable) : (1 : Jet K).shift v = 0 := rfl

section Ring

variable (f g h : Jet K)

theorem product_comm : f * g = g * f := by
  funext vs
  induction vs generalizing f g with
  | nil => exact mul_comm (f []) (g [])
  | cons v vs ih =>
    calc (f * g) (v :: vs) = (f.shift v * g) vs + (f * g.shift v) vs := rfl
      _ = (g * f.shift v) vs + (g.shift v * f) vs := by rw [ih (f.shift v), ih f]
      _ = (g.shift v * f) vs + (g * f.shift v) vs := add_comm ..

theorem zero_product : 0 * f = 0 := by
  funext vs
  induction vs generalizing f with
  | nil => exact zero_mul (f [])
  | cons v vs ih =>
    calc (0 * f) (v :: vs) = (0 * f) vs + (0 * f.shift v) vs := rfl
      _ = 0 + 0 := congrArg₂ (· + ·) (ih f) (ih (f.shift v))
      _ = 0 := add_zero 0

theorem one_product : 1 * f = f := by
  funext vs
  induction vs generalizing f with
  | nil => exact one_mul (f [])
  | cons v vs ih =>
    calc (1 * f) (v :: vs) = (0 * f) vs + (1 * f.shift v) vs := rfl
      _ = 0 + f.shift v vs := congrArg₂ (· + ·) (congrFun (zero_product f) vs) (ih (f.shift v))
      _ = f.shift v vs := zero_add _

theorem add_product : (f + g) * h = f * h + g * h := by
  funext vs
  induction vs generalizing f g h with
  | nil => exact add_mul (f []) (g []) (h [])
  | cons v vs ih =>
    calc ((f + g) * h) (v :: vs)
      _ = ((f.shift v + g.shift v) * h) vs + ((f + g) * h.shift v) vs := rfl
      _ = ((f.shift v * h) vs + (g.shift v * h) vs) + ((f * h.shift v) vs + (g * h.shift v) vs) :=
        congrArg₂ (· + ·) (ih (f.shift v) (g.shift v) h) (ih f g (h.shift v))
      _ = ((f.shift v * h) vs + (f * h.shift v) vs) + ((g.shift v * h) vs + (g * h.shift v) vs) :=
        add_add_add_comm ..

theorem product_add : f * (g + h) = f * g + f * h := by
  rw [product_comm, add_product, product_comm g, product_comm h]

theorem product_assoc : f * g * h = f * (g * h) := by
  funext vs
  induction vs generalizing f g h with
  | nil => exact mul_assoc (f []) (g []) (h [])
  | cons v vs ih =>
    calc (f * g * h) (v :: vs)
      _ = ((f.shift v * g + f * g.shift v) * h + f * g * h.shift v) vs := rfl
      _ = (f.shift v * g * h) vs + (f * g.shift v * h) vs + (f * g * h.shift v) vs := by
        rw [add_product]
        rfl
      _ = (f.shift v * (g * h)) vs + ((f * (g.shift v * h)) vs + (f * (g * h.shift v)) vs) := by
        rw [ih (f.shift v), ih f (g.shift v), ih f g (h.shift v), add_assoc]
      _ = (f.shift v * (g * h) + f * (g.shift v * h + g * h.shift v)) vs := by
        rw [product_add]
        rfl

end Ring

instance : CommRing (Jet K) where
  __ := (inferInstance : AddCommGroup (Jet K))
  mul_assoc := product_assoc
  mul_comm := product_comm
  one_mul := one_product
  mul_one f := (product_comm f 1).trans (one_product f)
  zero_mul := zero_product
  mul_zero f := (product_comm f 0).trans (zero_product f)
  left_distrib := product_add
  right_distrib := add_product

def quotient : List Variable → Jet K → Jet K → K
  | [], f, g => f [] / g []
  | v :: vs, f, g => quotient vs (f.shift v * g - f * g.shift v) (g * g)

instance : Div (Jet K) := ⟨fun f g vs => quotient vs f g⟩

theorem shift_div (v : Variable) (f g : Jet K) :
    (f / g).shift v = (f.shift v * g - f * g.shift v) / (g * g) := rfl

/-! A field divides by zero with the result zero, so the laws hold whatever the divisor is. -/

theorem add_quotient (f g h : Jet K) : (f + g) / h = f / h + g / h := by
  funext vs
  induction vs generalizing f g h with
  | nil => exact add_div (f []) (g []) (h [])
  | cons v vs ih =>
    have numerator : (f.shift v + g.shift v) * h - (f + g) * h.shift v =
        (f.shift v * h - f * h.shift v) + (g.shift v * h - g * h.shift v) := by ring
    calc ((f + g) / h) (v :: vs)
      _ = (((f.shift v + g.shift v) * h - (f + g) * h.shift v) / (h * h)) vs := rfl
      _ = (f / h) (v :: vs) + (g / h) (v :: vs) := by
        rw [numerator, ih]
        rfl

theorem product_quotient_square (f g : Jet K) : (f * g) / (g * g) = f / g := by
  funext vs
  induction vs generalizing f g with
  | nil =>
    change f [] * g [] / (g [] * g []) = f [] / g []
    by_cases zero : g [] = 0
    · rw [zero, mul_zero, mul_zero, div_zero, div_zero]
    · exact mul_div_mul_right (f []) (g []) zero
  | cons v vs ih =>
    have numerator : (f.shift v * g + f * g.shift v) * (g * g) -
        f * g * (g.shift v * g + g * g.shift v) =
        (f.shift v * g - f * g.shift v) * (g * g) := by ring
    calc ((f * g) / (g * g)) (v :: vs)
      _ = (((f.shift v * g + f * g.shift v) * (g * g) -
            f * g * (g.shift v * g + g * g.shift v)) / (g * g * (g * g))) vs := rfl
      _ = ((f.shift v * g - f * g.shift v) / (g * g)) vs := by rw [numerator, ih]

theorem quotient_product (f g h : Jet K) : f / g * h = (f * h) / g := by
  funext vs
  induction vs generalizing f g h with
  | nil => exact div_mul_eq_mul_div (f []) (g []) (h [])
  | cons v vs ih =>
    have numerator : (f.shift v * h + f * h.shift v) * g - f * h * g.shift v =
        (f.shift v * g - f * g.shift v) * h + f * h.shift v * g := by ring
    calc (f / g * h) (v :: vs)
      _ = ((f.shift v * g - f * g.shift v) / (g * g) * h) vs + (f / g * h.shift v) vs := rfl
      _ = (((f.shift v * g - f * g.shift v) * h) / (g * g)) vs + ((f * h.shift v) / g) vs := by
        rw [ih, ih]
      _ = (((f.shift v * h + f * h.shift v) * g - f * h * g.shift v) / (g * g)) vs := by
        rw [numerator, add_quotient, product_quotient_square]
        rfl

def Flat (f : Jet K) : Prop :=
  ∀ v w, (f.shift v).shift w = (f.shift w).shift v

namespace Flat

variable {f g h : Jet K}

theorem neg (flat : f.Flat) : (-f).Flat := by
  intro v w
  simp only [shift_neg, flat v w]

theorem add (left : f.Flat) (right : g.Flat) : (f + g).Flat := by
  intro v w
  simp only [shift_add, left v w, right v w]

theorem sub (left : f.Flat) (right : g.Flat) : (f - g).Flat := by
  intro v w
  simp only [shift_sub, left v w, right v w]

theorem mul (left : f.Flat) (right : g.Flat) : (f * g).Flat := by
  intro v w
  simp only [shift_mul, shift_add, left v w, right v w]
  ring

theorem div (left : f.Flat) (right : g.Flat) : (f / g).Flat := by
  intro v w
  simp only [shift_div, shift_sub, shift_mul, left v w, right v w]
  congr 1
  ring

/-- The rule of a chain: the slope of `f` along `g` depends on `g` alone. -/
theorem chain {slope bend : Jet K} (inner : g.Flat)
    (first : ∀ v, f.shift v = slope * g.shift v)
    (second : ∀ v, slope.shift v = bend * g.shift v) : f.Flat := by
  intro v w
  rw [first, first, shift_mul, shift_mul, second, second, inner v w]
  ring

theorem angle (left : f.Flat) (right : g.Flat)
    (first : ∀ v, h.shift v = (g * f.shift v - f * g.shift v) / (f * f + g * g)) : h.Flat := by
  intro v w
  rw [first, first, shift_div, shift_div]
  simp only [shift_sub, shift_add, shift_mul, left v w, right v w]
  congr 1
  ring

end Flat

end Jet

end Trivariate
