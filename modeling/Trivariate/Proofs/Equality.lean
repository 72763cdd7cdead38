import Mathlib
import Trivariate.Expr.Derivative
import Trivariate.Number.Ladder
import Trivariate.Proofs.Exact.Arithmetic
import Trivariate.Proofs.Number.Alike

/-! What trees have in common that are equal by `==`. Their derivatives are equal again. Their
values are not always alike, since `==` does not tell the two zeros apart, but a quotient and
`atan2` do. Main statement: where no zeros of different signs meet in such a place, equal trees and
all of their derivatives have alike values. -/
namespace Trivariate

namespace Expr

variable {κ : Type}

inductive Corresponds (rel : κ → κ → Prop) : Expr κ → Expr κ → Prop where
  | const {j k : κ} : rel j k → Corresponds rel (.const j) (.const k)
  | var (v : Variable) : Corresponds rel (.var v) (.var v)
  | unary (op : UnaryOp) {a b : Expr κ} :
      Corresponds rel a b → Corresponds rel (.unary op a) (.unary op b)
  | binary (op : BinaryOp) {l r l' r' : Expr κ} : Corresponds rel l l' → Corresponds rel r r' →
      Corresponds rel (.binary op l r) (.binary op l' r')

theorem beq_iff_corresponds [BEq κ] {a b : Expr κ} :
    (a == b) = true ↔ a.Corresponds (fun j k => (j == k) = true) b := by
  change a.same b = true ↔ _
  constructor
  · intro equal
    induction a generalizing b with
    | const j =>
      cases b with
      | const k => exact .const equal
      | _ => cases equal
    | var v =>
      cases b with
      | var w =>
        obtain rfl : v = w := by simpa [same] using equal
        exact .var v
      | _ => cases equal
    | unary op a ih =>
      cases b with
      | unary op' b =>
        obtain ⟨rfl, operand⟩ : op = op' ∧ a.same b = true := by simpa [same] using equal
        exact .unary op (ih operand)
      | _ => cases equal
    | binary op l r ihl ihr =>
      cases b with
      | binary op' l' r' =>
        obtain ⟨⟨rfl, left⟩, right⟩ : (op = op' ∧ l.same l' = true) ∧ r.same r' = true := by
          simpa [same] using equal
        exact .binary op (ihl left) (ihr right)
      | _ => cases equal
  · intro corresponds
    induction corresponds with
    | const equal => exact equal
    | var v => simp [same]
    | unary op _ ih => simp [same, ih]
    | binary op _ _ ihl ihr => simp [same, ihl, ihr]

namespace Corresponds

variable [OfNat κ 0] [OfNat κ 1] {rel : κ → κ → Prop} {a b : Expr κ}

theorem derivative (zero : rel 0 0) (one : rel 1 1) (corresponds : a.Corresponds rel b)
    (v : Variable) : (a.derivative v).Corresponds rel (b.derivative v) := by
  induction corresponds with
  | const _ => exact .const zero
  | var w =>
    unfold Expr.derivative
    split
    · exact .const one
    · exact .const zero
  | unary op arg slope =>
    cases op with
    | negate => exact .unary .negate slope
    | sinh => exact .binary .mul (.unary .cosh arg) slope
    | cosh => exact .binary .mul (.unary .negate (.unary .sinh arg)) slope
    | atan =>
      have divisor := (const one).binary .add (arg.binary .mul arg)
      exact .binary .mul (.binary .div (.const one) divisor) slope
  | binary op left right slopeL slopeR =>
    have first := slopeL.binary .mul right
    have second := left.binary .mul slopeR
    have norm := (left.binary .mul left).binary .add (right.binary .mul right)
    cases op with
    | add => exact .binary .add slopeL slopeR
    | sub => exact .binary .sub slopeL slopeR
    | mul => exact .binary .add first second
    | div => exact .binary .div (.binary .sub first second) (.binary .mul right right)
    | atan2 =>
      have turned := ((left.unary .negate).binary .mul slopeR).binary .div norm
      exact .binary .add turned (.binary .div (.binary .mul right slopeL) norm)

theorem deriveAll (zero : rel 0 0) (one : rel 1 1) (corresponds : a.Corresponds rel b)
    (vs : List Variable) : (a.deriveAll vs).Corresponds rel (b.deriveAll vs) := by
  induction vs generalizing a b with
  | nil => exact corresponds
  | cons v vs ih => exact ih (corresponds.derivative zero one v)

end Corresponds

theorem beq_deriveAll {a b : Expr Float} (equal : (a == b) = true) (vs : List Variable) :
    (a.deriveAll vs == b.deriveAll vs) = true := by
  have zero : ((0 : Float) == 0) = true := by decide +kernel
  have one : ((1 : Float) == 1) = true := by decide +kernel
  rw [beq_iff_corresponds] at equal ⊢
  exact equal.deriveAll zero one vs

end Expr

open Number

/-- The standard values where an operand is zero: `sinh` and `atan` keep a zero, `cosh` is one, and
`atan2` keeps a zero over an operand that is not negative and sees no sign in a zero under any other
operand. -/
structure Functions.Standard (fs : Functions) : Prop where
  sinh : ∀ x, IsZero x → fs.sinh x = x
  cosh : ∀ x, IsZero x → fs.cosh x = 1
  atan : ∀ x, IsZero x → fs.atan x = x
  atan2_zero : ∀ x y, IsZero x → isNegative y = false → y.isNaN = false → fs.atan2 x y = x
  atan2_axis : ∀ x, ¬ IsZero x → fs.atan2 x 0 = fs.atan2 x (-0)
  atan2_nan : ∀ x y, y.isNaN = true → (fs.atan2 x y).isNaN = true

/-- The operands of two trees differ in no sign of a zero that the operator shows. A quotient shows
the sign of its divisor unless its dividend is null. `atan2` of a zero shows the sign of its second
operand, and its own sign if the second operand is negative. -/
def BinaryOp.Kept (x y x' y' : Float) : BinaryOp → Prop
  | .div => ¬ Null x → y = y'
  | .atan2 => IsZero x → y = y' ∧ (isNegative y = true → x = x')
  | _ => True

/-- Corresponding operands of two trees meet in no place where different zeros show. -/
def Expr.Concordant (I : Interpretation Float Float) (p : Triple Float) :
    Expr Float → Expr Float → Prop
  | .unary _ a, .unary _ b => a.Concordant I p b
  | .binary op l r, .binary _ l' r' =>
    l.Concordant I p l' ∧ r.Concordant I p r' ∧
      op.Kept (l.eval I p) (r.eval I p) (l'.eval I p) (r'.eval I p)
  | _, _ => True

namespace Functions.Standard

variable {fs : Functions} {x x' y y' : Float}

theorem alike_unary (standard : fs.Standard) (op : UnaryOp) (alike : Alike x y) :
    Alike ((doublesWith fs).unary op x) ((doublesWith fs).unary op y) := by
  have positive : IsZero 0 := Or.inl rfl
  have negative : IsZero (-0) := Or.inr rfl
  cases op with
  | negate => exact alike.neg
  | sinh =>
    refine alike.map fs.sinh ?_
    rw [standard.sinh 0 positive, standard.sinh (-0) negative]
    exact .of_zeros positive negative
  | cosh =>
    refine alike.map fs.cosh ?_
    rw [standard.cosh 0 positive, standard.cosh (-0) negative]
    exact .refl 1
  | atan =>
    refine alike.map fs.atan ?_
    rw [standard.atan 0 positive, standard.atan (-0) negative]
    exact .of_zeros positive negative

theorem alike_atan2 (standard : fs.Standard) (left : Alike x x') (right : Alike y y')
    (kept : BinaryOp.atan2.Kept x y x' y') : Alike (fs.atan2 x y) (fs.atan2 x' y') := by
  by_cases zero : IsZero x
  · obtain ⟨rfl, before⟩ := kept zero
    have zero' := left.zero zero
    cases negative : isNegative y with
    | true =>
      rw [before negative]
      exact .refl _
    | false =>
      cases none : y.isNaN with
      | true => exact Or.inr ⟨standard.atan2_nan x y none, standard.atan2_nan x' y none⟩
      | false =>
        rw [standard.atan2_zero x y zero negative none,
          standard.atan2_zero x' y zero' negative none]
        exact left
  · obtain rfl := left.eq zero
    apply right.map
    rw [standard.atan2_axis x zero]
    exact .refl _

theorem alike_binary (standard : fs.Standard) (op : BinaryOp) (left : Alike x x')
    (right : Alike y y') (kept : op.Kept x y x' y') :
    Alike ((doublesWith fs).binary op x y) ((doublesWith fs).binary op x' y') := by
  cases op with
  | add => exact left.add right
  | sub => exact left.sub right
  | mul => exact left.mul right
  | div => exact left.div right kept
  | atan2 => exact standard.alike_atan2 left right kept

end Functions.Standard

namespace Expr

variable {fs : Functions} {p : Triple Float} {a b : Expr Float}

theorem Concordant.alike (concordant : a.Concordant (doublesWith fs) p b) (standard : fs.Standard)
    (equal : (a == b) = true) :
    Alike (a.eval (doublesWith fs) p) (b.eval (doublesWith fs) p) := by
  rw [beq_iff_corresponds] at equal
  induction equal with
  | const equal => exact Or.inl equal
  | var v => exact .refl _
  | unary op _ ih => exact standard.alike_unary op (ih concordant)
  | binary op _ _ ihl ihr =>
    obtain ⟨left, right, kept⟩ := concordant
    exact standard.alike_binary op (ihl left) (ihr right) kept

/-- The divisors that a rule adds are sums of squares, in which no sign of a zero is left. -/
theorem Concordant.derivative (concordant : a.Concordant (doublesWith fs) p b)
    (standard : fs.Standard) (equal : (a == b) = true) (v : Variable) :
    (a.derivative v).Concordant (doublesWith fs) p (b.derivative v) := by
  have mul : ∀ x y, (doublesWith fs).binary .mul x y = x * y := fun _ _ => rfl
  rw [beq_iff_corresponds] at equal
  induction equal with
  | const _ => trivial
  | var w => trivial
  | @unary op a b equal slope =>
    have operand : a.Concordant (doublesWith fs) p b := concordant
    have later := slope operand
    have value := operand.alike standard (beq_iff_corresponds.mpr equal)
    cases op with
    | negate => exact later
    | sinh => exact ⟨operand, later, trivial⟩
    | cosh => exact ⟨operand, later, trivial⟩
    | atan =>
      have divisor := And.intro trivial (And.intro (And.intro operand (And.intro operand trivial))
        trivial)
      refine ⟨⟨trivial, divisor, fun _ => ?_⟩, later, trivial⟩
      simp only [eval_add, eval_mul, mul, value.square]
  | binary op equalL equalR slopeL slopeR =>
    obtain ⟨left, right, kept⟩ := concordant
    have laterL := slopeL left
    have laterR := slopeR right
    have valueL := left.alike standard (beq_iff_corresponds.mpr equalL)
    have valueR := right.alike standard (beq_iff_corresponds.mpr equalR)
    have first := And.intro laterL (And.intro right trivial)
    have second := And.intro left (And.intro laterR trivial)
    cases op with
    | add => exact ⟨laterL, laterR, trivial⟩
    | sub => exact ⟨laterL, laterR, trivial⟩
    | mul => exact ⟨first, second, trivial⟩
    | div =>
      refine ⟨⟨first, second, trivial⟩, ⟨right, right, trivial⟩, fun _ => ?_⟩
      simp only [eval_mul, mul, valueR.square]
    | atan2 =>
      have norm := And.intro (And.intro left (And.intro left trivial))
        (And.intro (And.intro right (And.intro right trivial)) trivial)
      refine ⟨⟨second, norm, fun _ => ?_⟩, ⟨⟨right, laterL, trivial⟩, norm, fun _ => ?_⟩, trivial⟩
      all_goals simp only [eval_add, eval_mul, mul, valueL.square, valueR.square]

theorem Concordant.deriveAll (concordant : a.Concordant (doublesWith fs) p b)
    (standard : fs.Standard) (equal : (a == b) = true) (vs : List Variable) :
    (a.deriveAll vs).Concordant (doublesWith fs) p (b.deriveAll vs) := by
  induction vs generalizing a b with
  | nil => exact concordant
  | cons v vs ih => exact ih (concordant.derivative standard equal v) (beq_deriveAll equal [v])

/-- Equal trees in which no zeros of different signs meet where they show have alike values, and so
have their derivatives of any order, which are equal trees again. -/
theorem eval_alike_of_beq (standard : fs.Standard) (equal : (a == b) = true)
    (concordant : a.Concordant (doublesWith fs) p b) :
    Alike (a.eval (doublesWith fs) p) (b.eval (doublesWith fs) p) ∧
      ∀ vs, (a.deriveAll vs == b.deriveAll vs) = true ∧
        Alike ((a.deriveAll vs).eval (doublesWith fs) p)
          ((b.deriveAll vs).eval (doublesWith fs) p) := by
  refine ⟨concordant.alike standard equal, fun vs => ?_⟩
  have later := beq_deriveAll equal vs
  exact ⟨later, (concordant.deriveAll standard equal vs).alike standard later⟩

end Expr

def atZero : Functions where
  sinh := id
  cosh _ := 1
  atan := id
  atan2 x y := if y.isNaN then y else x

theorem standard_atZero : atZero.Standard where
  sinh _ _ := rfl
  cosh _ _ := rfl
  atan _ _ := rfl
  atan2_zero x y _ _ number := by
    change (if y.isNaN then y else x) = x
    rw [number]
    rfl
  atan2_axis _ _ := rfl
  atan2_nan x y none := by
    change (if y.isNaN then y else x).isNaN = true
    rw [if_pos none, none]

namespace Expr

def angled (k : Float) : Expr Float :=
  .binary .atan2 (.const k) (.var .x) + .const 1 / .var .y

theorem angled_eval_alike_of_beq :
    (angled 0 == angled (-0)) = true ∧
      (angled 0).Concordant (doublesWith atZero) ⟨1, 0, 0⟩ (angled (-0)) ∧
      Alike (((angled 0).deriveAll [.x, .y]).eval (doublesWith atZero) ⟨1, 0, 0⟩)
        (((angled (-0)).deriveAll [.x, .y]).eval (doublesWith atZero) ⟨1, 0, 0⟩) := by
  have equal : (angled 0 == angled (-0)) = true := by decide +kernel
  have positive : isNegative 1 = false := by decide +kernel
  have concordant : (angled 0).Concordant (doublesWith atZero) ⟨1, 0, 0⟩ (angled (-0)) := by
    refine ⟨⟨trivial, trivial, fun _ => ⟨rfl, fun negative => ?_⟩⟩,
      ⟨trivial, trivial, fun _ => rfl⟩, trivial⟩
    exact absurd (negative.symm.trans positive) (by decide)
  exact ⟨equal, concordant, ((eval_alike_of_beq standard_atZero equal concordant).2 [.x, .y]).2⟩

def squared (k : Float) : Expr Float :=
  (.const 1 / (.var .x + .const k)) * (.const 1 / (.var .x + .const k))

/-- One over zero is one infinity or the other, as a value and as a part of a derivative. -/
theorem reciprocal_not_alike :
    ((.const 1 / .const 0 : Expr Float) == .const 1 / .const (-0)) = true ∧
      ¬ Alike ((.const 1 / .const 0 : Expr Float).eval doubles ⟨0, 0, 0⟩)
        ((.const 1 / .const (-0) : Expr Float).eval doubles ⟨0, 0, 0⟩) ∧
      (squared 0 == squared (-0)) = true ∧
      Alike ((squared 0).eval doubles ⟨-0, 0, 0⟩) ((squared (-0)).eval doubles ⟨-0, 0, 0⟩) ∧
      ¬ Alike (((squared 0).derivative .x).eval doubles ⟨-0, 0, 0⟩)
        (((squared (-0)).derivative .x).eval doubles ⟨-0, 0, 0⟩) := by
  decide +kernel

end Expr

end Trivariate
