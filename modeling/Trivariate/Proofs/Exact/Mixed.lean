import Trivariate.Formula
import Trivariate.Proofs.Exact.Dual
import Trivariate.Proofs.Exact.Jet

namespace Trivariate

variable {κ K : Type} [OfNat κ 0] [OfNat κ 1] [Field K]

def Expr.jet (E : ExactArithmetic κ K) (p : Triple K) (e : Expr κ) : Jet K :=
  fun vs => (e.deriveAll vs).eval E.values p

namespace Expr

open Jet

variable (E : ExactArithmetic κ K) (p : Triple K)

theorem shift_jet (e : Expr κ) (v : Variable) : (e.jet E p).shift v = (e.derivative v).jet E p :=
  rfl

theorem jet_zero : (Expr.const (0 : κ)).jet E p = 0 := by
  funext vs
  induction vs with
  | nil => exact E.const_zero
  | cons v vs ih => exact ih

theorem jet_one : (Expr.const (1 : κ)).jet E p = 1 := by
  funext vs
  cases vs with
  | nil => exact E.const_one
  | cons v vs => exact congrFun (jet_zero E p) vs

theorem jet_neg (a : Expr κ) : (-a).jet E p = -a.jet E p := by
  funext vs
  induction vs generalizing a with
  | nil => rfl
  | cons v vs ih => exact ih (a.derivative v)

theorem jet_add (a b : Expr κ) : (a + b).jet E p = a.jet E p + b.jet E p := by
  funext vs
  induction vs generalizing a b with
  | nil => rfl
  | cons v vs ih => exact ih (a.derivative v) (b.derivative v)

theorem jet_sub (a b : Expr κ) : (a - b).jet E p = a.jet E p - b.jet E p := by
  funext vs
  induction vs generalizing a b with
  | nil => rfl
  | cons v vs ih => exact ih (a.derivative v) (b.derivative v)

theorem jet_mul (a b : Expr κ) : (a * b).jet E p = a.jet E p * b.jet E p := by
  funext vs
  induction vs generalizing a b with
  | nil => rfl
  | cons v vs ih =>
    change (a.derivative v * b + a * b.derivative v).jet E p vs = _
    rw [jet_add]
    exact congrArg₂ (· + ·) (ih (a.derivative v) b) (ih a (b.derivative v))

theorem jet_div (a b : Expr κ) : (a / b).jet E p = a.jet E p / b.jet E p := by
  funext vs
  induction vs generalizing a b with
  | nil => rfl
  | cons v vs ih =>
    change ((a.derivative v * b - a * b.derivative v) / (b * b)).jet E p vs = _
    rw [ih, jet_sub, jet_mul, jet_mul, jet_mul]
    rfl

theorem shift_jet_sinh (a : Expr κ) (v : Variable) :
    ((Expr.unary .sinh a).jet E p).shift v = (Expr.unary .cosh a).jet E p * (a.jet E p).shift v :=
  jet_mul E p (.unary .cosh a) (a.derivative v)

theorem shift_jet_cosh (a : Expr κ) (v : Variable) :
    ((Expr.unary .cosh a).jet E p).shift v =
      -(Expr.unary .sinh a).jet E p * (a.jet E p).shift v := by
  rw [← jet_neg]
  exact jet_mul E p (-.unary .sinh a) (a.derivative v)

theorem shift_jet_atan (a : Expr κ) (v : Variable) :
    ((Expr.unary .atan a).jet E p).shift v =
      1 / (1 + a.jet E p * a.jet E p) * (a.jet E p).shift v := by
  change ((.const 1 / (.const 1 + a * a)) * a.derivative v : Expr κ).jet E p = _
  rw [jet_mul, jet_div, jet_add, jet_mul, jet_one]
  rfl

theorem shift_jet_atan2 (l r : Expr κ) (v : Variable) :
    ((Expr.binary .atan2 l r).jet E p).shift v =
      (r.jet E p * (l.jet E p).shift v - l.jet E p * (r.jet E p).shift v) /
        (l.jet E p * l.jet E p + r.jet E p * r.jet E p) := by
  change ((-l) * r.derivative v / (l * l + r * r) +
    r * l.derivative v / (l * l + r * r) : Expr κ).jet E p = _
  simp only [jet_add, jet_div, jet_mul, jet_neg, ← shift_jet]
  rw [← add_quotient]
  congr 1
  ring

/-- The derivatives of a tree form a flat jet, whatever its functions are. -/
theorem flat_jet (e : Expr κ) : (e.jet E p).Flat := by
  induction e with
  | const k => exact fun _ _ => rfl
  | var u => exact fun _ _ => rfl
  | unary op a ih =>
    cases op with
    | negate =>
      rw [← neg_def, jet_neg]
      exact ih.neg
    | sinh => exact ih.chain (shift_jet_sinh E p a) (shift_jet_cosh E p a)
    | cosh =>
      have bend : ∀ v, (-(Expr.unary .sinh a).jet E p).shift v =
          -(Expr.unary .cosh a).jet E p * (a.jet E p).shift v := by
        intro v
        rw [shift_neg, shift_jet_sinh, neg_mul]
      exact ih.chain (shift_jet_cosh E p a) bend
    | atan =>
      have bend : ∀ v, (1 / (1 + a.jet E p * a.jet E p)).shift v =
          -(a.jet E p + a.jet E p) /
            ((1 + a.jet E p * a.jet E p) * (1 + a.jet E p * a.jet E p)) *
            (a.jet E p).shift v := by
        intro v
        rw [quotient_product, shift_div, shift_add, shift_one, shift_mul]
        congr 1
        ring
      exact ih.chain (shift_jet_atan E p a) bend
  | binary op l r ihl ihr =>
    cases op with
    | add =>
      rw [← add_def, jet_add]
      exact ihl.add ihr
    | sub =>
      rw [← sub_def, jet_sub]
      exact ihl.sub ihr
    | mul =>
      rw [← mul_def, jet_mul]
      exact ihl.mul ihr
    | div =>
      rw [← div_def, jet_div]
      exact ihl.div ihr
    | atan2 => exact ihl.angle ihr (shift_jet_atan2 E p l r)

theorem eval_deriveAll_perm {vs ws : List Variable} (same : vs.Perm ws) (e : Expr κ) :
    (e.deriveAll vs).eval E.values p = (e.deriveAll ws).eval E.values p := by
  induction same generalizing e with
  | nil => rfl
  | cons v _ ih => exact ih (e.derivative v)
  | swap v w vs => exact congrFun (flat_jet E p e w v) vs
  | trans _ _ first second => exact (first e).trans (second e)

/-- A derivative divides by nothing that its tree does not divide by already. -/
theorem DefinedAt.derivative {E : ExactArithmetic κ K} {p : Triple K} {e : Expr κ}
    (defined : e.DefinedAt E.values p) (v : Variable) :
    (e.derivative v).DefinedAt E.values p := by
  induction e with
  | const k => trivial
  | var w => trivial
  | unary op a ih =>
    obtain ⟨inner, here⟩ := defined
    have slope := ih inner
    cases op with
    | negate => exact ⟨slope, trivial⟩
    | sinh => exact ⟨⟨inner, trivial⟩, slope, trivial⟩
    | cosh => exact ⟨⟨⟨inner, trivial⟩, trivial⟩, slope, trivial⟩
    | atan =>
      have square : (.const 1 + a * a : Expr κ).eval E.values p ≠ 0 := by
        change E.const 1 + a.eval E.values p * a.eval E.values p ≠ 0
        rw [E.const_one, ← pow_two]
        exact here
      exact ⟨⟨trivial, ⟨trivial, ⟨inner, inner, trivial⟩, trivial⟩, square⟩, slope, trivial⟩
  | binary op l r ihl ihr =>
    obtain ⟨left, right, here⟩ := defined
    have slopeL := ihl left
    have slopeR := ihr right
    cases op with
    | add => exact ⟨slopeL, slopeR, trivial⟩
    | sub => exact ⟨slopeL, slopeR, trivial⟩
    | mul => exact ⟨⟨slopeL, right, trivial⟩, ⟨left, slopeR, trivial⟩, trivial⟩
    | div =>
      have square : (r * r).eval E.values p ≠ 0 := mul_ne_zero here here
      exact ⟨⟨⟨slopeL, right, trivial⟩, ⟨left, slopeR, trivial⟩, trivial⟩,
        ⟨right, right, trivial⟩, square⟩
    | atan2 =>
      have norm : (l * l + r * r).DefinedAt E.values p :=
        ⟨⟨left, left, trivial⟩, ⟨right, right, trivial⟩, trivial⟩
      have square : (l * l + r * r).eval E.values p ≠ 0 := by
        change l.eval E.values p * l.eval E.values p + r.eval E.values p * r.eval E.values p ≠ 0
        rw [← pow_two, ← pow_two]
        exact here
      exact ⟨⟨⟨⟨left, trivial⟩, slopeR, trivial⟩, norm, square⟩,
        ⟨⟨right, slopeL, trivial⟩, norm, square⟩, trivial⟩

theorem DefinedAt.deriveAll {E : ExactArithmetic κ K} {p : Triple K} {e : Expr κ}
    (defined : e.DefinedAt E.values p) (vs : List Variable) :
    (e.deriveAll vs).DefinedAt E.values p := by
  induction vs generalizing e with
  | nil => exact defined
  | cons v vs ih => exact ih (defined.derivative v)

end Expr

namespace Formula

/-- The order of differentiation does not change a value, and the second derivatives that a formula
holds are symmetric. Where no divisor of the formula vanishes, none of its derivatives divides by
zero, so that their values do not depend on what division by zero gives. -/
theorem eval_deriveAll_of_perm (E : ExactArithmetic κ K) (source : String) (form : Notation)
    (e : Expr κ) (p : Triple K) :
    (∀ vs ws : List Variable, vs.Perm ws →
      ((ofExpr source form e).deriveAll vs).eval E.values p =
        ((ofExpr source form e).deriveAll ws).eval E.values p) ∧
    (∀ v w, (((ofExpr source form e).hessian E.values p).get v).get w =
      (((ofExpr source form e).hessian E.values p).get w).get v) ∧
    (e.DefinedAt E.values p →
      ∀ vs, ((ofExpr source form e).deriveAll vs).DefinedAt E.values p) := by
  refine ⟨fun vs ws same => e.eval_deriveAll_perm E p same, fun v w => ?_,
    fun defined => defined.deriveAll⟩
  have entry : ∀ v w, (((ofExpr source form e).hessian E.values p).get v).get w =
      (e.deriveAll [v, w]).eval E.values p := by
    intro v w
    simp [hessian, ofExpr]
  rw [entry, entry]
  exact e.eval_deriveAll_perm E p (List.Perm.swap w v [])

theorem quotient_eval_deriveAll_of_perm :
    [Variable.x, .y].Perm [.y, .x] ∧
      (.var .x / .var .y : Expr ℚ).DefinedAt Expr.firstTerms.values ⟨1, 2, 0⟩ ∧
      ((ofExpr "(/ x y)" .polish (.var .x / .var .y : Expr ℚ)).deriveAll [.x, .y]).eval
          Expr.firstTerms.values ⟨1, 2, 0⟩ =
        ((ofExpr "(/ x y)" .polish (.var .x / .var .y : Expr ℚ)).deriveAll [.y, .x]).eval
          Expr.firstTerms.values ⟨1, 2, 0⟩ ∧
      ∀ vs, ((ofExpr "(/ x y)" .polish (.var .x / .var .y : Expr ℚ)).deriveAll vs).DefinedAt
        Expr.firstTerms.values ⟨1, 2, 0⟩ := by
  have defined : (.var .x / .var .y : Expr ℚ).DefinedAt Expr.firstTerms.values ⟨1, 2, 0⟩ :=
    ⟨trivial, trivial, two_ne_zero⟩
  have all := eval_deriveAll_of_perm Expr.firstTerms "(/ x y)" .polish (.var .x / .var .y) ⟨1, 2, 0⟩
  have swap : [Variable.x, .y].Perm [.y, .x] := List.Perm.swap ..
  exact ⟨swap, defined, all.1 _ _ swap, all.2.2 defined⟩

end Formula

end Trivariate
