import Trivariate.Proofs.Dependence.Mentioned
import Trivariate.Proofs.Number.Null

/-! Derivatives by variables that do not occur. They are not simplified to zero, but every summand
in them has a factor that is. Main statement: over the doubles such a derivative, and every further
derivative of it, is zero or no number at every point. -/
namespace Trivariate

namespace Expr

variable {κ : Type} [OfNat κ 0]

/-- The trees whose shape makes them zero: zero itself, products with a vanishing factor, quotients
of a vanishing numerator, and signed sums of vanishing trees. -/
inductive Vanishing : Expr κ → Prop where
  | zero : Vanishing (.const 0)
  | neg {a : Expr κ} : Vanishing a → Vanishing (-a)
  | add {a b : Expr κ} : Vanishing a → Vanishing b → Vanishing (a + b)
  | sub {a b : Expr κ} : Vanishing a → Vanishing b → Vanishing (a - b)
  | mul_left {a : Expr κ} (b : Expr κ) : Vanishing a → Vanishing (a * b)
  | mul_right (a : Expr κ) {b : Expr κ} : Vanishing b → Vanishing (a * b)
  | div {a : Expr κ} (b : Expr κ) : Vanishing a → Vanishing (a / b)

end Expr

/-- The values that arithmetic treats as zero: they are closed under signed sums, and absorb what
they are multiplied with or divided by. -/
structure Interpretation.Absorbs {κ α : Type} [OfNat κ 0] (I : Interpretation κ α)
    (null : α → Prop) : Prop where
  zero : null (I.const 0)
  neg : ∀ {a}, null a → null (I.unary .negate a)
  add : ∀ {a b}, null a → null b → null (I.binary .add a b)
  sub : ∀ {a b}, null a → null b → null (I.binary .sub a b)
  mul_left : ∀ {a} b, null a → null (I.binary .mul a b)
  mul_right : ∀ a {b}, null b → null (I.binary .mul a b)
  div : ∀ {a} b, null a → null (I.binary .div a b)

theorem absorbs_doubles : doubles.Absorbs Number.Null where
  zero := Or.inl rfl
  neg null := null.neg
  add left right := left.add right
  sub left right := left.sub right
  mul_left _ null := null.mul_left
  mul_right _ _ null := null.mul_right
  div _ null := null.div

namespace Expr

variable {κ α : Type} [OfNat κ 0]

theorem Vanishing.eval {I : Interpretation κ α} {null : α → Prop} (absorbs : I.Absorbs null)
    {e : Expr κ} (vanishing : e.Vanishing) (p : Triple α) : null (e.eval I p) := by
  induction vanishing with
  | zero => exact absorbs.zero
  | neg _ ih => exact absorbs.neg ih
  | add _ _ left right => exact absorbs.add left right
  | sub _ _ left right => exact absorbs.sub left right
  | mul_left b _ ih => exact absorbs.mul_left _ ih
  | mul_right a _ ih => exact absorbs.mul_right _ ih
  | div b _ ih => exact absorbs.div _ ih

variable [OfNat κ 1]

theorem Vanishing.derivative {e : Expr κ} (vanishing : e.Vanishing) (v : Variable) :
    (e.derivative v).Vanishing := by
  induction vanishing with
  | zero => exact .zero
  | neg _ ih => exact ih.neg
  | add _ _ left right => exact left.add right
  | sub _ _ left right => exact left.sub right
  | mul_left b factor ih => exact (ih.mul_left b).add (factor.mul_left _)
  | mul_right a factor ih => exact (factor.mul_right _).add (ih.mul_right a)
  | div b numerator ih => exact ((ih.mul_left b).sub (numerator.mul_left _)).div _

theorem Vanishing.deriveAll {e : Expr κ} (vanishing : e.Vanishing) (vs : List Variable) :
    (e.deriveAll vs).Vanishing := by
  induction vs generalizing e with
  | nil => exact vanishing
  | cons v vs ih => exact ih (vanishing.derivative v)

theorem vanishing_derivative {e : Expr κ} {v : Variable} (absent : e.mentions v = false) :
    (e.derivative v).Vanishing := by
  induction e with
  | const k => exact .zero
  | var w =>
    have other : w ≠ v := by simpa [mentions] using absent
    rw [derivative, if_neg other]
    exact .zero
  | unary op a ih =>
    have slope := ih absent
    cases op with
    | negate => exact slope.neg
    | _ => exact slope.mul_right _
  | binary op l r ihl ihr =>
    obtain ⟨left, right⟩ := Bool.or_eq_false_iff.mp absent
    have slopeL := ihl left
    have slopeR := ihr right
    cases op with
    | add => exact slopeL.add slopeR
    | sub => exact slopeL.sub slopeR
    | mul => exact (slopeL.mul_left r).add (slopeR.mul_right l)
    | div => exact ((slopeL.mul_left r).sub (slopeR.mul_right l)).div _
    | atan2 => exact ((slopeR.mul_right _).div _).add ((slopeL.mul_right r).div _)

theorem vanishing_deriveAll {e : Expr κ} {v : Variable} (absent : v ∉ e.vars)
    {vs : List Variable} (member : v ∈ vs) : (e.deriveAll vs).Vanishing := by
  obtain ⟨before, after, rfl⟩ := List.append_of_mem member
  have still : v ∉ (e.deriveAll before).vars :=
    fun inside => absent (vars_deriveAll e before inside)
  rw [mem_vars, Bool.not_eq_true] at still
  rw [deriveAll_append, deriveAll_cons]
  exact (vanishing_derivative still).deriveAll after

end Expr

namespace Formula

/-- A derivative by a list of variables, one of which the formula does not mention, is zero or no
number at every point, and so are the entries of gradient and Hessian that belong to that
variable. -/
theorem null_of_absent (source : String) (form : Notation) (t : Expr Float) {v : Variable}
    (absent : v ∉ t.vars) (p : Triple Float) :
    (∀ vs, v ∈ vs → Number.Null (((ofExpr source form t).deriveAll vs).eval doubles p)) ∧
      Number.Null (((ofExpr source form t).gradient doubles p).get v) ∧
      ∀ w, Number.Null ((((ofExpr source form t).hessian doubles p).get v).get w) ∧
        Number.Null ((((ofExpr source form t).hessian doubles p).get w).get v) := by
  have null : ∀ vs, v ∈ vs → Number.Null ((t.deriveAll vs).eval doubles p) := by
    intro vs member
    exact (Expr.vanishing_deriveAll absent member).eval absorbs_doubles p
  refine ⟨null, ?_, fun w => ⟨?_, ?_⟩⟩
  · rw [gradient_ofExpr_get]
    exact null [v] (by simp)
  · rw [hessian_ofExpr_get]
    exact null [v, w] (by simp)
  · rw [hessian_ofExpr_get]
    exact null [w, v] (by simp)

theorem quotient_null_of_absent :
    Variable.y ∉ (.var .x / .var .z : Expr Float).vars ∧
      Number.Null (((ofExpr "x z /" .reversePolish (.var .x / .var .z : Expr Float)).gradient
        doubles ⟨1, 2, 0⟩).get .y) ∧
      (((ofExpr "x z /" .reversePolish (.var .x / .var .z : Expr Float)).gradient
        doubles ⟨1, 2, 0⟩).get .y).isNaN = true := by
  have absent : Variable.y ∉ (.var .x / .var .z : Expr Float).vars := by decide
  have all := null_of_absent "x z /" .reversePolish (.var .x / .var .z) absent ⟨1, 2, 0⟩
  exact ⟨absent, all.2.1, by decide +kernel⟩

end Formula

end Trivariate
