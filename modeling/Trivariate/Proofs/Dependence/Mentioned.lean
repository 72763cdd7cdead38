import Trivariate.Proofs.Formula.Coherence

namespace Trivariate

namespace Expr

variable {κ α : Type}

def Agree (p q : Triple α) (e : Expr κ) : Prop :=
  ∀ v ∈ e.vars, p.get v = q.get v

theorem Agree.of_subset {p q : Triple α} {d e : Expr κ} (agree : e.Agree p q)
    (fewer : d.vars ⊆ e.vars) : d.Agree p q :=
  fun v member => agree v (fewer member)

theorem vars_subset_iff {d e : Expr κ} :
    d.vars ⊆ e.vars ↔ ∀ v, d.mentions v = true → e.mentions v = true := by
  simp only [List.subset_def, mem_vars]

theorem vars_arg (op : UnaryOp) (a : Expr κ) : a.vars ⊆ (unary op a).vars :=
  vars_subset_iff.mpr fun _ mentioned => mentioned

theorem vars_left (op : BinaryOp) (l r : Expr κ) : l.vars ⊆ (binary op l r).vars :=
  vars_subset_iff.mpr fun _ mentioned => Bool.or_eq_true_iff.mpr (Or.inl mentioned)

theorem vars_right (op : BinaryOp) (l r : Expr κ) : r.vars ⊆ (binary op l r).vars :=
  vars_subset_iff.mpr fun _ mentioned => Bool.or_eq_true_iff.mpr (Or.inr mentioned)

theorem eval_congr (I : Interpretation κ α) {p q : Triple α} {e : Expr κ} (agree : e.Agree p q) :
    e.eval I p = e.eval I q := by
  induction e with
  | const k => rfl
  | var v => exact agree v (mem_vars.mpr (by simp [mentions]))
  | unary op a ih => rw [eval, eval, ih (agree.of_subset (vars_arg op a))]
  | binary op l r ihl ihr =>
    rw [eval, eval, ihl (agree.of_subset (vars_left op l r)),
      ihr (agree.of_subset (vars_right op l r))]

variable [OfNat κ 0] [OfNat κ 1]

theorem mentions_of_derivative {v w : Variable} {e : Expr κ}
    (mentioned : (e.derivative v).mentions w = true) : e.mentions w = true := by
  induction e with
  | const k => cases mentioned
  | var u => cases mentioned
  | unary op a ih =>
    cases op
    all_goals
      simp only [derivative, neg_def, add_def, mul_def, div_def, mentions, Bool.or_eq_true]
        at mentioned ⊢
      grind
  | binary op l r ihl ihr =>
    cases op
    all_goals
      simp only [derivative, neg_def, add_def, sub_def, mul_def, div_def, mentions,
        Bool.or_eq_true] at mentioned ⊢
      grind

theorem vars_derivative (e : Expr κ) (v : Variable) : (e.derivative v).vars ⊆ e.vars :=
  vars_subset_iff.mpr fun _ mentioned => mentions_of_derivative mentioned

theorem vars_deriveAll (e : Expr κ) (vs : List Variable) : (e.deriveAll vs).vars ⊆ e.vars := by
  induction vs generalizing e with
  | nil => exact List.Subset.refl _
  | cons v vs ih => exact List.Subset.trans (ih (e.derivative v)) (vars_derivative e v)

theorem eval_deriveAll_congr (I : Interpretation κ α) {p q : Triple α} {e : Expr κ}
    (agree : e.Agree p q) (vs : List Variable) :
    (e.deriveAll vs).eval I p = (e.deriveAll vs).eval I q :=
  eval_congr I (agree.of_subset (vars_deriveAll e vs))

end Expr

namespace Formula

variable {κ α : Type} [OfNat κ 0] [OfNat κ 1]

/-- No derivative mentions a variable that its formula does not. Points that agree on the variables
of a formula give it and all of its derivatives the same values. -/
theorem eval_eq_of_agree (I : Interpretation κ α) (source : String) (form : Notation)
    (t : Expr κ) :
    (∀ vs, ((ofExpr source form t).deriveAll vs).vars ⊆ t.vars) ∧
      ∀ p q : Triple α, (∀ v ∈ t.vars, p.get v = q.get v) →
        t.eval I p = t.eval I q ∧
        (∀ vs, ((ofExpr source form t).deriveAll vs).eval I p =
          ((ofExpr source form t).deriveAll vs).eval I q) ∧
        (ofExpr source form t).eval I p = (ofExpr source form t).eval I q ∧
        (ofExpr source form t).gradient I p = (ofExpr source form t).gradient I q ∧
        (ofExpr source form t).hessian I p = (ofExpr source form t).hessian I q := by
  refine ⟨t.vars_deriveAll, fun p q agree => ?_⟩
  have value := Expr.eval_congr I agree
  have slopes := Expr.eval_deriveAll_congr I agree
  refine ⟨value, slopes, value, ?_, ?_⟩
  · apply Triple.ext_get
    intro v
    rw [gradient_ofExpr_get, gradient_ofExpr_get, slopes]
  · apply Triple.ext_get
    intro v
    apply Triple.ext_get
    intro w
    rw [hessian_ofExpr_get, hessian_ofExpr_get, slopes]

theorem product_eval_eq_of_agree :
    (∀ v ∈ (.var .x * .var .y : Expr Float).vars,
      (⟨1, 2, 3⟩ : Triple Float).get v = (⟨1, 2, 5⟩ : Triple Float).get v) ∧
      (ofExpr "x y *" .reversePolish (.var .x * .var .y : Expr Float)).hessian doubles ⟨1, 2, 3⟩ =
        (ofExpr "x y *" .reversePolish (.var .x * .var .y : Expr Float)).hessian doubles
          ⟨1, 2, 5⟩ := by
  have agree : ∀ v ∈ (.var .x * .var .y : Expr Float).vars,
      (⟨1, 2, 3⟩ : Triple Float).get v = (⟨1, 2, 5⟩ : Triple Float).get v := by
    decide
  have all := (eval_eq_of_agree doubles "x y *" .reversePolish (.var .x * .var .y)).2 _ _ agree
  exact ⟨agree, all.2.2.2.2⟩

end Formula

end Trivariate
