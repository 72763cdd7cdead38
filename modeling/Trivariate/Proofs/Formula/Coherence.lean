import Mathlib
import Trivariate.Formula

namespace Trivariate

theorem Triple.getElem?_toList {α : Type} (t : Triple α) (v : Variable) :
    t.toList[v.index]? = some (t.get v) := by
  cases v <;> rfl

namespace Formula

variable {κ α : Type}

theorem gradient_get (I : Interpretation κ α) (f : Formula κ) (p : Triple α) (v : Variable) :
    (f.gradient I p).get v = (f.derivative v).eval I p :=
  Triple.get_map ..

theorem hessian_get (I : Interpretation κ α) (f : Formula κ) (p : Triple α) (v w : Variable) :
    ((f.hessian I p).get v).get w = (f.secondDerivative v w).eval I p := by
  rw [hessian, Triple.get_map, Triple.get_map, secondDerivative]

variable [OfNat κ 0] [OfNat κ 1]

structure Coherent (f : Formula κ) : Prop where
  first : ∀ v, f.derivative v = f.tree.derivative v
  second : ∀ v w, f.secondDerivative v w = (f.tree.derivative v).derivative w

theorem coherent_ofExpr (source : String) (form : Notation) (e : Expr κ) :
    (ofExpr source form e).Coherent := by
  constructor
  · intro v
    simp [derivative, ofExpr]
  · intro v w
    simp [secondDerivative, ofExpr]

theorem gradient_ofExpr_get (I : Interpretation κ α) (source : String) (form : Notation)
    (t : Expr κ) (p : Triple α) (v : Variable) :
    ((ofExpr source form t).gradient I p).get v = (t.deriveAll [v]).eval I p := by
  rw [gradient_get, (coherent_ofExpr source form t).first]
  rfl

theorem hessian_ofExpr_get (I : Interpretation κ α) (source : String) (form : Notation)
    (t : Expr κ) (p : Triple α) (v w : Variable) :
    (((ofExpr source form t).hessian I p).get v).get w = (t.deriveAll [v, w]).eval I p := by
  rw [hessian_get, (coherent_ofExpr source form t).second]
  rfl

theorem parse_eq_ok_iff (source : String) (form : Notation) (f : Formula Float) :
    parse source form = .ok f ↔ ∃ t, form.parse source = .ok t ∧ f = ofExpr source form t := by
  rw [parse]
  cases form.parse source with
  | ok t => simp [eq_comm]
  | error cause => simp

/-- The formulas that come from a tree, or from a text of it, and the variables of all rebases
since then in a row. -/
inductive Reached : Expr Float → List Variable → Formula Float → Prop where
  | parsed {source : String} {form : Notation} {t : Expr Float} {f : Formula Float} :
      form.parse source = .ok t → parse source form = .ok f → Reached t [] f
  | built (source : String) (form : Notation) (t : Expr Float) :
      Reached t [] (ofExpr source form t)
  | rebased {t : Expr Float} {done : List Variable} {f : Formula Float} (vs : List Variable)
      (source : String) (form : Notation) :
      Reached t done f → Reached t (done ++ vs) (f.rebase vs source form)

theorem Reached.tree_eq {t : Expr Float} {done : List Variable} {f : Formula Float}
    (reached : Reached t done f) : f.tree = t.deriveAll done := by
  induction reached with
  | parsed read parsed =>
    obtain ⟨t', read', rfl⟩ := (parse_eq_ok_iff ..).mp parsed
    rw [read] at read'
    cases read'
    rfl
  | built source form t => rfl
  | rebased vs source form _ ih =>
    rw [Expr.deriveAll_append, ← ih]
    rfl

theorem Reached.coherent {t : Expr Float} {done : List Variable} {f : Formula Float}
    (reached : Reached t done f) : f.Coherent := by
  -- No step looks at what was held before, so there is no hypothesis to carry along.
  cases reached with
  | parsed _ parsed =>
    obtain ⟨t, -, rfl⟩ := (parse_eq_ok_iff ..).mp parsed
    exact coherent_ofExpr ..
  | built source form t => exact coherent_ofExpr ..
  | rebased vs source form _ => exact coherent_ofExpr ..

/-- Whatever a formula went through, its tree is the first one differentiated by all variables so
far, its tables hold the derivatives of that tree under the index of each variable, and rebasing
divides a list of variables anywhere. -/
theorem derivatives_of_reached {t : Expr Float} {done : List Variable} {f : Formula Float}
    (reached : Reached t done f) :
    f.tree = t.deriveAll done ∧
      (∀ v, f.derivative v = f.deriveAll [v]) ∧
      (∀ v w, f.secondDerivative v w = f.deriveAll [v, w]) ∧
      (∀ {α : Type} (I : Interpretation Float α) (p : Triple α) (v : Variable),
        (f.gradient I p).toList[v.index]? = some ((f.deriveAll [v]).eval I p)) ∧
      (∀ {α : Type} (I : Interpretation Float α) (p : Triple α) (v w : Variable),
        ∃ row, (f.hessian I p).toList[v.index]? = some row ∧
          row.toList[w.index]? = some ((f.deriveAll [v, w]).eval I p)) ∧
      ∀ (vs ws : List Variable) (source : String) (form : Notation),
        f.deriveAll (vs ++ ws) = (f.rebase vs source form).deriveAll ws := by
  have coherent := reached.coherent
  refine ⟨reached.tree_eq, coherent.first, coherent.second, ?_, ?_, ?_⟩
  · intro α I p v
    rw [Triple.getElem?_toList, gradient_get, coherent.first]
    rfl
  · intro α I p v w
    refine ⟨_, Triple.getElem?_toList _ v, ?_⟩
    rw [Triple.getElem?_toList, hessian_get, coherent.second]
    rfl
  · intro vs ws source form
    exact Expr.deriveAll_append ..

theorem square_derivatives_of_reached :
    ∃ f, Reached (.var .x * .var .x) [.x, .y] f ∧
      f.tree = (.var .x * .var .x : Expr Float).deriveAll [.x, .y] ∧
      f.secondDerivative .z .x = f.deriveAll [.z, .x] := by
  have read : Notation.reversePolish.parse "x x *" = .ok (.var .x * .var .x) := by decide +kernel
  have parsed : parse "x x *" .reversePolish =
      .ok (ofExpr "x x *" .reversePolish (.var .x * .var .x)) :=
    (parse_eq_ok_iff ..).mpr ⟨_, read, rfl⟩
  have reached := ((Reached.parsed read parsed).rebased [.x] "d" .polish).rebased [.y] "e" .polish
  have all := derivatives_of_reached reached
  exact ⟨_, reached, all.1, all.2.2.1 .z .x⟩

end Formula

end Trivariate
