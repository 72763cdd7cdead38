import Mathlib
import Trivariate.Proofs.Formula.Coherence

namespace Trivariate

variable {κ α β : Type}

namespace Expr

def rename (s : Variable → Variable) : Expr κ → Expr κ
  | .const k => .const k
  | .var v => .var (s v)
  | .unary op a => .unary op (a.rename s)
  | .binary op l r => .binary op (l.rename s) (r.rename s)

theorem eval_rename (I : Interpretation κ α) {s : Variable → Variable} {p q : Triple α}
    (moved : ∀ v, q.get (s v) = p.get v) (t : Expr κ) : (t.rename s).eval I q = t.eval I p := by
  induction t with
  | const k => rfl
  | var v => exact moved v
  | unary op a ih => simp only [rename, eval, ih]
  | binary op l r ihl ihr => simp only [rename, eval, ihl, ihr]

variable [OfNat κ 0] [OfNat κ 1]

theorem derivative_rename {s : Variable → Variable} (injective : Function.Injective s) (t : Expr κ)
    (v : Variable) : (t.rename s).derivative (s v) = (t.derivative v).rename s := by
  induction t with
  | const k => rfl
  | var w => simp only [rename, derivative, injective.eq_iff]
  | unary op a ih =>
    cases op
    all_goals
      simp only [rename, derivative, ih]
      rfl
  | binary op l r ihl ihr =>
    cases op
    all_goals
      simp only [rename, derivative, ihl, ihr]
      rfl

theorem deriveAll_rename {s : Variable → Variable} (injective : Function.Injective s) (t : Expr κ)
    (vs : List Variable) : (t.rename s).deriveAll (vs.map s) = (t.deriveAll vs).rename s := by
  induction vs generalizing t with
  | nil => rfl
  | cons v vs ih =>
    rw [List.map_cons, deriveAll_cons, deriveAll_cons, derivative_rename injective]
    exact ih (t.derivative v)

end Expr

/-- What stands at the index of a variable in the first triple is related to what stands at the
index of its new name in the second. -/
def Triple.Renamed (s : Variable → Variable) (rel : α → β → Prop) (p : Triple α) (q : Triple β) :
    Prop :=
  ∀ v, ∃ a b, p.toList[v.index]? = some a ∧ q.toList[(s v).index]? = some b ∧ rel a b

theorem Triple.renamed_iff {s : Variable → Variable} {rel : α → β → Prop} {p : Triple α}
    {q : Triple β} : p.Renamed s rel q ↔ ∀ v, rel (p.get v) (q.get (s v)) := by
  unfold Renamed
  simp only [getElem?_toList, Option.some.injEq]
  constructor
  · intro renamed v
    obtain ⟨_, _, rfl, rfl, related⟩ := renamed v
    exact related
  · intro related v
    exact ⟨_, _, rfl, rfl, related v⟩

namespace Formula

variable [OfNat κ 0] [OfNat κ 1]

/-- Renaming the variables commutes with differentiation. At the point with the renamed coordinates
the renamed formula has the same value, and the same gradient and Hessian with renamed entries,
whatever the operators compute. -/
theorem values_rename (s : Equiv.Perm Variable) (t : Expr κ) (source source' : String)
    (form form' : Notation) :
    (∀ v, (t.rename s).derivative (s v) = (t.derivative v).rename s) ∧
      ∀ {α : Type} (I : Interpretation κ α) (p q : Triple α), p.Renamed s (· = ·) q →
        (ofExpr source' form' (t.rename s)).eval I q = (ofExpr source form t).eval I p ∧
        ((ofExpr source form t).gradient I p).Renamed s (· = ·)
          ((ofExpr source' form' (t.rename s)).gradient I q) ∧
        ((ofExpr source form t).hessian I p).Renamed s (Triple.Renamed s (· = ·))
          ((ofExpr source' form' (t.rename s)).hessian I q) := by
  refine ⟨Expr.derivative_rename s.injective t, fun I p q renamed => ?_⟩
  simp only [Triple.renamed_iff] at renamed ⊢
  have moved : ∀ v, q.get (s v) = p.get v := fun v => (renamed v).symm
  have slopes : ∀ vs, (t.deriveAll vs).eval I p = ((t.rename s).deriveAll (vs.map s)).eval I q := by
    intro vs
    rw [Expr.deriveAll_rename s.injective, Expr.eval_rename I moved]
  refine ⟨Expr.eval_rename I moved t, fun v => ?_, fun v w => ?_⟩
  · simp only [gradient_ofExpr_get]
    exact slopes [v]
  · simp only [hessian_ofExpr_get]
    exact slopes [v, w]

def cycle : Equiv.Perm Variable :=
  Equiv.swap .x .y * Equiv.swap .y .z

theorem cycle_values_rename :
    (Triple.mk (1 : Float) 2 3).Renamed cycle (· = ·) ⟨3, 1, 2⟩ ∧
      (.var .x / .var .z : Expr Float).rename cycle = .var .y / .var .x ∧
      ((ofExpr "x z /" .reversePolish (.var .x / .var .z : Expr Float)).hessian doubles
          ⟨1, 2, 3⟩).Renamed cycle (Triple.Renamed cycle (· = ·))
        ((ofExpr "(/ y x)" .polish (.var .y / .var .x : Expr Float)).hessian doubles
          ⟨3, 1, 2⟩) := by
  have x_to_y : cycle .x = .y := by decide
  have y_to_z : cycle .y = .z := by decide
  have z_to_x : cycle .z = .x := by decide
  have renamed : (Triple.mk (1 : Float) 2 3).Renamed cycle (· = ·) ⟨3, 1, 2⟩ := by
    apply Triple.renamed_iff.mpr
    intro v
    cases v with
    | x => simp only [x_to_y, Triple.get]
    | y => simp only [y_to_z, Triple.get]
    | z => simp only [z_to_x, Triple.get]
  have tree : (.var .x / .var .z : Expr Float).rename cycle = .var .y / .var .x := by
    simp only [Expr.div_def, Expr.rename, x_to_y, z_to_x]
  have all := (values_rename cycle (.var .x / .var .z : Expr Float) "x z /" "(/ y x)"
    .reversePolish .polish).2 doubles ⟨1, 2, 3⟩ ⟨3, 1, 2⟩ renamed
  rw [tree] at all
  exact ⟨renamed, tree, all.2.2⟩

end Formula

end Trivariate
