import Trivariate.Operator
import Trivariate.Variable

/-! Expression trees in three variables, their measures, their equality and their two printed forms.
The type of the constants is a parameter: formulas are read over doubles, and the rules that
transform trees never look into a constant. -/
namespace Trivariate

inductive Expr (κ : Type) where
  | const (value : κ)
  | var (v : Variable)
  | unary (op : UnaryOp) (arg : Expr κ)
  | binary (op : BinaryOp) (left right : Expr κ)
deriving DecidableEq, Repr

namespace Expr

variable {κ : Type}

instance : Neg (Expr κ) := ⟨.unary .negate⟩
instance : Add (Expr κ) := ⟨.binary .add⟩
instance : Sub (Expr κ) := ⟨.binary .sub⟩
instance : Mul (Expr κ) := ⟨.binary .mul⟩
instance : Div (Expr κ) := ⟨.binary .div⟩

theorem neg_def (a : Expr κ) : -a = .unary .negate a := rfl

theorem add_def (a b : Expr κ) : a + b = .binary .add a b := rfl

theorem sub_def (a b : Expr κ) : a - b = .binary .sub a b := rfl

theorem mul_def (a b : Expr κ) : a * b = .binary .mul a b := rfl

theorem div_def (a b : Expr κ) : a / b = .binary .div a b := rfl

def nodes : Expr κ → Nat
  | .const _ => 1
  | .var _ => 1
  | .unary _ a => 1 + a.nodes
  | .binary _ l r => 1 + l.nodes + r.nodes

def depth : Expr κ → Nat
  | .const _ => 1
  | .var _ => 1
  | .unary _ a => 1 + a.depth
  | .binary _ l r => 1 + max l.depth r.depth

def mentions (v : Variable) : Expr κ → Bool
  | .const _ => false
  | .var w => w = v
  | .unary _ a => a.mentions v
  | .binary _ l r => l.mentions v || r.mentions v

def collect : Expr κ → List Variable → List Variable
  | .const _, found => found
  | .var v, found => v.insert found
  | .unary _ a, found => a.collect found
  | .binary _ l r, found => r.collect (l.collect found)

theorem mem_collect {e : Expr κ} {found : List Variable} {v : Variable} :
    v ∈ e.collect found ↔ e.mentions v = true ∨ v ∈ found := by
  induction e generalizing found with
  | const k => simp [collect, mentions]
  | var w => simp [collect, mentions, Variable.mem_insert, eq_comm]
  | unary op a ih => exact ih
  | binary op l r ihl ihr =>
    rw [collect, ihr, ihl, mentions, Bool.or_eq_true, or_left_comm, or_assoc]

theorem collect_ordered (e : Expr κ) {found : List Variable}
    (ordered : found.Pairwise fun v w => v.index < w.index) :
    (e.collect found).Pairwise fun v w => v.index < w.index := by
  induction e generalizing found with
  | const k => exact ordered
  | var v => exact v.insert_ordered ordered
  | unary op a ih => exact ih ordered
  | binary op l r ihl ihr => exact ihr (ihl ordered)

def vars (e : Expr κ) : List Variable :=
  e.collect []

theorem mem_vars {e : Expr κ} {v : Variable} : v ∈ e.vars ↔ e.mentions v = true := by
  simp [vars, mem_collect]

theorem vars_ordered (e : Expr κ) : e.vars.Pairwise fun v w => v.index < w.index :=
  e.collect_ordered .nil

/-- Two trees are the same if they have the same shape and `==` holds of their constants. -/
def same [BEq κ] : Expr κ → Expr κ → Bool
  | .const a, .const b => a == b
  | .var v, .var w => v = w
  | .unary o a, .unary p b => o = p && a.same b
  | .binary o l r, .binary p l' r' => o = p && l.same l' && r.same r'
  | _, _ => false

instance [BEq κ] : BEq (Expr κ) := ⟨same⟩

/-- Operator first, every application in parentheses: `(+ x (negate 1))`. -/
def polish (numeral : κ → String) : Expr κ → String
  | .const k => numeral k
  | .var v => v.name
  | .unary op a => "(" ++ op.symbol ++ " " ++ a.polish numeral ++ ")"
  | .binary op l r =>
    "(" ++ op.symbol ++ " " ++ l.polish numeral ++ " " ++ r.polish numeral ++ ")"

/-- Operator last, no parentheses: `x 1 negate +`. -/
def reversePolish (numeral : κ → String) : Expr κ → String
  | .const k => numeral k
  | .var v => v.name
  | .unary op a => a.reversePolish numeral ++ " " ++ op.symbol
  | .binary op l r =>
    l.reversePolish numeral ++ " " ++ r.reversePolish numeral ++ " " ++ op.symbol

end Expr

end Trivariate
