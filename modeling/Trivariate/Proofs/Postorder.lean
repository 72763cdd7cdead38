import Trivariate.Proofs.Preorder

namespace Trivariate

variable {κ : Type}

namespace Expr

def postorder : Expr κ → List (Token κ)
  | .const k => [.number k]
  | .var v => [.var v]
  | .unary op a => a.postorder ++ [.unary op]
  | .binary op l r => l.postorder ++ (r.postorder ++ [.binary op])

theorem mem_postorder_iff {e : Expr κ} {t : Token κ} : t ∈ e.postorder ↔ t ∈ e.preorder := by
  induction e with
  | const k => exact Iff.rfl
  | var v => exact Iff.rfl
  | unary op a ih => simp [postorder, preorder, ih, or_comm]
  | binary op l r ihl ihr =>
    simp only [postorder, preorder, List.mem_append, List.mem_cons, List.not_mem_nil, or_false,
      ihl, ihr]
    rw [← or_assoc, or_comm]

theorem not_isParen_of_mem_postorder {e : Expr κ} {t : Token κ} (member : t ∈ e.postorder) :
    t.isParen = false :=
  not_isParen_of_mem_preorder (mem_postorder_iff.mp member)

theorem postorder_ne_nil (e : Expr κ) : e.postorder ≠ [] := by
  cases e <;> simp [postorder]

theorem append_postorder_inj {a b : Expr κ} {ts us : List (Token κ)}
    (same : ts ++ a.postorder = us ++ b.postorder) : a = b ∧ ts = us := by
  induction a generalizing b ts us with
  | const k => cases b <;> simp_all [postorder, ← List.append_assoc]
  | var v => cases b <;> simp_all [postorder, ← List.append_assoc]
  | unary op a ih =>
    cases b with
    | unary op' b =>
      simp only [postorder, ← List.append_assoc] at same
      obtain ⟨operand, operator⟩ := List.append_inj' same rfl
      obtain ⟨rfl, rest⟩ := ih operand
      cases operator
      exact ⟨rfl, rest⟩
    | _ => simp [postorder, ← List.append_assoc] at same
  | binary op l r ihl ihr =>
    cases b with
    | binary op' l' r' =>
      simp only [postorder, ← List.append_assoc] at same
      obtain ⟨operands, operator⟩ := List.append_inj' same rfl
      obtain ⟨rfl, left⟩ := ihr operands
      obtain ⟨rfl, rest⟩ := ihl left
      cases operator
      exact ⟨rfl, rest⟩
    | _ => simp [postorder, ← List.append_assoc] at same

end Expr

end Trivariate
