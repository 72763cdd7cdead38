import Trivariate.Polish
import Trivariate.Proofs.Preorder

/-! The stack of the operator-first reader. Written out from the bottom it spells the symbols that
were read, and the passes over an operand keep that. Main statement: they meet an obstacle just when
the symbols up to the operand spell two trees. -/
namespace Trivariate.Polish

open Token

variable {κ : Type}

def Entry.tokens : Entry κ → List (Token κ)
  | .operand e => e.preorder
  | .unary op => [.unary op]
  | .binary op => [.binary op]

def spelled : List (Entry κ) → List (Token κ)
  | [] => []
  | entry :: below => spelled below ++ entry.tokens

/-- The stacks between two tokens. An operand lies at the bottom or on a binary operator. -/
inductive Waiting : List (Entry κ) → Prop where
  | empty : Waiting []
  | finished (e : Expr κ) : Waiting [.operand e]
  | unary (op : UnaryOp) {below : List (Entry κ)} : Waiting below → Waiting (.unary op :: below)
  | binary (op : BinaryOp) {below : List (Entry κ)} : Waiting below → Waiting (.binary op :: below)
  | held (op : BinaryOp) (e : Expr κ) {below : List (Entry κ)} :
      Waiting below → Waiting (.operand e :: .binary op :: below)

theorem Waiting.length_eq {stack : List (Entry κ)} (waiting : Waiting stack) :
    stack.length = entries (spelled stack) := by
  induction waiting with
  | empty => simp [spelled, entries, lacking, holding]
  | finished e => simp [spelled, Entry.tokens, entries_preorder]
  | unary op _ ih =>
    have pending : Pending [(.unary op : Token κ)] := pending_unary op
    rw [spelled, Entry.tokens, pending.entries_append, List.length_cons, ih]
    simp [lacking, holding, arity]
  | binary op _ ih =>
    have pending : Pending [(.binary op : Token κ)] := pending_binary op
    rw [spelled, Entry.tokens, pending.entries_append, List.length_cons, ih]
    simp [lacking, holding, arity]
  | held op e _ ih =>
    rw [spelled, spelled, Entry.tokens, Entry.tokens, List.append_assoc, List.singleton_append,
      (pending_held op e).entries_append, List.length_cons, List.length_cons, ih]
    simp [lacking, holding, arity, begins_preorder_iff]

theorem Waiting.not_begins_two {stack : List (Entry κ)} (waiting : Waiting stack) :
    ¬ Begins 2 (spelled stack) := by
  induction waiting with
  | empty => simp [spelled]
  | finished e => simp [spelled, Entry.tokens, begins_preorder_iff]
  | unary op _ ih =>
    have pending : Pending [(.unary op : Token κ)] := pending_unary op
    rw [spelled, Entry.tokens, pending.begins_append_iff]
    exact ih
  | binary op _ ih =>
    have pending : Pending [(.binary op : Token κ)] := pending_binary op
    rw [spelled, Entry.tokens, pending.begins_append_iff]
    exact ih
  | held op e _ ih =>
    rw [spelled, spelled, Entry.tokens, Entry.tokens, List.append_assoc, List.singleton_append,
      (pending_held op e).begins_append_iff]
    exact ih

/-- The stacks between two passes, on which the top need not lie on a binary operator. -/
inductive Loaded : List (Entry κ) → Prop where
  | operand (e : Expr κ) {below : List (Entry κ)} : Waiting below → Loaded (.operand e :: below)

/-- One pass. Two operands can only meet where the stack ends, since an operand further up lies on
a binary operator. -/
theorem Loaded.pass_spec {stack : List (Entry κ)} (loaded : Loaded stack) :
    match pass stack with
    | .done => Waiting stack
    | .folded next => Loaded next ∧ spelled next = spelled stack
    | .refused o => o = .bottom ∧ ∃ a b : Expr κ, spelled stack = a.preorder ++ b.preorder := by
  obtain ⟨e, waiting⟩ := loaded
  cases waiting with
  | empty => exact .finished e
  | finished a => exact ⟨rfl, a, e, rfl⟩
  | unary op waiting =>
    exact ⟨.operand _ waiting, by simp [spelled, Entry.tokens, Expr.preorder]⟩
  | binary op waiting => exact .held op e waiting
  | held op left waiting =>
    exact ⟨.operand _ waiting, by simp [spelled, Entry.tokens, Expr.preorder]⟩

theorem Loaded.reduce_spec {stack : List (Entry κ)} (loaded : Loaded stack) :
    match reduce stack with
    | .ok above => Waiting above ∧ spelled above = spelled stack
    | .error o => o = .bottom ∧ ∃ a b : Expr κ, spelled stack = a.preorder ++ b.preorder := by
  fun_induction reduce stack with
  | case1 stack passed =>
    have spec := loaded.pass_spec
    rw [passed] at spec
    exact ⟨spec, rfl⟩
  | case2 stack next passed ih =>
    have spec := loaded.pass_spec
    rw [passed] at spec
    rw [← spec.2]
    exact ih spec.1
  | case3 stack o passed =>
    have spec := loaded.pass_spec
    rw [passed] at spec
    exact spec

theorem Loaded.reduce_eq_error_iff {stack : List (Entry κ)} (loaded : Loaded stack) :
    (∃ o, reduce stack = .error o) ↔
      ∃ a b : Expr κ, spelled stack = a.preorder ++ b.preorder := by
  have spec := loaded.reduce_spec
  cases reduced : reduce stack with
  | error o =>
    rw [reduced] at spec
    exact ⟨fun _ => spec.2, fun _ => ⟨o, rfl⟩⟩
  | ok above =>
    rw [reduced] at spec
    constructor
    · rintro ⟨o, ⟨⟩⟩
    · rintro ⟨a, b, two⟩
      have single := spec.1.not_begins_two
      rw [spec.2, two, begins_preorder_append, begins_preorder_iff] at single
      exact absurd (Nat.le_refl 1) single

theorem Entry.tokens_injective {a b : Entry κ} (same : a.tokens = b.tokens) : a = b := by
  cases a with
  | operand e =>
    cases b with
    | operand e' => rw [Expr.preorder_injective same]
    | unary op => cases e <;> simp_all [tokens, Expr.preorder, Expr.preorder_ne_nil]
    | binary op => cases e <;> simp_all [tokens, Expr.preorder, Expr.preorder_ne_nil]
  | unary op =>
    cases b with
    | operand e => cases e <;> simp_all [tokens, Expr.preorder, Expr.preorder_ne_nil]
    | unary op' => simpa [tokens] using same
    | binary op' => simp [tokens] at same
  | binary op =>
    cases b with
    | operand e => cases e <;> simp_all [tokens, Expr.preorder, Expr.preorder_ne_nil]
    | unary op' => simp [tokens] at same
    | binary op' => simpa [tokens] using same

theorem Entry.entries_tokens (entry : Entry κ) : entries entry.tokens = 1 := by
  cases entry with
  | operand e => exact entries_preorder e
  | unary op => simp [tokens, entries, lacking, holding, arity, begins_cons_iff]
  | binary op => simp [tokens, entries, lacking, holding, arity, begins_cons_iff]

theorem Waiting.eq_singleton {stack : List (Entry κ)} (waiting : Waiting stack) {entry : Entry κ}
    (spells : spelled stack = entry.tokens) : stack = [entry] := by
  have single := waiting.length_eq
  rw [spells, entry.entries_tokens] at single
  obtain ⟨other, rfl⟩ := List.length_eq_one_iff.mp single
  rw [Entry.tokens_injective spells]

end Trivariate.Polish
