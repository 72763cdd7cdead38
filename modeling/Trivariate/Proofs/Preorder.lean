import Trivariate.Expr
import Trivariate.Token

/-! Trees as lists of tokens, operator first. A list of tokens begins with at most one tree, and
counting operands decides with how many trees in a row it begins. This also tells which operators
of an unfinished list wait for an operand. -/
namespace Trivariate

variable {κ : Type}

namespace Token

def isParen : Token κ → Bool
  | .opening | .closing => true
  | _ => false

def isOperand : Token κ → Bool
  | .var _ | .number _ => true
  | _ => false

def arity : Token κ → Nat
  | .unary _ => 1
  | .binary _ => 2
  | _ => 0

def symbols (ts : List (Token κ)) : List (Token κ) :=
  ts.filter fun t => !t.isParen

@[simp] theorem symbols_nil : symbols ([] : List (Token κ)) = [] :=
  rfl

theorem symbols_cons (t : Token κ) (ts : List (Token κ)) :
    symbols (t :: ts) = if t.isParen then symbols ts else t :: symbols ts := by
  cases t <;> rfl

theorem symbols_append (ts us : List (Token κ)) : symbols (ts ++ us) = symbols ts ++ symbols us :=
  List.filter_append ..

end Token

namespace Expr

def preorder : Expr κ → List (Token κ)
  | .const k => [.number k]
  | .var v => [.var v]
  | .unary op a => .unary op :: a.preorder
  | .binary op l r => .binary op :: (l.preorder ++ r.preorder)

def constants : Expr κ → List κ
  | .const k => [k]
  | .var _ => []
  | .unary _ a => a.constants
  | .binary _ l r => l.constants ++ r.constants

theorem mem_constants_iff {e : Expr κ} {k : κ} : k ∈ e.constants ↔ .number k ∈ e.preorder := by
  induction e with
  | const k' => simp [constants, preorder]
  | var v => simp [constants, preorder]
  | unary op a ih => simp [constants, preorder, ih]
  | binary op l r ihl ihr => simp [constants, preorder, ihl, ihr]

theorem preorder_ne_nil (e : Expr κ) : e.preorder ≠ [] := by
  cases e <;> simp [preorder]

theorem not_isParen_of_mem_preorder {e : Expr κ} {t : Token κ} (member : t ∈ e.preorder) :
    t.isParen = false := by
  induction e with
  | const k => simp only [preorder, List.mem_singleton] at member; subst t; rfl
  | var v => simp only [preorder, List.mem_singleton] at member; subst t; rfl
  | unary op a ih =>
    rcases List.mem_cons.mp member with rfl | later
    · rfl
    · exact ih later
  | binary op l r ihl ihr =>
    rcases List.mem_cons.mp member with rfl | later
    · rfl
    · rcases List.mem_append.mp later with left | right
      · exact ihl left
      · exact ihr right

@[simp] theorem symbols_preorder (e : Expr κ) : Token.symbols e.preorder = e.preorder :=
  List.filter_eq_self.mpr fun t member => by simp [not_isParen_of_mem_preorder member]

theorem preorder_append_inj {a b : Expr κ} {ts us : List (Token κ)}
    (same : a.preorder ++ ts = b.preorder ++ us) : a = b ∧ ts = us := by
  induction a generalizing b ts us with
  | const k => cases b <;> simp_all [preorder]
  | var v => cases b <;> simp_all [preorder]
  | unary op a ih =>
    cases b with
    | unary op' b =>
      simp only [preorder, List.cons_append, List.cons.injEq, Token.unary.injEq] at same
      obtain ⟨rfl, rest⟩ := ih same.2
      exact ⟨by rw [same.1], rest⟩
    | _ => simp [preorder] at same
  | binary op l r ihl ihr =>
    cases b with
    | binary op' l' r' =>
      simp only [preorder, List.cons_append, List.append_assoc, List.cons.injEq,
        Token.binary.injEq] at same
      obtain ⟨rfl, right⟩ := ihl same.2
      obtain ⟨rfl, rest⟩ := ihr right
      exact ⟨by rw [same.1], rest⟩
    | _ => simp [preorder] at same

theorem preorder_injective {a b : Expr κ} (same : a.preorder = b.preorder) : a = b :=
  (preorder_append_inj (congrArg (· ++ []) same)).1

end Expr

namespace Token

/-- The list begins with `n` trees in a row. -/
def Begins (n : Nat) (ts : List (Token κ)) : Prop :=
  ∃ (es : List (Expr κ)) (rest : List (Token κ)),
    es.length = n ∧ ts = es.flatMap Expr.preorder ++ rest

@[simp] theorem begins_zero (ts : List (Token κ)) : Begins 0 ts :=
  ⟨[], ts, rfl, rfl⟩

@[simp] theorem not_begins_nil (n : Nat) : ¬ Begins (n + 1) ([] : List (Token κ)) := by
  rintro ⟨es, rest, length, spells⟩
  cases es with
  | nil => cases length
  | cons e es => simp [Expr.preorder_ne_nil] at spells

/-- A token stands for one of the trees and asks for its operands instead. -/
theorem begins_cons_iff (n : Nat) (t : Token κ) (ts : List (Token κ)) :
    Begins (n + 1) (t :: ts) ↔ t.isParen = false ∧ Begins (n + t.arity) ts := by
  constructor
  · rintro ⟨es, rest, length, spells⟩
    cases es with
    | nil => cases length
    | cons e es =>
      have others : es.length = n := by simpa using length
      cases e with
      | const k =>
        obtain ⟨rfl, rfl⟩ : t = .number k ∧ ts = _ := by simpa [Expr.preorder] using spells
        exact ⟨rfl, es, rest, others, rfl⟩
      | var v =>
        obtain ⟨rfl, rfl⟩ : t = .var v ∧ ts = _ := by simpa [Expr.preorder] using spells
        exact ⟨rfl, es, rest, others, rfl⟩
      | unary op a =>
        obtain ⟨rfl, rfl⟩ : t = .unary op ∧ ts = _ := by simpa [Expr.preorder] using spells
        exact ⟨rfl, a :: es, rest, by simp [others, arity], by simp⟩
      | binary op l r =>
        obtain ⟨rfl, rfl⟩ : t = .binary op ∧ ts = _ := by simpa [Expr.preorder] using spells
        exact ⟨rfl, l :: r :: es, rest, by simp [others, arity], by simp⟩
  · rintro ⟨plain, es, rest, length, rfl⟩
    cases t with
    | var v => exact ⟨.var v :: es, rest, by simp [length, arity], rfl⟩
    | number k => exact ⟨.const k :: es, rest, by simp [length, arity], rfl⟩
    | unary op =>
      match es, length with
      | a :: es, length => exact ⟨.unary op a :: es, rest, by simpa [arity] using length, rfl⟩
    | binary op =>
      match es, length with
      | l :: r :: es, length =>
        exact ⟨.binary op l r :: es, rest, by simpa [arity] using length, by simp [Expr.preorder]⟩
    | opening => cases plain
    | closing => cases plain

theorem begins_preorder_append (n : Nat) (e : Expr κ) (ts : List (Token κ)) :
    Begins (n + 1) (e.preorder ++ ts) ↔ Begins n ts := by
  constructor
  · rintro ⟨es, rest, length, spells⟩
    cases es with
    | nil => cases length
    | cons a es =>
      rw [List.flatMap_cons, List.append_assoc] at spells
      exact ⟨es, rest, by simpa using length, (Expr.preorder_append_inj spells).2⟩
  · rintro ⟨es, rest, length, rfl⟩
    exact ⟨e :: es, rest, by simp [length], by simp⟩

theorem Begins.append {n : Nat} {ts : List (Token κ)} (begins : Begins n ts)
    (us : List (Token κ)) : Begins n (ts ++ us) := by
  obtain ⟨es, rest, length, rfl⟩ := begins
  exact ⟨es, rest ++ us, length, by rw [List.append_assoc]⟩

/-- At the end of a list an operand completes all that another token does. -/
theorem Begins.of_last {n : Nat} {ts : List (Token κ)} {t : Token κ} (begins : Begins n (ts ++ [t]))
    (k : κ) : Begins n (ts ++ [.number k]) := by
  induction ts generalizing n with
  | nil =>
    cases n with
    | zero => exact begins_zero _
    | succ n =>
      rw [List.nil_append, begins_cons_iff] at begins ⊢
      have none : n + t.arity = 0 := by
        cases count : n + t.arity with
        | zero => rfl
        | succ m => exact absurd (count ▸ begins.2) (not_begins_nil m)
      have zero : n = 0 := by omega
      rw [zero]
      exact ⟨rfl, begins_zero _⟩
  | cons u ts ih =>
    cases n with
    | zero => exact begins_zero _
    | succ n =>
      rw [List.cons_append, begins_cons_iff] at begins ⊢
      exact ⟨begins.1, ih begins.2⟩

theorem begins_two (a b : Expr κ) : Begins 2 (a.preorder ++ b.preorder) :=
  ⟨[a, b], [], rfl, by simp⟩

instance decidableBegins : (n : Nat) → (ts : List (Token κ)) → Decidable (Begins n ts)
  | 0, ts => .isTrue (begins_zero ts)
  | n + 1, [] => .isFalse (not_begins_nil n)
  | n + 1, t :: ts =>
    have := decidableBegins (n + t.arity) ts
    decidable_of_iff _ (begins_cons_iff n t ts).symm

def lacking : List (Token κ) → Nat
  | [] => 0
  | t :: ts => (if Begins t.arity ts then 0 else 1) + lacking ts

def holding : List (Token κ) → Nat
  | [] => 0
  | t :: ts => (if t.arity = 2 ∧ Begins 1 ts ∧ ¬ Begins 2 ts then 1 else 0) + holding ts

/-- What an unfinished list leaves lying about: operators that wait, operands that wait for
another one, and the tree that the list begins with, if it does. -/
def entries (ts : List (Token κ)) : Nat :=
  lacking ts + holding ts + if Begins 1 ts then 1 else 0

theorem lacking_preorder_append (e : Expr κ) (ts : List (Token κ)) :
    lacking (e.preorder ++ ts) = lacking ts := by
  induction e generalizing ts with
  | const k => simp [Expr.preorder, lacking, arity]
  | var v => simp [Expr.preorder, lacking, arity]
  | unary op a ih => simp [Expr.preorder, lacking, arity, begins_preorder_append, ih]
  | binary op l r ihl ihr => simp [Expr.preorder, lacking, arity, begins_preorder_append, ihl, ihr]

theorem holding_preorder_append (e : Expr κ) (ts : List (Token κ)) :
    holding (e.preorder ++ ts) = holding ts := by
  induction e generalizing ts with
  | const k => simp [Expr.preorder, holding, arity]
  | var v => simp [Expr.preorder, holding, arity]
  | unary op a ih => simp [Expr.preorder, holding, arity, ih]
  | binary op l r ihl ihr => simp [Expr.preorder, holding, begins_preorder_append, ihl, ihr]

@[simp] theorem lacking_preorder (e : Expr κ) : lacking e.preorder = 0 := by
  simpa [lacking] using lacking_preorder_append e []

@[simp] theorem holding_preorder (e : Expr κ) : holding e.preorder = 0 := by
  simpa [holding] using holding_preorder_append e []

theorem begins_preorder_iff (n : Nat) (e : Expr κ) : Begins n e.preorder ↔ n ≤ 1 := by
  have cancel := fun n => begins_preorder_append n e []
  rw [List.append_nil] at cancel
  match n with
  | 0 => simp
  | 1 => simp [cancel]
  | n + 2 => simp [cancel]

theorem entries_preorder (e : Expr κ) : entries e.preorder = 1 := by
  simp [entries, begins_preorder_iff]

/-- Tokens that complete nothing before them. -/
def Pending (us : List (Token κ)) : Prop :=
  ∀ n, Begins n us → n = 0

theorem pending_unary (op : UnaryOp) : Pending [(.unary op : Token κ)] := by
  intro n begins
  cases n with
  | zero => rfl
  | succ n => simp [begins_cons_iff, arity] at begins

theorem pending_binary (op : BinaryOp) : Pending [(.binary op : Token κ)] := by
  intro n begins
  cases n with
  | zero => rfl
  | succ n => simp [begins_cons_iff, arity] at begins

theorem pending_held (op : BinaryOp) (e : Expr κ) : Pending (.binary op :: e.preorder) := by
  intro n begins
  cases n with
  | zero => rfl
  | succ n => simp [begins_cons_iff, arity, begins_preorder_iff] at begins

theorem Pending.begins_append_iff {us : List (Token κ)} (pending : Pending us) (n : Nat)
    (ts : List (Token κ)) : Begins n (ts ++ us) ↔ Begins n ts := by
  induction ts generalizing n with
  | nil =>
    cases n with
    | zero => simp
    | succ n =>
      simp only [List.nil_append, not_begins_nil, iff_false]
      intro begins
      cases pending _ begins
  | cons t ts ih =>
    cases n with
    | zero => simp
    | succ n => rw [List.cons_append, begins_cons_iff, begins_cons_iff, ih]

theorem Pending.lacking_append {us : List (Token κ)} (pending : Pending us)
    (ts : List (Token κ)) : lacking (ts ++ us) = lacking ts + lacking us := by
  induction ts with
  | nil => simp [lacking]
  | cons t ts ih =>
    simp only [List.cons_append, lacking, pending.begins_append_iff, ih, Nat.add_assoc]

theorem Pending.holding_append {us : List (Token κ)} (pending : Pending us)
    (ts : List (Token κ)) : holding (ts ++ us) = holding ts + holding us := by
  induction ts with
  | nil => simp [holding]
  | cons t ts ih =>
    simp only [List.cons_append, holding, pending.begins_append_iff, ih, Nat.add_assoc]

theorem Pending.entries_append {us : List (Token κ)} (pending : Pending us)
    (ts : List (Token κ)) : entries (ts ++ us) = entries ts + (lacking us + holding us) := by
  simp only [entries, pending.lacking_append, pending.holding_append, pending.begins_append_iff]
  omega

end Token

end Trivariate
