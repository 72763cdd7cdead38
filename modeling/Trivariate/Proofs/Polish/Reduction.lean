import Trivariate.Proofs.Polish.Verdict

/-! How the operator-first reader completes the applications on top of its stack, pass after pass.
Main statement: between two tokens every operand above the bottom lies on a binary operator. From
there the passes over a new operand come to an end, at a stack of the same kind and of the same
symbols, or where two operands are all that the stack holds. No other obstacle is ever met. -/
namespace Trivariate.Polish

open Token

variable {κ : Type}

/-- Every operand above the bottom lies on a binary operator. -/
def Grounded (stack : List (Entry κ)) : Prop :=
  stack.IsChain fun upper lower => ∀ e, upper = .operand e → ∃ op, lower = .binary op

theorem Waiting.grounded {stack : List (Entry κ)} (waiting : Waiting stack) : Grounded stack := by
  induction waiting with
  | empty => exact .nil
  | finished e => exact .singleton _
  | unary op _ ih => exact List.isChain_cons.mpr ⟨fun _ _ _ => nofun, ih⟩
  | binary op _ ih => exact List.isChain_cons.mpr ⟨fun _ _ _ => nofun, ih⟩
  | held op e _ ih =>
    have operator : Grounded (.binary op :: _) := List.isChain_cons.mpr ⟨fun _ _ _ => nofun, ih⟩
    exact .cons_cons (fun _ _ => ⟨op, rfl⟩) operator

theorem Grounded.waiting : {stack : List (Entry κ)} → Grounded stack → Waiting stack
  | [], _ => .empty
  | [.operand e], _ => .finished e
  | .unary op :: _, grounded => .unary op (Grounded.waiting grounded.tail)
  | .binary op :: _, grounded => .binary op (Grounded.waiting grounded.tail)
  | .operand e :: .binary op :: _, grounded => .held op e (Grounded.waiting grounded.tail.tail)
  | .operand e :: .unary _ :: _, grounded => by
    obtain ⟨_, other⟩ := (List.isChain_cons_cons.mp grounded).1 e rfl
    cases other
  | .operand e :: .operand _ :: _, grounded => by
    obtain ⟨_, other⟩ := (List.isChain_cons_cons.mp grounded).1 e rfl
    cases other

theorem Reduces.reduce_eq {stack : List (Entry κ)} {r : Except Obstacle (List (Entry κ))}
    (reduces : Reduces stack r) : reduce stack = r := by
  induction reduces with
  | done passed => rw [Polish.reduce_eq, passed]
  | folded passed _ ih =>
    rw [Polish.reduce_eq, passed]
    exact ih
  | refused passed => rw [Polish.reduce_eq, passed]

theorem reduces_iff_reduce_eq (stack : List (Entry κ)) (r : Except Obstacle (List (Entry κ))) :
    Reduces stack r ↔ reduce stack = r :=
  ⟨Reduces.reduce_eq, fun same => same ▸ reduces_reduce stack⟩

theorem Reading.foldlM {ts : List (Token κ)} {s s' : State κ} (reading : Reading ts s)
    {ls : List (Lexeme κ)} (run : ls.foldlM step s = .ok s') :
    Reading (ts ++ ls.map Lexeme.token) s' := by
  induction ls generalizing ts s with
  | nil =>
    cases run
    simpa using reading
  | cons l ls ih =>
    have spec := reading.step_spec l
    rw [List.foldlM_cons] at run
    cases stepped : step s l with
    | error e => rw [stepped] at run; cases run
    | ok next =>
      rw [stepped] at spec run
      simpa using ih spec.1 run

/-- What becomes of an operand on top of a stack, and what the reader makes of it. -/
structure Settles (s : State κ) (position : Nat) (e : Expr κ) : Prop where
  ends : ∃! r, Reduces (.operand e :: s.stack) r
  taken : ∀ above, Reduces (.operand e :: s.stack) (.ok above) →
    Grounded above ∧ spelled above = spelled (.operand e :: s.stack) ∧
      s.operand position e = .ok { s with stack := above }
  refused : ∀ o, Reduces (.operand e :: s.stack) (.error o) →
    o = .bottom ∧ s.operand position e = .error (.illegalExpression position)
  refused_iff : (∃ o, Reduces (.operand e :: s.stack) (.error o)) ↔
    ∃ a b : Expr κ, spelled (.operand e :: s.stack) = a.preorder ++ b.preorder

theorem Waiting.settles {s : State κ} (waiting : Waiting s.stack) (position : Nat) (e : Expr κ) :
    Settles s position e := by
  have loaded : Loaded (.operand e :: s.stack) := .operand e waiting
  have spec := loaded.reduce_spec
  constructor
  · exact ⟨_, reduces_reduce _, fun _ other => other.reduce_eq.symm⟩
  · intro above reduces
    have reduced := reduces.reduce_eq
    rw [reduced] at spec
    exact ⟨spec.1.grounded, spec.2, by rw [State.operand, reduced]⟩
  · intro o reduces
    have reduced := reduces.reduce_eq
    rw [reduced] at spec
    exact ⟨spec.1, by rw [State.operand, reduced]⟩
  · simp only [reduces_iff_reduce_eq]
    exact loaded.reduce_eq_error_iff

/-- After every token that the reader takes up, no operand lies on another operand or on a unary
operator, and the stack spells the symbols read so far. On such a stack a new operand settles. -/
theorem grounded_and_settles :
    (∀ (text : String) (read : List (Lexeme Float)) (s : State Float),
      read <+: (Scan.ofText text).lexemes → read.foldlM step .start = .ok s →
        Grounded s.stack ∧ spelled s.stack = symbols (read.map Lexeme.token)) ∧
    ∀ (s : State Float) (position : Nat) (e : Expr Float),
      Grounded s.stack → Settles s position e := by
  constructor
  · intro text read s _ run
    have reading := Reading.start.foldlM run
    exact ⟨reading.waiting.grounded, reading.spells⟩
  · intro s position e grounded
    exact grounded.waiting.settles position e

theorem sum_grounded_and_settles :
    (Scan.ofText "+ x negate").lexemes.foldlM step .start =
        .ok ⟨[.unary .negate, .operand (.var .x), .binary .add], 0, false⟩ ∧
      Settles (⟨[.unary .negate, .operand (.var .x), .binary .add], 0, false⟩ : State Float) 11
        (.var .y) := by
  have run : (Scan.ofText "+ x negate").lexemes.foldlM step .start =
      .ok ⟨[.unary .negate, .operand (.var .x), .binary .add], 0, false⟩ := by decide +kernel
  have stack := grounded_and_settles.1 "+ x negate" _ _ List.prefix_rfl run
  exact ⟨run, grounded_and_settles.2 _ 11 (.var .y) stack.1⟩

end Trivariate.Polish
