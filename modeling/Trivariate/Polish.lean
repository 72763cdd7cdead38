import Trivariate.Expr
import Trivariate.Scan

/-! Reading operator-first text. Operators wait on a stack and every finished operand completes
the applications that were waiting for it. Parentheses are counted but shape nothing: the shape
follows from the arity of the operators. -/
namespace Trivariate.Polish

variable {κ : Type}

/-- What waits on the stack: an operator, or the first operand of the binary operator under
it. At the bottom an operand is a finished expression. -/
inductive Entry (κ : Type) where
  | operand (e : Expr κ)
  | unary (op : UnaryOp)
  | binary (op : BinaryOp)
deriving DecidableEq, Repr

inductive Obstacle where
  | operatorOnTop
  | bottom
  | unaryBelow
  | operandBelow
deriving DecidableEq, Repr

inductive Pass (κ : Type) where
  | done
  | folded (stack : List (Entry κ))
  | refused (obstacle : Obstacle)
deriving DecidableEq, Repr

/-- One pass over the top of a stack. What lies under the top decides, and nothing is left to do
where it is a binary operator, which lacks its second operand. -/
def pass : List (Entry κ) → Pass κ
  | [] | [_] | _ :: .binary _ :: _ => .done
  | .operand e :: .unary op :: below => .folded (.operand (.unary op e) :: below)
  | .operand right :: .operand left :: rest =>
    match rest with
    | .binary op :: below => .folded (.operand (.binary op left right) :: below)
    | [] => .refused .bottom
    | .unary _ :: _ => .refused .unaryBelow
    | .operand _ :: _ => .refused .operandBelow
  | _ :: .unary _ :: _ | _ :: .operand _ :: _ => .refused .operatorOnTop

theorem length_lt_of_pass {stack next : List (Entry κ)} (folded : pass stack = .folded next) :
    next.length < stack.length := by
  revert folded
  fun_cases pass stack
  all_goals
    rintro ⟨⟩
  all_goals simp

/-- Passes follow each other up to the one that finds nothing to do or meets an obstacle. -/
inductive Reduces : List (Entry κ) → Except Obstacle (List (Entry κ)) → Prop where
  | done {stack : List (Entry κ)} : pass stack = .done → Reduces stack (.ok stack)
  | folded {stack next : List (Entry κ)} {r : Except Obstacle (List (Entry κ))} :
      pass stack = .folded next → Reduces next r → Reduces stack r
  | refused {stack : List (Entry κ)} {o : Obstacle} :
      pass stack = .refused o → Reduces stack (.error o)

def reduce (stack : List (Entry κ)) : Except Obstacle (List (Entry κ)) :=
  match _passed : pass stack with
  | .done => .ok stack
  | .folded next => reduce next
  | .refused o => .error o
termination_by stack.length
decreasing_by exact length_lt_of_pass _passed

theorem reduce_eq (stack : List (Entry κ)) :
    reduce stack =
      match pass stack with
      | .done => .ok stack
      | .folded next => reduce next
      | .refused o => .error o := by
  rw [reduce]
  split
  all_goals
    rename_i passed
    rw [passed]

theorem reduces_reduce (stack : List (Entry κ)) : Reduces stack (reduce stack) := by
  fun_induction reduce stack with
  | case1 stack passed => exact .done passed
  | case2 stack next passed ih => exact .folded passed ih
  | case3 stack o passed => exact .refused passed

structure State (κ : Type) where
  stack : List (Entry κ)
  opened : Nat
  parenthesized : Bool
deriving DecidableEq, Repr

def State.start : State κ := ⟨[], 0, false⟩

def State.operand (s : State κ) (position : Nat) (e : Expr κ) : Except ParseError (State κ) :=
  match reduce (.operand e :: s.stack) with
  | .ok stack => .ok { s with stack }
  | .error _ => .error (.illegalExpression position)

def step (s : State κ) (l : Lexeme κ) : Except ParseError (State κ) :=
  match l.token with
  | .var v => s.operand l.position (.var v)
  | .number k => s.operand l.position (.const k)
  | .unary op => .ok { s with stack := .unary op :: s.stack }
  | .binary op => .ok { s with stack := .binary op :: s.stack }
  | .opening => .ok { s with opened := s.opened + 1, parenthesized := true }
  | .closing =>
    if s.opened = 0 then .error (.unmatchedClosing l.position)
    else .ok { s with opened := s.opened - 1, parenthesized := true }

def finish (s : State κ) : Except ParseError (Expr κ) :=
  if 0 < s.opened then .error (.missingClosing s.opened)
  else
    match s.stack with
    | [] => .error (.degenerate .nothing)
    | [.binary op] => .error (.degenerate (.bareBinary op))
    | [.unary op] => .error (.degenerate (.bareUnary op))
    | [.operand (.var .x)] =>
      if s.parenthesized then .error (.degenerate .parenthesizedVariable) else .ok (.var .x)
    | [.operand e] => .ok e
    | stack => .error (.unreduced stack.length)

def parse (text : String) : Except ParseError (Expr Float) :=
  if text = "" then .error .empty
  else if text = "(x)" ∨ text = "(0)" then .error (.degenerate (.refused text))
  else (Scan.ofText text).run step .start >>= finish

end Trivariate.Polish
