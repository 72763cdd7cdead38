namespace Trivariate

inductive UnaryOp where
  | negate
  | sinh
  | cosh
  | atan
deriving DecidableEq, Repr

inductive BinaryOp where
  | add
  | sub
  | mul
  | div
  | atan2
deriving DecidableEq, Repr

inductive Operator where
  | unary (op : UnaryOp)
  | binary (op : BinaryOp)
deriving DecidableEq, Repr

namespace UnaryOp

def symbol : UnaryOp → String
  | .negate => "negate"
  | .sinh => "sinh"
  | .cosh => "cosh"
  | .atan => "atan"

def ofKeyword? : String → Option UnaryOp
  | "negate" => some .negate
  | "sinh" => some .sinh
  | "cosh" => some .cosh
  | "atan" => some .atan
  | _ => none

theorem ofKeyword?_eq_some_iff {word : String} {op : UnaryOp} :
    ofKeyword? word = some op ↔ op.symbol = word := by
  constructor
  · intro found
    unfold ofKeyword? at found
    split at found <;> cases found <;> rfl
  · rintro rfl
    cases op <;> rfl

end UnaryOp

namespace BinaryOp

def symbol : BinaryOp → String
  | .add => "+"
  | .sub => "-"
  | .mul => "*"
  | .div => "/"
  | .atan2 => "atan2"

def ofChar? : Char → Option BinaryOp
  | '+' => some .add
  | '-' => some .sub
  | '*' => some .mul
  | '/' => some .div
  | _ => none

theorem ofChar?_eq_some_iff {c : Char} {op : BinaryOp} :
    ofChar? c = some op ↔ op.symbol.toList = [c] := by
  constructor
  · intro found
    unfold ofChar? at found
    split at found <;> cases found <;> rfl
  · intro single
    cases op <;> cases single <;> rfl

def ofKeyword? : String → Option BinaryOp
  | "atan2" => some .atan2
  | _ => none

theorem ofKeyword?_eq_some_iff {word : String} {op : BinaryOp} :
    ofKeyword? word = some op ↔ op = .atan2 ∧ op.symbol = word := by
  constructor
  · intro found
    unfold ofKeyword? at found
    split at found <;> cases found
    exact ⟨rfl, rfl⟩
  · rintro ⟨rfl, rfl⟩
    rfl

end BinaryOp

namespace Operator

def symbol : Operator → String
  | .unary op => op.symbol
  | .binary op => op.symbol

end Operator

end Trivariate
