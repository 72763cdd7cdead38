import Trivariate.Number.Text
import Trivariate.Operator
import Trivariate.Variable

namespace Trivariate

inductive Token (κ : Type) where
  | var (v : Variable)
  | number (value : κ)
  | unary (op : UnaryOp)
  | binary (op : BinaryOp)
  | opening
  | closing
deriving DecidableEq, Repr

namespace Token

def ofOperator {κ : Type} : Operator → Token κ
  | .unary op => .unary op
  | .binary op => .binary op

abbrev Match := List Char × Token Float

def letter? : List Char → Option Match
  | [] => none
  | c :: _ => (Variable.ofChar? c).map fun v => ([c], .var v)

def number? : List Char → Option Match
  | '-' :: cs =>
    match cs.takeWhile Char.isDigit with
    | [] => none
    | digits => some ('-' :: digits, .number (Number.ofDigits true digits))
  | cs =>
    match cs.takeWhile Char.isDigit with
    | [] => none
    | digits => some (digits, .number (Number.ofDigits false digits))

/-- The longer of two words that begin alike comes first, so the first that fits a text is the
longest that does. -/
def keywords : List (String × Operator) :=
  [("negate", .unary .negate), ("atan2", .binary .atan2), ("atan", .unary .atan),
    ("sinh", .unary .sinh), ("cosh", .unary .cosh)]

theorem fst_of_mem_keywords : ∀ word ∈ keywords, word.1 = word.2.symbol := by
  decide

def keyword? (cs : List Char) : Option Match :=
  (keywords.find? fun word => word.1.toList.isPrefixOf cs).map fun word =>
    (word.1.toList, ofOperator word.2)

def sign? : List Char → Option Match
  | [] => none
  | '(' :: _ => some (['('], .opening)
  | ')' :: _ => some ([')'], .closing)
  | c :: _ => (BinaryOp.ofChar? c).map fun op => ([c], .binary op)

def first? (cs : List Char) : Option Match :=
  (letter? cs).or ((number? cs).or ((keyword? cs).or (sign? cs)))

theorem letter?_ne_nil {cs : List Char} {m : Match} (found : letter? cs = some m) :
    m.1 ≠ [] := by
  cases cs with
  | nil => simp [letter?] at found
  | cons c cs =>
    obtain ⟨v, _, rfl⟩ := Option.map_eq_some_iff.mp found
    simp

theorem number?_ne_nil {cs : List Char} {m : Match} (found : number? cs = some m) :
    m.1 ≠ [] := by
  unfold number? at found
  split at found <;> split at found
  · contradiction
  · cases found; simp
  · contradiction
  · rename_i digits nonempty
    cases found; exact nonempty

theorem keyword?_ne_nil {cs : List Char} {m : Match} (found : keyword? cs = some m) :
    m.1 ≠ [] := by
  obtain ⟨word, first, rfl⟩ := Option.map_eq_some_iff.mp found
  have listed := List.mem_of_find?_eq_some first
  revert listed
  exact (by decide : ∀ word ∈ keywords, word.1.toList ≠ []) word

theorem sign?_ne_nil {cs : List Char} {m : Match} (found : sign? cs = some m) : m.1 ≠ [] := by
  unfold sign? at found
  split at found
  · contradiction
  · cases found; simp
  · cases found; simp
  · obtain ⟨op, _, rfl⟩ := Option.map_eq_some_iff.mp found
    simp

theorem first?_ne_nil {cs : List Char} {m : Match} (found : first? cs = some m) : m.1 ≠ [] := by
  simp only [first?, Option.or_eq_some_iff] at found
  rcases found with h | ⟨_, h | ⟨_, h | ⟨_, h⟩⟩⟩
  · exact letter?_ne_nil h
  · exact number?_ne_nil h
  · exact keyword?_ne_nil h
  · exact sign?_ne_nil h

end Token

end Trivariate
