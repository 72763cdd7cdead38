import Trivariate.ParseError
import Trivariate.Token

/-! The lexemes of a text from left to right. Spaces separate, and the first character that
begins no token ends the scan. -/
namespace Trivariate

structure Lexeme (κ : Type) where
  position : Nat
  text : List Char
  token : Token κ
deriving DecidableEq, Repr

def Lexeme.place {κ : Type} (l : Lexeme κ) : Nat × Token κ :=
  (l.position, l.token)

/-- What is left of a text from a byte offset on. Once a character is refused there are no more
items, whatever is left. -/
structure Cursor where
  position : Nat
  rest : List Char
  failed : Bool

namespace Cursor

def start (text : String) : Cursor :=
  ⟨0, text.toList, false⟩

/-- Goes past the spaces and reads one token. A character that begins none is refused. -/
def read (position : Nat) : List Char → Option (Except (Char × Nat) (Lexeme Float)) × Cursor
  | [] => (none, ⟨position, [], false⟩)
  | c :: rest =>
    if c = ' ' then read (position + 1) rest
    else
      match Token.first? (c :: rest) with
      | none => (some (.error (c, position)), ⟨position, c :: rest, true⟩)
      | some (text, token) =>
        (some (.ok ⟨position, text, token⟩),
          ⟨position + (String.ofList text).utf8ByteSize, (c :: rest).drop text.length, false⟩)

theorem length_lt_of_read {position : Nat} {cs : List Char} {l : Lexeme Float} {later : Cursor}
    (taken : read position cs = (some (.ok l), later)) : later.rest.length < cs.length := by
  fun_induction read position cs with
  | case1 position => cases taken
  | case2 position rest ih => exact Nat.lt_succ_of_lt (ih taken)
  | case3 position c rest visible none => cases taken
  | case4 position c rest visible text token found =>
    cases taken
    have progress := List.length_pos_iff.mpr (Token.first?_ne_nil found)
    simp only [List.length_drop, List.length_cons] at progress ⊢
    omega

def next (c : Cursor) : Option (Except ParseError (Lexeme Float)) × Cursor :=
  if c.failed then (none, c)
  else
    let (item, later) := read c.position c.rest
    (item.map (Except.mapError fun (symbol, position) => .illegalSymbol symbol position), later)

end Cursor

/-- The lexemes up to the end of a text, or up to the character at which they stop. -/
structure Scan (κ : Type) where
  lexemes : List (Lexeme κ)
  stop : Option (Char × Nat)
deriving DecidableEq, Repr

namespace Scan

def ofChars (position : Nat) (cs : List Char) : Scan Float :=
  match _taken : Cursor.read position cs with
  | (none, _) => ⟨[], none⟩
  | (some (.error place), _) => ⟨[], some place⟩
  | (some (.ok l), later) =>
    let s := ofChars later.position later.rest
    ⟨l :: s.lexemes, s.stop⟩
termination_by cs.length
decreasing_by exact Cursor.length_lt_of_read _taken

def ofText (text : String) : Scan Float :=
  ofChars 0 text.toList

def items {κ : Type} (s : Scan κ) : List (Except ParseError (Lexeme κ)) :=
  s.lexemes.map .ok ++
    s.stop.toList.map fun (symbol, position) => .error (.illegalSymbol symbol position)

def tokenize (text : String) : Except ParseError (List (Nat × Token Float)) :=
  (ofText text).items.mapM fun item => item.map Lexeme.place

/-- Folds a step over the lexemes. What a step refuses comes first, the character that stopped
the scan after it. -/
def run {κ σ : Type} (s : Scan κ) (step : σ → Lexeme κ → Except ParseError σ) (start : σ) :
    Except ParseError σ :=
  match s.lexemes.foldlM step start, s.stop with
  | .error e, _ => .error e
  | .ok _, some (symbol, position) => .error (.illegalSymbol symbol position)
  | .ok last, none => .ok last

end Scan

end Trivariate
