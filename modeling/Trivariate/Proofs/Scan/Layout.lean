import Trivariate.Proofs.Number.Integral
import Trivariate.Proofs.Preorder
import Trivariate.Scan

namespace Trivariate

open String (utf8Len)

variable {κ : Type}

def Clear (cs : List Char) : Prop :=
  ∀ c, cs.head? = some c → c.isDigit = false

theorem clear_nil : Clear [] :=
  nofun

theorem clear_cons {c : Char} (other : c.isDigit = false) (cs : List Char) : Clear (c :: cs) := by
  rintro d ⟨⟩
  exact other

namespace Token

def write (numeral : κ → String) : Token κ → List Char
  | .var v => [v.symbol]
  | .number k => (numeral k).toList
  | .unary op => op.symbol.toList
  | .binary op => op.symbol.toList
  | .opening => ['(']
  | .closing => [')']

/-- The character behind a token would become a part of it or change what it is. -/
def TakesUp (c : Char) : Token κ → Prop
  | .number _ => c.isDigit = true
  | .binary .sub => c.isDigit = true
  | .unary .atan => c = '2'
  | _ => False

def Apart (t : Token κ) (rest : List Char) : Prop :=
  ∀ c, rest.head? = some c → ¬ t.TakesUp c

theorem apart_of_clear (t : Token κ) {rest : List Char} (clear : Clear rest) : t.Apart rest := by
  intro c head taken
  have other := clear c head
  cases t with
  | number k => simp_all [TakesUp]
  | unary op =>
    cases op with
    | atan =>
      cases taken
      cases other
    | _ => exact taken
  | binary op =>
    cases op with
    | sub => simp_all [TakesUp]
    | _ => exact taken
  | _ => exact taken

def Integral : Token Float → Prop
  | .number k => Number.Integral k
  | _ => True

instance : (t : Token Float) → Decidable t.Integral
  | .number k => inferInstanceAs (Decidable (Number.Integral k))
  | .var _ => .isTrue trivial
  | .unary _ => .isTrue trivial
  | .binary _ => .isTrue trivial
  | .opening => .isTrue trivial
  | .closing => .isTrue trivial

theorem takeWhile_digits {digits rest : List Char} (all : ∀ c ∈ digits, c.isDigit = true)
    (clear : Clear rest) : (digits ++ rest).takeWhile Char.isDigit = digits := by
  rw [List.takeWhile_append_of_pos all]
  cases rest with
  | nil => simp
  | cons c rest => simp [clear c rfl]

theorem letter?_digit {d : Char} (digit : d.isDigit = true) (cs : List Char) :
    letter? (d :: cs) = none := by
  cases found : Variable.ofChar? d with
  | none => simp [letter?, found]
  | some v =>
    obtain rfl := Variable.ofChar?_eq_some_iff.mp found
    cases v <;> cases digit

theorem first?_number (negative : Bool) {digits rest : List Char} (nonempty : digits ≠ [])
    (all : ∀ c ∈ digits, c.isDigit = true) (clear : Clear rest) :
    first? (Number.minus negative ++ digits ++ rest) =
      some (Number.minus negative ++ digits, .number (Number.ofDigits negative digits)) := by
  have run := takeWhile_digits all clear
  cases digits with
  | nil => contradiction
  | cons d digits =>
    cases negative with
    | true =>
      change first? ('-' :: (d :: digits ++ rest)) = some ('-' :: d :: digits, _)
      have letter : letter? ('-' :: (d :: digits ++ rest)) = none := rfl
      have number : number? ('-' :: (d :: digits ++ rest)) =
          some ('-' :: d :: digits, .number (Number.ofDigits true (d :: digits))) := by
        simp only [number?, run]
      simp only [first?, letter, number, Option.none_or, Option.some_or]
    | false =>
      change first? (d :: digits ++ rest) = some (d :: digits, _)
      have digit := all d (by simp)
      have letter : letter? (d :: digits ++ rest) = none := letter?_digit digit _
      have number : number? (d :: digits ++ rest) =
          some (d :: digits, .number (Number.ofDigits false (d :: digits))) := by
        unfold number?
        split
        · rename_i sign
          cases sign
          cases digit
        · simp only [run]
      simp only [first?, letter, number, Option.none_or, Option.some_or]

theorem first?_minus {rest : List Char} (clear : Clear rest) :
    first? ('-' :: rest) = some (['-'], .binary .sub) := by
  have run : rest.takeWhile Char.isDigit = [] :=
    takeWhile_digits (List.forall_mem_nil _) clear
  have number : number? ('-' :: rest) = none := by simp only [number?, run]
  rw [first?, number]
  rfl

theorem first?_atan {rest : List Char} (stop : ∀ c, rest.head? = some c → c ≠ '2') :
    first? ("atan".toList ++ rest) = some ("atan".toList, .unary .atan) := by
  cases rest with
  | nil => rfl
  | cons c rest =>
    have other : ('2' == c) = false := beq_false_of_ne (stop c rfl).symm
    have negate : "negate".toList.isPrefixOf ("atan".toList ++ c :: rest) = false := rfl
    have atan2 : "atan2".toList.isPrefixOf ("atan".toList ++ c :: rest) = false := by
      change ('2' == c && [].isPrefixOf rest) = false
      rw [other, Bool.false_and]
    have atan : "atan".toList.isPrefixOf ("atan".toList ++ c :: rest) = true := rfl
    have keyword : keyword? ("atan".toList ++ c :: rest) = some ("atan".toList, .unary .atan) := by
      simp only [keyword?, keywords, List.find?, negate, atan2, atan]
      rfl
    rw [first?, keyword]
    rfl

/-- The spellings of the tokens. Digits of any number spell a number, and every other token has one
spelling. -/
inductive Spelling : List Char → Token Float → Prop where
  | var (v : Variable) : Spelling [v.symbol] (.var v)
  | number (negative : Bool) {digits : List Char} : digits ≠ [] →
      (∀ c ∈ digits, c.isDigit = true) →
      Spelling (Number.minus negative ++ digits) (.number (Number.ofDigits negative digits))
  | operator (op : Operator) : Spelling op.symbol.toList (.ofOperator op)
  | opening : Spelling ['('] .opening
  | closing : Spelling [')'] .closing

/-- A spelling is recognised before anything that its token does not take up. -/
theorem Spelling.first? {text rest : List Char} {t : Token Float} (spelling : Spelling text t)
    (apart : t.Apart rest) : first? (text ++ rest) = some (text, t) := by
  cases spelling with
  | var v => cases v <;> rfl
  | number negative nonempty all =>
    exact first?_number negative nonempty all fun d next => Bool.eq_false_iff.mpr (apart d next)
  | operator op =>
    cases op with
    | unary op =>
      cases op with
      | atan => exact first?_atan apart
      | _ => rfl
    | binary op =>
      cases op with
      | sub => exact first?_minus fun c next => Bool.eq_false_iff.mpr (apart c next)
      | _ => rfl
  | opening => rfl
  | closing => rfl

theorem spelling_write {t : Token Float} (integral : t.Integral) :
    Spelling (t.write Number.write) t := by
  cases t with
  | var v => exact .var v
  | number k =>
    obtain ⟨c, text, read⟩ := Number.toList_write_integral integral
    have spelling := Spelling.number (Number.isNegative k) Nat.toDigits_ne_nil
      (Number.isDigit_of_mem_toDigits (n := c))
    rwa [read, ← text] at spelling
  | unary op => exact .operator (.unary op)
  | binary op => exact .operator (.binary op)
  | opening => exact .opening
  | closing => exact .closing

theorem first?_write {t : Token Float} (integral : t.Integral) {rest : List Char}
    (apart : t.Apart rest) :
    first? (t.write Number.write ++ rest) = some (t.write Number.write, t) :=
  (spelling_write integral).first? apart

theorem first?_symbol {symbol : Char} (listed : symbol ∈ ['.', 'i', 'N']) (rest : List Char) :
    first? (symbol :: rest) = none ∧ symbol ≠ ' ' ∧ symbol.isDigit = false := by
  simp only [List.mem_cons, List.not_mem_nil, or_false] at listed
  rcases listed with rfl | rfl | rfl
  · exact ⟨rfl, by decide, rfl⟩
  · exact ⟨rfl, by decide, rfl⟩
  · exact ⟨rfl, by decide, rfl⟩

end Token

theorem utf8Len_spaces (n : Nat) : utf8Len (List.replicate n ' ') = n := by
  induction n with
  | zero => rfl
  | succ n ih =>
    have one : ' '.utf8Size = 1 := rfl
    rw [List.replicate_succ, String.utf8Len_cons, ih, one]

namespace Scan

def tokens (s : Scan κ) : List (Token κ) :=
  s.lexemes.map Lexeme.token

def behind (ls : List (Lexeme κ)) (s : Scan κ) : Scan κ :=
  ⟨ls ++ s.lexemes, s.stop⟩

theorem ofChars_eq (p : Nat) (cs : List Char) :
    ofChars p cs =
      match Cursor.read p cs with
      | (none, _) => ⟨[], none⟩
      | (some (.error place), _) => ⟨[], some place⟩
      | (some (.ok l), later) => (ofChars later.position later.rest).behind [l] := by
  rw [ofChars]
  split
  all_goals
    rename_i taken
    rw [taken]
  rfl

@[simp] theorem ofChars_nil (p : Nat) : ofChars p [] = ⟨[], none⟩ := by
  rw [ofChars_eq, Cursor.read]

theorem ofChars_space (p : Nat) (cs : List Char) : ofChars p (' ' :: cs) = ofChars (p + 1) cs := by
  rw [ofChars_eq, Cursor.read, if_pos rfl, ← ofChars_eq]

theorem ofChars_stop {c : Char} {rest : List Char} (visible : c ≠ ' ')
    (none : Token.first? (c :: rest) = none) (p : Nat) :
    ofChars p (c :: rest) = ⟨[], some (c, p)⟩ := by
  rw [ofChars_eq, Cursor.read, if_neg visible, none]

theorem ofChars_found {cs text : List Char} {t : Token Float}
    (found : Token.first? cs = some (text, t)) (p : Nat) :
    ofChars p cs = (ofChars (p + utf8Len text) (cs.drop text.length)).behind [⟨p, text, t⟩] := by
  cases cs with
  | nil => cases found
  | cons c rest =>
    have visible : c ≠ ' ' := by
      rintro rfl
      cases found
    rw [ofChars_eq, Cursor.read, if_neg visible, found]
    simp only [String.utf8ByteSize_ofList]

theorem ofChars_token {text rest : List Char} {t : Token Float}
    (found : Token.first? (text ++ rest) = some (text, t)) (p : Nat) :
    ofChars p (text ++ rest) = (ofChars (p + utf8Len text) rest).behind [⟨p, text, t⟩] := by
  have scan := ofChars_found found p
  rwa [List.drop_left] at scan

theorem ofChars_spaces (n p : Nat) (cs : List Char) :
    ofChars p (List.replicate n ' ' ++ cs) = ofChars (p + n) cs := by
  induction n generalizing p with
  | zero => rfl
  | succ n ih =>
    rw [List.replicate_succ, List.cons_append, ofChars_space, ih, Nat.add_assoc, Nat.add_comm 1]

theorem ofChars_eq_nil_iff (p : Nat) (cs : List Char) :
    (ofChars p cs).lexemes = [] ∧ (ofChars p cs).stop = none ↔ ∀ c ∈ cs, c = ' ' := by
  induction cs generalizing p with
  | nil => simp
  | cons c cs ih =>
    by_cases space : c = ' '
    · rw [space, ofChars_space, ih]
      simp
    · cases found : Token.first? (c :: cs) with
      | none => simp [ofChars_stop space found, space]
      | some m => simp [ofChars_found found, space, behind]

end Scan

structure Piece (κ : Type) where
  gap : Nat
  token : Token κ

namespace Layout

variable (numeral : κ → String)

def text (ps : List (Piece κ)) : List Char :=
  ps.flatMap fun piece => List.replicate piece.gap ' ' ++ piece.token.write numeral

def lexemes : Nat → List (Piece κ) → List (Lexeme κ)
  | _, [] => []
  | p, ⟨gap, t⟩ :: ps =>
    ⟨p + gap, t.write numeral, t⟩ :: lexemes (p + gap + utf8Len (t.write numeral)) ps

def Spaced : List (Piece κ) → List Char → Prop
  | [], _ => True
  | piece :: ps, rest => piece.token.Apart (text numeral ps ++ rest) ∧ Spaced ps rest

@[simp] theorem text_nil : text numeral [] = [] :=
  rfl

theorem text_cons (piece : Piece κ) (ps : List (Piece κ)) :
    text numeral (piece :: ps) =
      List.replicate piece.gap ' ' ++ (piece.token.write numeral ++ text numeral ps) := by
  rw [text, List.flatMap_cons, List.append_assoc]
  rfl

theorem text_append (ps qs : List (Piece κ)) :
    text numeral (ps ++ qs) = text numeral ps ++ text numeral qs :=
  List.flatMap_append ..

theorem tokens_lexemes (p : Nat) (ps : List (Piece κ)) :
    (lexemes numeral p ps).map Lexeme.token = ps.map Piece.token := by
  induction ps generalizing p with
  | nil => rfl
  | cons piece ps ih => simp [lexemes, ih]

theorem spaced_append (ps qs : List (Piece κ)) (rest : List Char) :
    Spaced numeral (ps ++ qs) rest ↔
      Spaced numeral ps (text numeral qs ++ rest) ∧ Spaced numeral qs rest := by
  induction ps with
  | nil => simp [Spaced]
  | cons piece ps ih =>
    simp only [List.cons_append, Spaced, ih, text_append, List.append_assoc, and_assoc]

theorem integral_iff (ps : List (Piece Float)) :
    (∀ piece ∈ ps, piece.token.Integral) ↔
      ∀ k, .number k ∈ ps.map Piece.token → Number.Integral k := by
  simp only [List.mem_map]
  constructor
  · rintro integral k ⟨piece, member, token⟩
    have whole := integral piece member
    rwa [token] at whole
  · intro integral piece member
    cases token : piece.token with
    | number k => exact integral k ⟨piece, member, token⟩
    | _ => trivial

end Layout

/-- Laid out so that none takes up the character after it, the tokens are found again, each where
it stands. -/
theorem Scan.ofChars_text {ps : List (Piece Float)} {rest : List Char}
    (integral : ∀ piece ∈ ps, piece.token.Integral)
    (spaced : Layout.Spaced Number.write ps rest) (p : Nat) :
    ofChars p (Layout.text Number.write ps ++ rest) =
      (ofChars (p + utf8Len (Layout.text Number.write ps)) rest).behind
        (Layout.lexemes Number.write p ps) := by
  induction ps generalizing p with
  | nil => rfl
  | cons piece ps ih =>
    obtain ⟨apart, later⟩ := spaced
    have token := Token.first?_write (integral piece (by simp)) apart
    rw [Layout.text_cons, List.append_assoc, List.append_assoc, ofChars_spaces,
      ofChars_token token, ih (fun piece member => integral piece (by simp [member])) later]
    simp only [String.utf8Len_append, utf8Len_spaces, Nat.add_assoc]
    simp [behind, Layout.lexemes, Nat.add_assoc]

theorem Scan.ofText_layout {text : String} {ps : List (Piece Float)}
    (layout : text.toList = Layout.text Number.write ps)
    (integral : ∀ piece ∈ ps, piece.token.Integral) (spaced : Layout.Spaced Number.write ps []) :
    ofText text = ⟨Layout.lexemes Number.write 0 ps, none⟩ := by
  have scan := ofChars_text integral spaced 0
  rw [List.append_nil, ofChars_nil] at scan
  rw [ofText, layout, scan, behind, List.append_nil]

theorem Scan.ofChars_symbol {digits : List Char} (all : ∀ c ∈ digits, c.isDigit = true)
    {symbol : Char} (listed : symbol ∈ ['.', 'i', 'N']) (negative : Bool) (rest : List Char)
    (p : Nat) :
    ∃ ls, ofChars p (Number.minus negative ++ digits ++ symbol :: rest) =
        ⟨ls, some (symbol, p + utf8Len (Number.minus negative ++ digits))⟩ ∧
      (ls = [] ∨ ∃ l, ls = [l] ∧ l.token.isParen = false) := by
  obtain ⟨none, visible, other⟩ := Token.first?_symbol listed rest
  have clear : Clear (symbol :: rest) := clear_cons other rest
  have stop := fun p => ofChars_stop visible none p
  by_cases nonempty : digits = []
  · subst nonempty
    cases negative with
    | true =>
      refine ⟨_, ?_, Or.inr ⟨⟨p, ['-'], .binary .sub⟩, rfl, rfl⟩⟩
      exact (ofChars_token (Token.first?_minus clear) p).trans (by rw [stop]; rfl)
    | false => exact ⟨[], stop p, Or.inl rfl⟩
  · refine ⟨_, ?_, Or.inr ⟨⟨p, Number.minus negative ++ digits,
      .number (Number.ofDigits negative digits)⟩, rfl, rfl⟩⟩
    rw [ofChars_token (Token.first?_number negative nonempty all clear), stop]
    rfl

namespace Layout

/-- The first constant that is no whole number, and the byte at which its text starts. -/
def FirstOther (ps : List (Piece Float)) (k : Float) (start : Nat) : Prop :=
  ¬ Number.Integral k ∧ ∃ before gap after,
    ps = before ++ ⟨gap, .number k⟩ :: after ∧ (∀ piece ∈ before, piece.token.Integral) ∧
      start = utf8Len (text Number.write before) + gap

theorem exists_firstOther {ps : List (Piece Float)}
    (other : ¬ ∀ piece ∈ ps, piece.token.Integral) : ∃ k start, FirstOther ps k start := by
  induction ps with
  | nil => simp at other
  | cons piece ps ih =>
    by_cases integral : piece.token.Integral
    · have later : ¬ ∀ piece ∈ ps, piece.token.Integral := by
        intro all
        exact other (List.forall_mem_cons.mpr ⟨integral, all⟩)
      obtain ⟨k, start, none, before, gap, after, rfl, inside, -⟩ := ih later
      exact ⟨k, _, none, piece :: before, gap, after, rfl,
        List.forall_mem_cons.mpr ⟨integral, inside⟩, rfl⟩
    · obtain ⟨gap, token⟩ := piece
      cases token with
      | number k => exact ⟨k, _, integral, [], gap, ps, rfl, nofun, rfl⟩
      | _ => exact absurd trivial integral

end Layout

/-- The scan stops inside the first constant that is no whole number. -/
theorem Scan.ofChars_firstOther {ps : List (Piece Float)} {k : Float} {start : Nat}
    (spaced : Layout.Spaced Number.write ps []) (first : Layout.FirstOther ps k start) :
    ∃ before gap after ls symbol position,
      ps = before ++ ⟨gap, .number k⟩ :: after ∧
      ofChars 0 (Layout.text Number.write ps) =
        ⟨Layout.lexemes Number.write 0 before ++ ls, some (symbol, position)⟩ ∧
      (ls = [] ∨ ∃ l, ls = [l] ∧ l.token.isParen = false) ∧ symbol ∈ ['.', 'i', 'N'] ∧
      start ≤ position ∧ position < start + (Number.write k).utf8ByteSize := by
  obtain ⟨other, before, gap, after, rfl, integral, rfl⟩ := first
  obtain ⟨negative, digits, symbol, rest, text, all, listed⟩ := Number.toList_write_other other
  obtain ⟨ls, stop, few⟩ := ofChars_symbol all listed negative
    (rest ++ Layout.text Number.write after)
    (utf8Len (Layout.text Number.write before) + gap)
  refine ⟨before, gap, after, ls, symbol, utf8Len (Layout.text Number.write before) + gap +
    utf8Len (Number.minus negative ++ digits), rfl, ?_, few, listed, Nat.le_add_right .., ?_⟩
  · rw [Layout.spaced_append] at spaced
    have scan := ofChars_text integral spaced.1 0
    have constant : (Token.number k).write Number.write ++ Layout.text Number.write after =
        Number.minus negative ++ digits ++ symbol :: (rest ++ Layout.text Number.write after) := by
      rw [Token.write, text, List.append_assoc, List.cons_append]
    rw [List.append_nil] at scan
    rw [Layout.text_append, scan, Layout.text_cons, constant, ofChars_spaces, Nat.zero_add, stop]
    rfl
  · have size := symbol.utf8Size_pos
    rw [← String.utf8Len_toList, text, String.utf8Len_append (_ ++ digits), String.utf8Len_cons]
    omega

end Trivariate
