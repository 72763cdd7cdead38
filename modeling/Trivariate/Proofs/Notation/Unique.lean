import Trivariate.Notation
import Trivariate.Proofs.Number.Written
import Trivariate.Proofs.Polish.Printed
import Trivariate.Proofs.ReversePolish.RoundTrip
import Trivariate.Proofs.Scan.Lossless

/-! Printed text determines the tree, whether or not it is read back. Every token but a parenthesis
is a word without spaces and parentheses, and between any two words stands a space or a parenthesis.
So a text splits into its tokens in one way only, and their order gives the tree. Main statement: in
either notation two trees are printed alike just when they are the same. -/
namespace Trivariate

variable {κ : Type}

def inWord (c : Char) : Bool :=
  c ∉ [' ', '\n', '(', ')']

theorem append_inj_of_run {p : Char → Bool} {word word' rest rest' : List Char}
    (all : ∀ c ∈ word, p c = true) (all' : ∀ c ∈ word', p c = true)
    (stop : rest.takeWhile p = []) (stop' : rest'.takeWhile p = [])
    (same : word ++ rest = word' ++ rest') : word = word' ∧ rest = rest' := by
  have run := congrArg (List.takeWhile p) same
  rw [List.takeWhile_append_of_pos all, List.takeWhile_append_of_pos all', stop, stop',
    List.append_nil, List.append_nil] at run
  rw [run] at same
  exact ⟨run, List.append_cancel_left same⟩

namespace Token

def value? : Token κ → Option κ
  | .number k => some k
  | _ => none

theorem read?_write (t : Token Float) :
    Number.read? (String.ofList (t.write Number.write)) = t.value? := by
  cases t with
  | number k => exact (congrArg Number.read? String.ofList_toList).trans (Number.read?_write k)
  | var v => cases v <;> rfl
  | unary op => cases op <;> rfl
  | binary op => cases op <;> rfl
  | opening => rfl
  | closing => rfl

theorem integral_of_value? {t : Token Float} (none : t.value? = none) : t.Integral := by
  cases t with
  | number k => cases none
  | _ => trivial

theorem write_injective : Function.Injective (write Number.write) := by
  intro t u same
  have values : t.value? = u.value? := by rw [← read?_write, same, read?_write]
  cases value : t.value? with
  | some k =>
    have number : ∀ t : Token Float, t.value? = some k → t = .number k := by
      rintro ⟨⟩ ⟨⟩
      rfl
    rw [number t value, number u (values ▸ value)]
  | none =>
    have first := first?_write (integral_of_value? value) (apart_of_clear t clear_nil)
    have second := first?_write (integral_of_value? (values ▸ value)) (apart_of_clear u clear_nil)
    rw [same, second] at first
    exact (congrArg Prod.snd (Option.some.inj first)).symm

theorem write_ne_nil (t : Token Float) : t.write Number.write ≠ [] := by
  intro empty
  cases value : t.value? with
  | some k =>
    rw [← read?_write, empty] at value
    cases value
  | none => exact (spelling_write (integral_of_value? value)).ne_nil empty

theorem inWord_of_isDigit {c : Char} (digit : c.isDigit = true) : inWord c = true := by
  have other : c ∉ [' ', '\n', '(', ')'] := by
    simp only [List.mem_cons, List.not_mem_nil, or_false]
    rintro (rfl | rfl | rfl | rfl) <;> cases digit
  exact decide_eq_true other

theorem inWord_of_mem_write {t : Token Float} (word : t.isParen = false) :
    ∀ c ∈ t.write Number.write, inWord c = true := by
  cases t with
  | number k =>
    intro c member
    have letters : ['-', '.', 'i', 'n', 'f', 'N', 'a'].all inWord = true := by decide
    rcases Number.mem_write member with digit | listed
    · exact inWord_of_isDigit digit
    · exact List.all_eq_true.mp letters c listed
  | var v => cases v <;> exact List.all_eq_true.mp (by decide)
  | unary op => cases op <;> exact List.all_eq_true.mp (by decide)
  | binary op => cases op <;> exact List.all_eq_true.mp (by decide)
  | opening => cases word
  | closing => cases word

theorem exists_write_eq_cons (t : Token Float) :
    ∃ c cs, t.write Number.write = c :: cs ∧ c ≠ ' ' ∧ inWord c = !t.isParen := by
  cases paren : t.isParen with
  | true =>
    cases t with
    | opening => exact ⟨'(', [], rfl, by decide, rfl⟩
    | closing => exact ⟨')', [], rfl, by decide, rfl⟩
    | _ => cases paren
  | false =>
    obtain ⟨c, cs, written⟩ := List.exists_cons_of_ne_nil t.write_ne_nil
    have inside := inWord_of_mem_write paren c (written ▸ List.mem_cons_self ..)
    refine ⟨c, cs, written, ?_, inside⟩
    rintro rfl
    cases inside

theorem newline_notMem_write (t : Token Float) : '\n' ∉ t.write Number.write := by
  intro member
  cases paren : t.isParen with
  | true => cases t <;> cases paren <;> revert member <;> decide
  | false => cases inWord_of_mem_write paren _ member

theorem takeWhile_write (t : Token Float) (rest : List Char) :
    (t.write Number.write ++ rest).takeWhile (· = ' ') = [] := by
  obtain ⟨c, cs, written, visible, -⟩ := t.exists_write_eq_cons
  rw [written, List.cons_append, List.takeWhile_cons_of_neg (by simpa using visible)]

theorem length_write_paren {t : Token Float} (paren : t.isParen = true) :
    (t.write Number.write).length = 1 := by
  cases t <;> cases paren <;> rfl

/-- A token ends where it is a parenthesis or where no word goes on. -/
theorem write_append_inj {t u : Token Float} {rest rest' : List Char}
    (ends : t.isParen = true ∨ rest.takeWhile inWord = [])
    (ends' : u.isParen = true ∨ rest'.takeWhile inWord = [])
    (same : t.write Number.write ++ rest = u.write Number.write ++ rest') :
    t = u ∧ rest = rest' := by
  obtain ⟨c, cs, first, -, kind⟩ := t.exists_write_eq_cons
  obtain ⟨d, ds, second, -, kind'⟩ := u.exists_write_eq_cons
  have parens : t.isParen = u.isParen := by
    have heads := same
    rw [first, second] at heads
    rw [(List.cons.inj heads).1, kind'] at kind
    exact (Bool.not_inj kind).symm
  obtain ⟨written, rests⟩ : t.write Number.write = u.write Number.write ∧ rest = rest' := by
    cases paren : t.isParen with
    | true =>
      have lengths := (length_write_paren paren).trans (length_write_paren (parens ▸ paren)).symm
      exact List.append_inj same lengths
    | false =>
      have other : u.isParen = false := parens ▸ paren
      simp only [paren, other, Bool.false_eq_true, false_or] at ends ends'
      exact append_inj_of_run (inWord_of_mem_write paren) (inWord_of_mem_write other) ends ends'
        same
  exact ⟨write_injective written, rests⟩

end Token

namespace Layout

def SetOff (ps : List (Piece κ)) : Prop :=
  ∀ piece ∈ ps.head?, piece.token.isParen = true ∨ 0 < piece.gap

/-- Between any two words stands a space or a parenthesis. -/
def Parted : List (Piece κ) → Prop
  | [] => True
  | piece :: ps => (piece.token.isParen = true ∨ SetOff ps) ∧ Parted ps

theorem Parted.append {ps qs : List (Piece κ)} (left : Parted ps) (right : Parted qs)
    (setOff : SetOff qs) : Parted (ps ++ qs) := by
  induction ps with
  | nil => exact right
  | cons piece ps ih =>
    refine ⟨left.1.imp_right fun later => ?_, ih left.2⟩
    cases ps with
    | nil => exact setOff
    | cons next ps => exact later

theorem SetOff.takeWhile_text {numeral : κ → String} {ps : List (Piece κ)} (setOff : SetOff ps) :
    (text numeral ps).takeWhile inWord = [] := by
  cases ps with
  | nil => rfl
  | cons piece ps =>
    obtain ⟨gap, token⟩ := piece
    cases gap with
    | succ gap => rfl
    | zero =>
      rcases setOff _ rfl with paren | space
      · cases token <;> cases paren <;> rfl
      · cases space

theorem newline_notMem_text (ps : List (Piece Float)) : '\n' ∉ text Number.write ps := by
  intro member
  obtain ⟨piece, -, inside⟩ := List.mem_flatMap.mp member
  rcases List.mem_append.mp inside with space | written
  · cases List.eq_of_mem_replicate space
  · exact piece.token.newline_notMem_write written

/-- A text is laid out in one way only. -/
theorem text_inj {ps qs : List (Piece Float)} (parted : Parted ps) (parted' : Parted qs) :
    text Number.write ps = text Number.write qs ↔ ps = qs := by
  refine ⟨fun same => ?_, congrArg _⟩
  induction ps generalizing qs with
  | nil =>
    cases qs with
    | nil => rfl
    | cons piece qs =>
      rw [text_nil, text_cons] at same
      simp [Token.write_ne_nil] at same
  | cons piece ps ih =>
    cases qs with
    | nil =>
      rw [text_nil, text_cons] at same
      simp [Token.write_ne_nil] at same
    | cons piece' qs =>
      rw [text_cons, text_cons] at same
      obtain ⟨gaps, same⟩ := append_inj_of_run (p := (· = ' ')) (by simp) (by simp)
        (Token.takeWhile_write ..) (Token.takeWhile_write ..) same
      obtain ⟨tokens, rests⟩ := Token.write_append_inj (parted.1.imp_right SetOff.takeWhile_text)
        (parted'.1.imp_right SetOff.takeWhile_text) same
      have gap := congrArg List.length gaps
      rw [List.length_replicate, List.length_replicate] at gap
      obtain ⟨gap, token⟩ := piece
      cases gap
      cases tokens
      rw [ih parted.2 parted'.2 rests]

end Layout

namespace Expr

open Layout

theorem setOff_polishLayout (e : Expr κ) (ps : List (Piece κ)) :
    SetOff (e.polishLayout 1 ++ ps) := by
  cases e <;> rintro piece ⟨⟩ <;> exact Or.inr Nat.one_pos

theorem parted_polishLayout (gap : Nat) (e : Expr κ) : Parted (e.polishLayout gap) := by
  have closing : SetOff [⟨0, (.closing : Token κ)⟩] := by
    rintro piece ⟨⟩
    exact Or.inl rfl
  have last : Parted [⟨0, (.closing : Token κ)⟩] := ⟨Or.inl rfl, trivial⟩
  induction e generalizing gap with
  | const k => exact ⟨Or.inr nofun, trivial⟩
  | var v => exact ⟨Or.inr nofun, trivial⟩
  | unary op a ih =>
    exact ⟨Or.inl rfl, Or.inr (setOff_polishLayout a _), (ih 1).append last closing⟩
  | binary op l r ihl ihr =>
    refine ⟨Or.inl rfl, Or.inr (setOff_polishLayout l _), ?_⟩
    exact (ihl 1).append ((ihr 1).append last closing) (setOff_polishLayout r _)

theorem setOff_reversePolishLayout (e : Expr κ) (ps : List (Piece κ)) :
    SetOff (e.reversePolishLayout 1 ++ ps) := by
  induction e generalizing ps with
  | const k => rintro piece ⟨⟩; exact Or.inr Nat.one_pos
  | var v => rintro piece ⟨⟩; exact Or.inr Nat.one_pos
  | unary op a ih =>
    rw [reversePolishLayout, List.append_assoc]
    exact ih _
  | binary op l r ihl ihr =>
    rw [reversePolishLayout, List.append_assoc]
    exact ihl _

theorem parted_reversePolishLayout (gap : Nat) (e : Expr κ) :
    Parted (e.reversePolishLayout gap) := by
  have operator : ∀ t : Token κ, SetOff [⟨1, t⟩] := by
    rintro t piece ⟨⟩
    exact Or.inr Nat.one_pos
  have last : ∀ t : Token κ, Parted [⟨1, t⟩] := fun t => ⟨Or.inr nofun, trivial⟩
  induction e generalizing gap with
  | const k => exact ⟨Or.inr nofun, trivial⟩
  | var v => exact ⟨Or.inr nofun, trivial⟩
  | unary op a ih => exact (ih gap).append (last _) (operator _)
  | binary op l r ihl ihr =>
    exact (ihl gap).append ((ihr 1).append (last _) (operator _)) (setOff_reversePolishLayout r _)

theorem polish_inj (a b : Expr Float) :
    a.polish Number.write = b.polish Number.write ↔ a = b := by
  refine ⟨fun same => preorder_injective ?_, congrArg _⟩
  rw [← String.toList_inj, toList_polish, toList_polish,
    text_inj (a.parted_polishLayout 0) (b.parted_polishLayout 0)] at same
  rw [← a.symbols_polishLayout 0, same, b.symbols_polishLayout 0]

theorem reversePolish_inj (a b : Expr Float) :
    a.reversePolish Number.write = b.reversePolish Number.write ↔ a = b := by
  refine ⟨fun same => ?_, congrArg _⟩
  rw [← String.toList_inj, toList_reversePolish, toList_reversePolish,
    text_inj (a.parted_reversePolishLayout 0) (b.parted_reversePolishLayout 0)] at same
  have tokens : [] ++ a.postorder = [] ++ b.postorder := by
    rw [← a.tokens_reversePolishLayout 0, same, b.tokens_reversePolishLayout 0]
  exact (append_postorder_inj tokens).1

end Expr

/-- Two trees are printed alike in a notation just when they are the same, whatever their constants
are. -/
theorem Notation.print_inj (form : Notation) (a b : Expr Float) :
    form.print a = form.print b ↔ a = b := by
  cases form with
  | polish => exact Expr.polish_inj a b
  | reversePolish => exact Expr.reversePolish_inj a b

theorem Notation.newline_notMem_print (form : Notation) (e : Expr Float) :
    '\n' ∉ (form.print e).toList := by
  cases form with
  | polish =>
    rw [print, Expr.toList_polish]
    exact Layout.newline_notMem_text _
  | reversePolish =>
    rw [print, Expr.toList_reversePolish]
    exact Layout.newline_notMem_text _

end Trivariate
