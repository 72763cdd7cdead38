import Trivariate.Expr.Derivative
import Trivariate.Notation
import Trivariate.Proofs.Polish.RoundTrip
import Trivariate.Proofs.ReversePolish.RoundTrip
import Trivariate.Proofs.Scan.Lossless

/-! Trees that came from a text, and their derivatives of any order, printed and read again. Their
constants are literals of the text, zero and one. So a tree comes back as it was just when none of
its constants is infinite, and digits that stay below the limit never are. -/
namespace Trivariate

namespace Expr

variable {κ : Type} [OfNat κ 0] [OfNat κ 1]

/-- A derivative has the constants of its tree, and zero and one. -/
theorem mem_constants_derivative {v : Variable} {e : Expr κ} {k : κ}
    (member : k ∈ (e.derivative v).constants) : k ∈ e.constants ∨ k = 0 ∨ k = 1 := by
  induction e with
  | const c =>
    simp only [derivative, constants, List.mem_singleton] at member
    exact Or.inr (Or.inl member)
  | var w =>
    simp only [derivative, constants, List.mem_singleton] at member
    split at member
    · exact Or.inr (Or.inr member)
    · exact Or.inr (Or.inl member)
  | unary op a ih =>
    cases op with
    | negate => exact ih member
    | sinh =>
      rcases List.mem_append.mp member with copy | slope
      · exact Or.inl copy
      · exact ih slope
    | cosh =>
      rcases List.mem_append.mp member with copy | slope
      · exact Or.inl copy
      · exact ih slope
    | atan =>
      simp only [derivative, add_def, mul_def, div_def, constants, List.mem_append,
        List.mem_singleton] at member ⊢
      grind
  | binary op l r ihl ihr =>
    cases op
    all_goals
      simp only [derivative, neg_def, add_def, sub_def, mul_def, div_def, constants,
        List.mem_append] at member ⊢
      grind

theorem mem_constants_deriveAll {vs : List Variable} {e : Expr κ} {k : κ}
    (member : k ∈ (e.deriveAll vs).constants) : k ∈ e.constants ∨ k = 0 ∨ k = 1 := by
  induction vs generalizing e with
  | nil => exact Or.inl member
  | cons v vs ih =>
    rcases ih member with inside | added
    · exact mem_constants_derivative inside
    · exact Or.inr added

theorem finite_of_mem_deriveAll {t : Expr Float} (finite : ∀ k ∈ t.constants, Number.Finite k)
    {vs : List Variable} {k : Float} (member : k ∈ (t.deriveAll vs).constants) :
    Number.Finite k := by
  rcases mem_constants_deriveAll member with constant | rfl | rfl
  · exact finite k constant
  · decide +kernel
  · decide +kernel

end Expr

def Lexeme.magnitude {κ : Type} (l : Lexeme κ) : Nat :=
  Nat.ofDigitChars 10 (l.text.filter Char.isDigit) 0

namespace Scan

theorem ofText_digits {digits : List Char} (nonempty : digits ≠ [])
    (all : ∀ c ∈ digits, c.isDigit = true) :
    ofText (String.ofList digits) =
      ⟨[⟨0, digits, .number (Number.ofDigits false digits)⟩], none⟩ := by
  have token := ofChars_token (Token.first?_number false nonempty all clear_nil) 0
  simp only [Number.minus, Bool.false_eq_true, if_false, List.nil_append, List.append_nil,
    ofChars_nil] at token
  rw [ofText, String.toList_ofList, token]
  rfl

theorem number_of_mem {text : String} {l : Lexeme Float} (member : l ∈ (ofText text).lexemes)
    {k : Float} (token : l.token = .number k) :
    ∃ negative digits, l.text = Number.minus negative ++ digits ∧
      (∀ c ∈ digits, c.isDigit = true) ∧ k = Number.ofDigits negative digits := by
  have spelling := (laid_ofChars 0 text.toList).spelled l member
  rw [token] at spelling
  obtain ⟨negative, digits, -, number⟩ := spelling.number_inv
  exact ⟨negative, digits, number⟩

theorem finite_iff_of_mem {text : String} {l : Lexeme Float} (member : l ∈ (ofText text).lexemes)
    {k : Float} (token : l.token = .number k) :
    Number.Finite k ↔ l.magnitude < Number.limit := by
  obtain ⟨negative, digits, spelling, all, rfl⟩ := number_of_mem member token
  have inside : l.text.filter Char.isDigit = digits := by
    have sign : (Number.minus negative).filter Char.isDigit = [] := by cases negative <;> rfl
    rw [spelling, List.filter_append, sign, List.nil_append, List.filter_eq_self.mpr all]
  rw [Number.finite_ofDigits_iff, Lexeme.magnitude, inside]

end Scan

namespace Notation

theorem parse_print_eq_ok_iff (form : Notation) (e : Expr Float) :
    form.parse (form.print e) = .ok e ↔ ∀ k ∈ e.constants, Number.Integral k := by
  cases form with
  | polish => exact Polish.parse_polish_eq_ok_iff e
  | reversePolish => exact ReversePolish.parse_reversePolish_eq_ok_iff e

theorem parse_print_other {form : Notation} {e : Expr Float} {k : Float} (member : k ∈ e.constants)
    (other : ¬ Number.Integral k) : ∃ refusal, form.parse (form.print e) = .error refusal := by
  have some : ¬ ∀ k ∈ e.constants, Number.Integral k := fun all => other (all k member)
  cases form with
  | polish => exact Polish.parse_polish_refused some
  | reversePolish => exact ReversePolish.parse_reversePolish_other some

theorem exists_lexeme_of_mem_constants {form : Notation} {text : String} {t : Expr Float}
    (read : form.parse text = .ok t) {k : Float} (member : k ∈ t.constants) :
    ∃ l ∈ (Scan.ofText text).lexemes, l.token = .number k := by
  suffices token : .number k ∈ (Scan.ofText text).tokens from List.mem_map.mp token
  cases form with
  | polish =>
    have spells := ((Polish.parse_eq_ok_iff text t).mp read).spells
    rw [Expr.mem_constants_iff, ← spells] at member
    exact List.mem_of_mem_filter member
  | reversePolish =>
    obtain ⟨es, spells⟩ := ((ReversePolish.parse_eq_ok_iff text t).mp read).spells
    rw [Expr.mem_constants_iff, ← Expr.mem_postorder_iff] at member
    rw [spells]
    exact List.mem_append_right _ member

theorem literal_of_mem_constants {form : Notation} {text : String} {t : Expr Float}
    (read : form.parse text = .ok t) {vs : List Variable} {k : Float}
    (member : k ∈ (t.deriveAll vs).constants) : Number.Literal k := by
  rcases Expr.mem_constants_deriveAll member with constant | rfl | rfl
  · obtain ⟨l, inside, token⟩ := exists_lexeme_of_mem_constants read constant
    obtain ⟨negative, digits, -, -, same⟩ := Scan.number_of_mem inside token
    exact ⟨negative, digits, same⟩
  · exact Number.literal_zero
  · exact Number.literal_one

theorem finite_of_mem_constants {form : Notation} {text : String} {t : Expr Float}
    (read : form.parse text = .ok t)
    (small : ∀ l ∈ (Scan.ofText text).lexemes, l.magnitude < Number.limit)
    {vs : List Variable} {k : Float} (member : k ∈ (t.deriveAll vs).constants) :
    Number.Finite k := by
  refine Expr.finite_of_mem_deriveAll (fun k constant => ?_) member
  obtain ⟨l, inside, token⟩ := exists_lexeme_of_mem_constants read constant
  exact (Scan.finite_iff_of_mem inside token).mpr (small l inside)

/-- A tree that came from a text, differentiated any number of times, is read back from its own
text just when none of its constants is infinite, and its text is refused when one is. If the digits
of every literal stay below the limit, all of its derivatives are read back. -/
theorem parse_print_deriveAll {form : Notation} {text : String} {t : Expr Float}
    (read : form.parse text = .ok t) :
    (∀ vs, form.parse (form.print (t.deriveAll vs)) = .ok (t.deriveAll vs) ↔
      ∀ k ∈ (t.deriveAll vs).constants, Number.Finite k) ∧
    (∀ vs, (∃ k ∈ (t.deriveAll vs).constants, ¬ Number.Finite k) →
      ∃ refusal, form.parse (form.print (t.deriveAll vs)) = .error refusal) ∧
    ((∀ l ∈ (Scan.ofText text).lexemes, l.magnitude < Number.limit) →
      ∀ vs, form.parse (form.print (t.deriveAll vs)) = .ok (t.deriveAll vs)) := by
  have exact : ∀ vs, form.parse (form.print (t.deriveAll vs)) = .ok (t.deriveAll vs) ↔
      ∀ k ∈ (t.deriveAll vs).constants, Number.Finite k := by
    intro vs
    rw [parse_print_eq_ok_iff]
    exact forall₂_congr fun k member => (literal_of_mem_constants read member).integral_iff
  refine ⟨exact, fun vs => ?_, fun small vs => (exact vs).mpr fun k member => ?_⟩
  · rintro ⟨k, member, infinite⟩
    apply parse_print_other member
    rwa [(literal_of_mem_constants read member).integral_iff]
  · exact finite_of_mem_constants read small member

theorem product_parse_print_deriveAll :
    ∃ t, polish.parse "(* x -3)" = .ok t ∧
      (∀ l ∈ (Scan.ofText "(* x -3)").lexemes, l.magnitude < Number.limit) ∧
      ∀ vs, polish.parse (polish.print (t.deriveAll vs)) = .ok (t.deriveAll vs) := by
  have read : polish.parse "(* x -3)" =
      .ok (.var .x * .const (Number.ofDigits true ['3'])) := by decide +kernel
  have small : ∀ l ∈ (Scan.ofText "(* x -3)").lexemes, l.magnitude < Number.limit := by
    decide +kernel
  exact ⟨_, read, small, (parse_print_deriveAll read).2.2 small⟩

theorem parse_digits (form : Notation) {digits : List Char} (nonempty : digits ≠ [])
    (all : ∀ c ∈ digits, c.isDigit = true) :
    form.parse (String.ofList digits) = .ok (.const (Number.ofDigits false digits)) := by
  have scan := Scan.ofText_digits nonempty all
  cases form with
  | polish =>
    have empty : String.ofList digits ≠ "" := by
      rintro same
      exact nonempty (by simpa using congrArg String.toList same)
    have opening : ∀ text, String.ofList digits = text → '(' ∉ text.toList := by
      rintro _ rfl member
      rw [String.toList_ofList] at member
      cases all _ member
    refine (Polish.parse_eq_ok_iff ..).mpr ⟨empty, ⟨?_, ?_⟩, ?_, ?_, ?_, ?_⟩
    · exact fun same => opening _ same (by decide)
    · exact fun same => opening _ same (by decide)
    · rw [scan]
    · rw [scan]
      exact Polish.Balanced.plain rfl
    · rw [scan]
      rfl
    · rintro ⟨-, ⟨⟩⟩
  | reversePolish =>
    rw [parse, ReversePolish.parse, scan]
    rfl

theorem digits_not_reread (form : Notation) {digits : List Char} (nonempty : digits ≠ [])
    (all : ∀ c ∈ digits, c.isDigit = true) (large : Number.limit ≤ Nat.ofDigitChars 10 digits 0) :
    ∃ t, form.parse (String.ofList digits) = .ok t ∧
      form.parse (form.print t) = .error (.illegalSymbol 'i' 0) := by
  refine ⟨_, parse_digits form nonempty all, ?_⟩
  rw [Number.ofDigits_of_limit_le false large]
  cases form with
  | polish => decide +kernel
  | reversePolish => decide +kernel

def nines : String := String.ofList (List.replicate 309 '9')

theorem nines_not_reread :
    (∃ t, polish.parse nines = .ok t ∧
      polish.parse (polish.print t) = .error (.illegalSymbol 'i' 0)) ∧
    (∃ t, reversePolish.parse nines = .ok t ∧
      reversePolish.parse (reversePolish.print t) = .error (.illegalSymbol 'i' 0)) := by
  have nonempty : List.replicate 309 '9' ≠ [] := by decide
  have all : ∀ c ∈ List.replicate 309 '9', c.isDigit = true := by
    intro c member
    rw [List.eq_of_mem_replicate member]
    rfl
  have large : Number.limit ≤ Nat.ofDigitChars 10 (List.replicate 309 '9') 0 := by decide +kernel
  exact ⟨digits_not_reread .polish nonempty all large,
    digits_not_reread .reversePolish nonempty all large⟩

end Notation

end Trivariate
