import Mathlib
import Trivariate.Proofs.Scan.Lossless

/-! When tokens may be written without a space between them. Digits behind a number, digits behind a
minus and a `2` behind `atan` would become a part of what stands before them. Main statement: these
are the only pairs that need a space, and where one of them lacks it the scan does not give the
tokens back. -/
namespace Trivariate

open String (utf8Len)

variable {κ : Type}

namespace Token

def merges (numeral : κ → String) : Token κ → Token κ → Bool
  | .number _, .number k => (numeral k).toList.head?.any Char.isDigit
  | .binary .sub, .number k => (numeral k).toList.head?.any Char.isDigit
  | .unary .atan, .number k => (numeral k).toList.head? = some '2'
  | _, _ => false

theorem exists_number_of_digit {numeral : κ → String} {u : Token κ} {c : Char}
    (head : (u.write numeral).head? = some c) (digit : c.isDigit = true) : ∃ k, u = .number k := by
  cases u with
  | number k => exact ⟨k, rfl⟩
  | var v => cases v <;> cases head <;> cases digit
  | unary op => cases op <;> cases head <;> cases digit
  | binary op => cases op <;> cases head <;> cases digit
  | opening => cases head; cases digit
  | closing => cases head; cases digit

theorem isDigit_of_takesUp {t : Token κ} {c : Char} (taken : t.TakesUp c) : c.isDigit = true := by
  by_contra other
  exact apart_of_clear t (clear_cons (Bool.eq_false_iff.mpr other) []) c rfl taken

theorem merges_iff (numeral : κ → String) (t u : Token κ) :
    t.merges numeral u = true ↔ ∃ c, (u.write numeral).head? = some c ∧ t.TakesUp c := by
  constructor
  · intro merging
    unfold merges at merging
    split at merging
    · exact (Option.any_eq_true ..).mp merging
    · exact (Option.any_eq_true ..).mp merging
    · exact ⟨'2', of_decide_eq_true merging, rfl⟩
    · cases merging
  · rintro ⟨c, head, taken⟩
    obtain ⟨k, rfl⟩ := exists_number_of_digit head (isDigit_of_takesUp taken)
    cases t with
    | number l => exact (Option.any_eq_true ..).mpr ⟨c, head, taken⟩
    | unary op =>
      cases op with
      | atan =>
        cases taken
        exact decide_eq_true head
      | _ => exact taken.elim
    | binary op =>
      cases op with
      | sub => exact (Option.any_eq_true ..).mpr ⟨c, head, taken⟩
      | _ => exact taken.elim
    | _ => exact taken.elim

end Token

namespace Layout

/-- Every token that would merge with the one before it stands behind a space. -/
def Separated (numeral : κ → String) (ps : List (Piece κ)) : Prop :=
  ps.IsChain fun a b => a.token.merges numeral b.token = true → 0 < b.gap

instance (numeral : κ → String) (ps : List (Piece κ)) : Decidable (Separated numeral ps) :=
  inferInstanceAs (Decidable (List.IsChain _ _))

def spacedText (ps : List (Piece Float)) (trailing : Nat) : String :=
  String.ofList (text Number.write ps ++ List.replicate trailing ' ')

theorem apart_text_cons_iff (numeral : κ → String) (t : Token κ) {piece : Piece κ}
    (nonempty : piece.token.write numeral ≠ []) (ps : List (Piece κ)) (rest : List Char) :
    t.Apart (text numeral (piece :: ps) ++ rest) ↔
      (t.merges numeral piece.token = true → 0 < piece.gap) := by
  obtain ⟨gap, u⟩ := piece
  rw [text_cons]
  cases gap with
  | zero =>
    rw [Token.merges_iff, List.replicate_zero, List.nil_append, List.append_assoc, Token.Apart,
      List.head?_append_of_ne_nil _ nonempty]
    simp
  | succ gap =>
    have behind := Token.apart_of_clear t (@clear_cons ' ' rfl
      (List.replicate gap ' ' ++ (u.write numeral ++ text numeral ps) ++ rest))
    exact iff_of_true behind fun _ => Nat.succ_pos gap

theorem clear_spaces (n : Nat) : Clear (List.replicate n ' ') := by
  cases n with
  | zero => exact clear_nil
  | succ n => exact @clear_cons ' ' rfl _

theorem spaced_iff_separated {ps : List (Piece Float)}
    (integral : ∀ piece ∈ ps, piece.token.Integral) (trailing : Nat) :
    Spaced Number.write ps (List.replicate trailing ' ') ↔ Separated Number.write ps := by
  induction ps with
  | nil => simp [Spaced, Separated]
  | cons piece ps ih =>
    have later := ih fun piece member => integral piece (by simp [member])
    cases ps with
    | nil =>
      have last := Token.apart_of_clear piece.token (clear_spaces trailing)
      exact iff_of_true ⟨last, trivial⟩ (List.isChain_singleton piece)
    | cons next ps =>
      have nonempty := (Token.spelling_write (integral next (by simp))).ne_nil
      rw [Spaced, apart_text_cons_iff Number.write piece.token nonempty, later, Separated,
        Separated, List.isChain_cons_cons]

end Layout

namespace Token

theorem Spelling.eq_write {text : List Char} {t : Token Float} (spelling : Spelling text t)
    (other : ∀ k, t ≠ .number k) : text = t.write Number.write := by
  cases spelling with
  | number negative nonempty all => exact absurd rfl (other _)
  | operator op => cases op <;> rfl
  | _ => rfl

theorem Spelling.not_mem_space {text : List Char} {t : Token Float} (spelling : Spelling text t) :
    ' ' ∉ text := by
  cases spelling with
  | var v => cases v <;> decide
  | @number negative digits nonempty all =>
    intro member
    rcases List.mem_append.mp member with sign | inside
    · cases negative <;> revert sign <;> decide
    · cases all ' ' inside
  | operator op =>
    cases op with
    | unary op => cases op <;> decide
    | binary op => cases op <;> decide
  | opening => decide
  | closing => decide

theorem Spelling.takesUp_of_append {text more : List Char} {c : Char} {t : Token Float}
    (spelling : Spelling text t) (longer : Spelling (text ++ c :: more) t) : t.TakesUp c := by
  by_cases number : ∃ k, t = .number k
  · obtain ⟨k, rfl⟩ := number
    obtain ⟨negative, digits, -, same, all, -⟩ := longer.number_inv
    cases text with
    | nil => exact absurd rfl spelling.ne_nil
    | cons d text =>
      cases negative with
      | false =>
        exact all c (by rw [← List.nil_append digits]; exact same ▸ (by simp))
      | true =>
        have behind : text ++ c :: more = digits := (List.cons.inj same).2
        exact all c (by simp [← behind])
  · have other : ∀ k, t ≠ .number k := fun k same => number ⟨k, same⟩
    have same := (longer.eq_write other).trans (spelling.eq_write other).symm
    simp at same

/-- Of two spellings of a token at the front of a text, the one with nothing behind it to take up
is the longer. -/
theorem Spelling.prefix_of_apart {text word later rest : List Char} {t : Token Float}
    (spelling : Spelling text t) (other : Spelling word t) (same : text ++ later = word ++ rest)
    (apart : t.Apart later) : word <+: text := by
  rcases List.append_eq_append_iff.mp same with ⟨more, rfl, rfl⟩ | ⟨more, rfl, -⟩
  · cases more with
    | nil => simp
    | cons c more => exact absurd (spelling.takesUp_of_append other) (apart c rfl)
  · exact List.prefix_append word more

end Token

namespace Scan

theorem takenUp_of_place {t : Token Float} (integral : t.Integral) {rest : List Char} {p : Nat}
    {places : List (Nat × Token Float)}
    (found : (ofChars p (t.write Number.write ++ rest)).lexemes.map Lexeme.place =
      (p, t) :: places) :
    ∃ more later, rest = more ++ later ∧ ' ' ∉ more ∧ t.Apart later ∧
      (ofChars (p + utf8Len (t.write Number.write) + utf8Len more) later).lexemes.map
        Lexeme.place = places := by
  have written := Token.spelling_write integral
  obtain ⟨⟨text, u⟩, first⟩ := Option.ne_none_iff_exists'.mp (written.first?_ne_none rest)
  obtain ⟨spelling, later, same, apart⟩ := Token.starts_of_first? first
  rw [same, ofChars_token (spelling.first? apart)] at found
  obtain ⟨place, behind⟩ := List.cons.inj found
  obtain rfl : u = t := congrArg Prod.snd place
  obtain ⟨more, rfl⟩ := spelling.prefix_of_apart written same.symm apart
  rw [List.append_assoc, List.append_cancel_left_eq] at same
  rw [String.utf8Len_append, ← Nat.add_assoc] at behind
  exact ⟨more, later, same, fun space => spelling.not_mem_space (List.mem_append_right _ space),
    apart, behind⟩

/-- The tokens are found where they stand only if no token takes up what comes behind it. -/
theorem spaced_of_places {ps : List (Piece Float)}
    (integral : ∀ piece ∈ ps, piece.token.Integral) (trailing p : Nat)
    (found : (ofChars p (Layout.text Number.write ps ++ List.replicate trailing ' ')).lexemes.map
      Lexeme.place = (Layout.lexemes Number.write p ps).map Lexeme.place) :
    Layout.Spaced Number.write ps (List.replicate trailing ' ') := by
  induction ps generalizing p with
  | nil => trivial
  | cons piece ps ih =>
    rw [Layout.text_cons, List.append_assoc, List.append_assoc, ofChars_spaces] at found
    obtain ⟨more, later, same, visible, apart, behind⟩ :=
      takenUp_of_place (integral piece (by simp)) found
    cases more with
    | nil =>
      rw [List.nil_append] at same
      rw [← same] at apart behind
      exact ⟨apart, ih (fun piece member => integral piece (by simp [member])) _ behind⟩
    | cons c more =>
      have start : c ≠ ' ' := by
        rintro rfl
        exact visible (List.mem_cons_self ..)
      cases ps with
      | nil => exact absurd (@eq_space _ _ [] _ same) start
      | cons next ps =>
        obtain ⟨gap, u⟩ := next
        cases gap with
        | succ gap => exact absurd (List.cons.inj same).1.symm start
        | zero =>
          -- The next token would have to stand before the end of this one.
          obtain ⟨l, ls, scan, place, -⟩ := List.map_eq_cons_iff.mp behind
          have member : l ∈ l :: ls := List.mem_cons_self ..
          rw [← scan] at member
          have low := (laid_ofChars _ later).le_position l member
          have position := congrArg Prod.fst place
          have size := utf8Len_pos (List.cons_ne_nil c more)
          simp only [Lexeme.place] at position
          omega

example : (ofText "atan2 00").lexemes.map Lexeme.place =
    [(0, .binary .atan2), (6, .number 0)] := by
  decide +kernel

def crowded : List (Piece Float) :=
  [⟨0, .number 5⟩, ⟨0, .number (-3)⟩, ⟨0, .binary .sub⟩, ⟨1, .number 2⟩, ⟨0, .unary .atan⟩,
    ⟨0, .number (-2)⟩]

end Scan

end Trivariate
