import Trivariate.Proofs.Number.Literal
import Trivariate.Proofs.Scan.Spelling

/-! A scan accounts for every character of its text. A text is laid out as lexemes behind spaces in
one way only, and the scan finds it. Main statement: the lexemes stand in the text where they say,
in order and apart from each other, all other characters up to the end of the scan are spaces, and
the character that ends it early begins no token. -/
namespace Trivariate

open String (utf8Len)

/-- From a byte offset on a text consists of lexemes, each behind nothing but spaces. Behind the
last one come spaces up to the end, or up to a character that begins no token. -/
inductive Laid : Nat → List Char → List (Lexeme Float) → Option (Char × Nat) → Prop where
  | blank (p gap : Nat) : Laid p (List.replicate gap ' ') [] none
  | stop (p gap : Nat) {c : Char} {later : List Char} : c ≠ ' ' →
      (∀ text t, Token.Spelling text t → ¬ text <+: c :: later) →
      Laid p (List.replicate gap ' ' ++ c :: later) [] (some (c, p + gap))
  | lexeme (p gap : Nat) {text later : List Char} {t : Token Float} {ls : List (Lexeme Float)}
      {stop : Option (Char × Nat)} : Token.Spelling text t → t.Apart later →
      Laid (p + gap + utf8Len text) later ls stop →
      Laid p (List.replicate gap ' ' ++ (text ++ later)) (⟨p + gap, text, t⟩ :: ls) stop

theorem Laid.space {p : Nat} {cs : List Char} {ls : List (Lexeme Float)}
    {stop : Option (Char × Nat)} (laid : Laid (p + 1) cs ls stop) : Laid p (' ' :: cs) ls stop := by
  cases laid with
  | blank _ gap => exact .blank p (gap + 1)
  | stop _ gap visible unknown =>
    rw [Nat.add_assoc, Nat.add_comm 1]
    exact .stop p (gap + 1) visible unknown
  | lexeme _ gap spelling apart later =>
    rw [Nat.add_assoc p, Nat.add_comm 1] at later ⊢
    exact .lexeme p (gap + 1) spelling apart later

theorem Scan.laid_ofChars (p : Nat) (cs : List Char) :
    Laid p cs (ofChars p cs).lexemes (ofChars p cs).stop := by
  cases cs with
  | nil =>
    rw [ofChars_nil]
    exact .blank p 0
  | cons c rest =>
    by_cases space : c = ' '
    · rw [space, ofChars_space]
      exact (laid_ofChars (p + 1) rest).space
    · cases found : Token.first? (c :: rest) with
      | none =>
        rw [ofChars_stop space found]
        exact .stop p 0 space ((Token.first?_eq_none_iff _).mp found)
      | some m =>
        obtain ⟨text, t⟩ := m
        obtain ⟨spelling, behind, same, apart⟩ := Token.starts_of_first? found
        have later := laid_ofChars (p + utf8Len text) behind
        rw [same] at found ⊢
        rw [ofChars_token found]
        exact .lexeme p 0 spelling apart later
termination_by cs.length
decreasing_by
  · simp
  · have progress := List.length_pos_iff.mpr (Token.first?_ne_nil found)
    simp only [same, List.length_append] at progress ⊢
    omega

theorem Laid.ofChars_eq {p : Nat} {cs : List Char} {ls : List (Lexeme Float)}
    {stop : Option (Char × Nat)} (laid : Laid p cs ls stop) : Scan.ofChars p cs = ⟨ls, stop⟩ := by
  induction laid with
  | blank p gap =>
    have scan := Scan.ofChars_spaces gap p []
    rwa [List.append_nil, Scan.ofChars_nil] at scan
  | stop p gap visible unknown =>
    rw [Scan.ofChars_spaces]
    exact Scan.ofChars_stop visible ((Token.first?_eq_none_iff _).mpr unknown) _
  | lexeme p gap spelling apart _ ih =>
    rw [Scan.ofChars_spaces, Scan.ofChars_token (spelling.first? apart), ih]
    rfl

theorem Scan.ofChars_eq_iff (p : Nat) (cs : List Char) (s : Scan Float) :
    ofChars p cs = s ↔ Laid p cs s.lexemes s.stop := by
  constructor
  · rintro rfl
    exact laid_ofChars p cs
  · exact Laid.ofChars_eq

def Lexeme.finish {κ : Type} (l : Lexeme κ) : Nat :=
  l.position + utf8Len l.text

/-- What a text consists of from a byte offset on, which lies between two of its characters. -/
def SuffixAt (text : String) (p : Nat) (cs : List Char) : Prop :=
  ∃ before : String, text = before ++ String.ofList cs ∧ before.utf8ByteSize = p

/-- The scan accounts for every character of the text that it comes to. -/
structure Lossless (text : String) (s : Scan Float) : Prop where
  spelled : ∀ l ∈ s.lexemes, Token.Spelling l.text l.token
  number : ∀ l ∈ s.lexemes, ∀ k, l.token = .number k →
    Number.read? (String.ofList l.text) = some k
  stands : ∀ l ∈ s.lexemes, ∃ rest, SuffixAt text l.position (l.text ++ rest) ∧ l.token.Apart rest
  ordered : s.lexemes.Pairwise fun l l' => l.position < l'.position ∧ l.finish ≤ l'.position
  blank : ∀ p c rest, SuffixAt text p (c :: rest) →
    (∀ l ∈ s.lexemes, ¬ (l.position ≤ p ∧ p < l.finish)) →
    (∀ symbol position, s.stop = some (symbol, position) → p < position) → c = ' '
  stopped : ∀ symbol position, s.stop = some (symbol, position) →
    (∀ l ∈ s.lexemes, l.finish ≤ position) ∧ ∃ rest, SuffixAt text position (symbol :: rest) ∧
      symbol ≠ ' ' ∧ ∀ word t, Token.Spelling word t → ¬ word <+: symbol :: rest

theorem utf8Len_pos {cs : List Char} (nonempty : cs ≠ []) : 0 < utf8Len cs :=
  Nat.pos_of_ne_zero (mt String.utf8Len_eq_zero.mp nonempty)

theorem suffixAt_iff (text : String) (p : Nat) (cs : List Char) :
    SuffixAt text p cs ↔ ∃ before, text.toList = before ++ cs ∧ utf8Len before = p := by
  constructor
  · rintro ⟨before, rfl, rfl⟩
    exact ⟨before.toList, by simp, String.utf8Len_toList before⟩
  · rintro ⟨before, same, rfl⟩
    refine ⟨String.ofList before, ?_, String.utf8ByteSize_ofList before⟩
    rw [← String.ofList_append, ← same, String.ofList_toList]

theorem utf8Len_behind (gap : Nat) (text cs : List Char) :
    utf8Len (List.replicate gap ' ' ++ (text ++ cs)) = gap + utf8Len text + utf8Len cs := by
  rw [String.utf8Len_append, String.utf8Len_append, utf8Len_spaces, Nat.add_assoc]

theorem append_eq_append_cons {c : Char} {as bs cs ds : List Char}
    (same : as ++ bs = cs ++ c :: ds) :
    (∃ es, as = cs ++ c :: es) ∨ ∃ es, cs = as ++ es ∧ bs = es ++ c :: ds := by
  rcases List.append_eq_append_iff.mp same with behind | ⟨es, first, second⟩
  · exact Or.inr behind
  · rcases List.cons_eq_append_iff.mp second with ⟨rfl, rfl⟩ | ⟨rest, rfl, -⟩
    · exact Or.inr ⟨[], by simpa using first.symm, rfl⟩
    · exact Or.inl ⟨rest, first⟩

theorem eq_space {gap : Nat} {c : Char} {cs ds : List Char}
    (spaces : List.replicate gap ' ' = cs ++ c :: ds) : c = ' ' := by
  have member : c ∈ cs ++ c :: ds := by simp
  rw [← spaces] at member
  exact List.eq_of_mem_replicate member

namespace Token

theorem Spelling.ne_nil {text : List Char} {t : Token Float} (spelling : Spelling text t) :
    text ≠ [] := by
  have found := spelling.first?_ne_none []
  rintro rfl
  exact found rfl

theorem Spelling.read? {text : List Char} {k : Float} (spelling : Spelling text (.number k)) :
    Number.read? (String.ofList text) = some k := by
  obtain ⟨negative, digits, nonempty, rfl, all, rfl⟩ := spelling.number_inv
  exact Number.read?_digits negative nonempty all

end Token

namespace Laid

variable {p : Nat} {cs : List Char} {ls : List (Lexeme Float)} {stop : Option (Char × Nat)}

theorem spelled (laid : Laid p cs ls stop) : ∀ l ∈ ls, Token.Spelling l.text l.token := by
  induction laid with
  | blank p gap => exact nofun
  | stop p gap visible unknown => exact nofun
  | lexeme p gap spelling apart _ ih => exact List.forall_mem_cons.mpr ⟨spelling, ih⟩

theorem stands (laid : Laid p cs ls stop) : ∀ l ∈ ls, ∃ before rest,
    cs = before ++ (l.text ++ rest) ∧ l.position = p + utf8Len before ∧ l.token.Apart rest := by
  induction laid with
  | blank p gap => exact nofun
  | stop p gap visible unknown => exact nofun
  | @lexeme p gap text later t ls stop spelling apart _ ih =>
    intro l member
    rcases List.mem_cons.mp member with rfl | behind
    · exact ⟨List.replicate gap ' ', later, rfl, by rw [utf8Len_spaces], apart⟩
    obtain ⟨before, rest, rfl, position, apart⟩ := ih l behind
    refine ⟨List.replicate gap ' ' ++ (text ++ before), rest, by simp, ?_, apart⟩
    rw [position, utf8Len_behind]
    omega

theorem le_position (laid : Laid p cs ls stop) : ∀ l ∈ ls, p ≤ l.position := by
  intro l member
  obtain ⟨before, -, -, position, -⟩ := laid.stands l member
  omega

theorem ordered (laid : Laid p cs ls stop) :
    ls.Pairwise fun l l' => l.position < l'.position ∧ l.finish ≤ l'.position := by
  induction laid with
  | blank p gap => exact .nil
  | stop p gap visible unknown => exact .nil
  | lexeme p gap spelling apart later ih =>
    refine List.pairwise_cons.mpr ⟨fun l member => ?_, ih⟩
    have behind := later.le_position l member
    have progress := utf8Len_pos spelling.ne_nil
    exact ⟨by change p + gap < l.position; omega, behind⟩

theorem blank_of_free (laid : Laid p cs ls stop) {before : List Char} {c : Char} {rest : List Char}
    (here : cs = before ++ c :: rest)
    (free : ∀ l ∈ ls, ¬ (l.position ≤ p + utf8Len before ∧ p + utf8Len before < l.finish))
    (early : ∀ symbol position, stop = some (symbol, position) → p + utf8Len before < position) :
    c = ' ' := by
  induction laid generalizing before with
  | blank p gap => exact eq_space here
  | @stop p gap d later visible unknown =>
    rcases append_eq_append_cons here with ⟨es, inside⟩ | ⟨es, rfl, -⟩
    · exact eq_space inside
    · have before := early d (p + gap) rfl
      rw [String.utf8Len_append, utf8Len_spaces] at before
      omega
  | @lexeme p gap text later t ls stop spelling apart _ ih =>
    obtain ⟨here_free, later_free⟩ := List.forall_mem_cons.mp free
    rcases append_eq_append_cons here with ⟨es, inside⟩ | ⟨es, rfl, within⟩
    · exact eq_space inside
    · rcases append_eq_append_cons within with ⟨fs, rfl⟩ | ⟨fs, rfl, behind⟩
      · -- The character is one of the lexeme, which is not free of it.
        have size := c.utf8Size_pos
        simp only [String.utf8Len_append, utf8Len_spaces, Lexeme.finish, String.utf8Len_cons]
          at here_free
        omega
      · have offset : p + utf8Len (List.replicate gap ' ' ++ (text ++ fs)) =
            p + gap + utf8Len text + utf8Len fs := by
          rw [utf8Len_behind]
          omega
        rw [offset] at later_free early
        exact ih behind later_free early

theorem stopped {symbol : Char} {position : Nat} (laid : Laid p cs ls (some (symbol, position))) :
    p ≤ position ∧ (∀ l ∈ ls, l.finish ≤ position) ∧ ∃ before rest, cs = before ++ symbol :: rest ∧
      p + utf8Len before = position ∧ symbol ≠ ' ' ∧
      ∀ word t, Token.Spelling word t → ¬ word <+: symbol :: rest := by
  generalize last : some (symbol, position) = stop at laid
  induction laid with
  | blank p gap => cases last
  | stop p gap visible unknown =>
    cases last
    exact ⟨Nat.le_add_right .., nofun, List.replicate gap ' ', _, rfl, by rw [utf8Len_spaces],
      visible, unknown⟩
  | @lexeme p gap text later t ls stop spelling apart _ ih =>
    obtain ⟨behind, finished, before, rest, rfl, position, symbol⟩ := ih last
    refine ⟨by omega, List.forall_mem_cons.mpr ⟨behind, finished⟩,
      List.replicate gap ' ' ++ (text ++ before), rest, by simp, ?_, symbol⟩
    rw [← position, utf8Len_behind]
    omega

end Laid

namespace Cursor

def item : Nat → Cursor → Option (Except ParseError (Lexeme Float))
  | 0, c => c.next.1
  | n + 1, c => item n c.next.2

def items (c : Cursor) : List (Except ParseError (Lexeme Float)) :=
  if c.failed then [] else (Scan.ofChars c.position c.rest).items

theorem read_spec (position : Nat) (cs : List Char) :
    match read position cs with
    | (none, later) => later.items = []
    | (some (.error _), later) => later.failed = true
    | (some (.ok _), later) => later.failed = false := by
  fun_induction read position cs with
  | case1 position => simp [items, Scan.items]
  | case2 position rest ih => exact ih
  | case3 position c rest visible none => rfl
  | case4 position c rest visible text token found => rfl

theorem next_items (c : Cursor) : c.next.1 = c.items.head? ∧ c.next.2.items = c.items.tail := by
  rw [next]
  cases failed : c.failed with
  | true => simp [items, failed]
  | false =>
    have here : c.items = (Scan.ofChars c.position c.rest).items := by simp [items, failed]
    have spec := read_spec c.position c.rest
    rw [here, Scan.ofChars_eq]
    generalize read c.position c.rest = taken at spec ⊢
    obtain ⟨item, later⟩ := taken
    match item with
    | none => exact ⟨rfl, spec⟩
    | some (.error place) => exact ⟨rfl, if_pos spec⟩
    | some (.ok l) => exact ⟨rfl, if_neg (Bool.eq_false_iff.mp spec)⟩

theorem item_eq (n : Nat) (c : Cursor) : c.item n = c.items[n]? := by
  induction n generalizing c with
  | zero => rw [item, c.next_items.1, List.head?_eq_getElem?]
  | succ n ih => rw [item, ih, c.next_items.2, List.getElem?_tail]

theorem item_start (text : String) (n : Nat) :
    (start text).item n = (Scan.ofText text).items[n]? :=
  item_eq n (start text)

end Cursor

/-- Asked item by item a scan comes to an end, with one error at most. It accounts for the whole
text, and no other way to lay the text out exists. -/
theorem Scan.lossless_ofText (text : String) :
    (∀ n, (Cursor.start text).item n = (ofText text).items[n]?) ∧ Lossless text (ofText text) ∧
      ∀ s, ofText text = s ↔ Laid 0 text.toList s.lexemes s.stop := by
  have laid := laid_ofChars 0 text.toList
  refine ⟨Cursor.item_start text, ⟨laid.spelled, ?_, ?_, laid.ordered, ?_, ?_⟩,
    ofChars_eq_iff 0 text.toList⟩
  · intro l member k token
    have spelling := laid.spelled l member
    rw [token] at spelling
    exact spelling.read?
  · intro l member
    obtain ⟨before, rest, same, position, apart⟩ := laid.stands l member
    rw [Nat.zero_add] at position
    exact ⟨rest, (suffixAt_iff ..).mpr ⟨before, same, position.symm⟩, apart⟩
  · intro p c rest here free early
    obtain ⟨before, same, rfl⟩ := (suffixAt_iff ..).mp here
    rw [← Nat.zero_add (utf8Len before)] at free early
    exact laid.blank_of_free same free early
  · intro symbol position stop
    rw [ofText] at stop
    rw [stop] at laid
    obtain ⟨-, finished, before, rest, same, rfl, visible, unknown⟩ := laid.stopped
    refine ⟨finished, rest, (suffixAt_iff ..).mpr ⟨before, same, ?_⟩, visible, unknown⟩
    rw [Nat.zero_add]

end Trivariate
