import Trivariate.Proofs.Postorder
import Trivariate.Proofs.Scan.Layout
import Trivariate.ReversePolish

namespace Trivariate

@[simp] theorem ok_bind {ε α β : Type} (a : α) (f : α → Except ε β) : Except.ok a >>= f = f a :=
  rfl

namespace Scan

variable {κ σ : Type} {step : σ → Lexeme κ → Except ParseError σ}

theorem run_eq_ok_iff (s : Scan κ) (start last : σ) :
    s.run step start = .ok last ↔ s.stop = none ∧ s.lexemes.foldlM step start = .ok last := by
  rw [run]
  cases s.lexemes.foldlM step start with
  | error e => simp
  | ok state => cases s.stop <;> simp

theorem run_eq_error_iff (s : Scan κ) (start : σ) (e : ParseError) :
    s.run step start = .error e ↔ s.lexemes.foldlM step start = .error e ∨
      ∃ last symbol position, s.lexemes.foldlM step start = .ok last ∧
        s.stop = some (symbol, position) ∧ e = .illegalSymbol symbol position := by
  rw [run]
  cases s.lexemes.foldlM step start with
  | error e' => simp
  | ok state =>
    cases s.stop with
    | none => simp
    | some place =>
      obtain ⟨symbol, position⟩ := place
      constructor
      · rintro ⟨⟩
        exact Or.inr ⟨state, symbol, position, rfl, rfl, rfl⟩
      · rintro (refused | ⟨_, _, _, ⟨⟩, ⟨⟩, rfl⟩)
        · cases refused
        · rfl

end Scan

namespace ReversePolish

open Token

variable {κ : Type}

def spelled : List (Expr κ) → List (Token κ)
  | [] => []
  | e :: below => spelled below ++ e.postorder

theorem spelled_eq_flatMap (stack : List (Expr κ)) :
    spelled stack = stack.reverse.flatMap Expr.postorder := by
  induction stack with
  | nil => rfl
  | cons e below ih => simp [spelled, ih]

theorem mem_spelled_iff {stack : List (Expr κ)} {t : Token κ} :
    t ∈ spelled stack ↔ ∃ e ∈ stack, t ∈ e.postorder := by
  simp [spelled_eq_flatMap]

theorem spelled_injective {stack other : List (Expr κ)} (same : spelled stack = spelled other) :
    stack = other := by
  induction stack generalizing other with
  | nil =>
    cases other with
    | nil => rfl
    | cons e below => simp [spelled, Expr.postorder_ne_nil] at same
  | cons e below ih =>
    cases other with
    | nil => simp [spelled, Expr.postorder_ne_nil] at same
    | cons e' below' =>
      obtain ⟨rfl, rest⟩ := Expr.append_postorder_inj same
      rw [ih rest]

theorem eq_reverse_of_spelled {stack es : List (Expr κ)}
    (spells : spelled stack = es.flatMap Expr.postorder) : es = stack.reverse := by
  have same : spelled stack = spelled es.reverse := by
    rw [spells, spelled_eq_flatMap, List.reverse_reverse]
  rw [spelled_injective same, List.reverse_reverse]

/-- The fault of a lexeme after the tokens before it. It is a parenthesis, or an operator before
which fewer trees stand than it has operands. -/
inductive Fault (read : List (Token κ)) (l : Lexeme κ) : ParseError → Prop where
  | opening : l.token = .opening → Fault read l (.illegalSymbol '(' l.position)
  | closing : l.token = .closing → Fault read l (.illegalSymbol ')' l.position)
  | operator (op : Operator) (es : List (Expr κ)) : l.token = .ofOperator op →
      read = es.flatMap Expr.postorder → es.length < l.token.arity →
      Fault read l (.missingOperand op l.position)

def Clean (ls : List (Lexeme κ)) : Prop :=
  ∀ before l, before ++ [l] <+: ls → ∀ e, ¬ Fault (before.map Lexeme.token) l e

def FirstFault (ls : List (Lexeme κ)) (e : ParseError) : Prop :=
  ∃ before l, before ++ [l] <+: ls ∧ Clean before ∧ Fault (before.map Lexeme.token) l e

structure Reads (text : String) (e : Expr Float) : Prop where
  complete : (Scan.ofText text).stop = none
  plain : ∀ t ∈ (Scan.ofText text).tokens, t.isParen = false
  spells : ∃ es : List (Expr Float),
    (Scan.ofText text).tokens = es.flatMap Expr.postorder ++ e.postorder

/-- What is wrong with a text. A character that stops the scan comes after all lexemes. -/
inductive Refused (text : String) : ParseError → Prop where
  | fault {e : ParseError} : FirstFault (Scan.ofText text).lexemes e → Refused text e
  | lexical {symbol : Char} {position : Nat} : Clean (Scan.ofText text).lexemes →
      (Scan.ofText text).stop = some (symbol, position) →
      Refused text (.illegalSymbol symbol position)
  | blank : (∀ c ∈ text.toList, c = ' ') → Refused text .empty

theorem not_fault_operand {read : List (Token κ)} {l : Lexeme κ}
    (operand : l.token.isOperand = true) (e : ParseError) : ¬ Fault read l e := by
  intro fault
  cases fault with
  | opening token => simp [token, isOperand] at operand
  | closing token => simp [token, isOperand] at operand
  | operator op es token => cases op <;> simp [token, ofOperator, isOperand] at operand

theorem not_fault_operator (op : Operator) {stack : List (Expr κ)} {l : Lexeme κ}
    (token : l.token = .ofOperator op) (enough : l.token.arity ≤ stack.length) (e : ParseError) :
    ¬ Fault (spelled stack) l e := by
  intro fault
  cases fault with
  | opening other => cases op <;> simp [token, ofOperator] at other
  | closing other => cases op <;> simp [token, ofOperator] at other
  | operator _ es _ spells few =>
    rw [eq_reverse_of_spelled spells, List.length_reverse] at few
    omega

theorem fault_operator (op : Operator) {stack : List (Expr κ)} {l : Lexeme κ}
    (token : l.token = .ofOperator op) (few : stack.length < l.token.arity) :
    Fault (spelled stack) l (.missingOperand op l.position) :=
  .operator op stack.reverse token (spelled_eq_flatMap stack) (by rwa [List.length_reverse])

theorem Fault.unique {read : List (Token κ)} {l : Lexeme κ} {e e' : ParseError}
    (first : Fault read l e) (second : Fault read l e') : e = e' := by
  cases first with
  | opening token =>
    cases second with
    | opening => rfl
    | closing other => simp [token] at other
    | operator op _ other => cases op <;> simp [token, ofOperator] at other
  | closing token =>
    cases second with
    | opening other => simp [token] at other
    | closing => rfl
    | operator op _ other => cases op <;> simp [token, ofOperator] at other
  | operator op _ token =>
    cases second with
    | opening other => cases op <;> simp [token, ofOperator] at other
    | closing other => cases op <;> simp [token, ofOperator] at other
    | operator op' _ other => cases op <;> cases op' <;> simp_all [ofOperator]

/-- One lexeme: it is taken up and is no fault, or its fault is reported. -/
theorem step_spec (stack : List (Expr κ)) (l : Lexeme κ) :
    match step stack l with
    | .ok next => spelled next = spelled stack ++ [l.token] ∧ ∀ e, ¬ Fault (spelled stack) l e
    | .error e => Fault (spelled stack) l e := by
  obtain ⟨position, text, token⟩ := l
  cases token with
  | var v => exact ⟨rfl, not_fault_operand rfl⟩
  | number k => exact ⟨rfl, not_fault_operand rfl⟩
  | unary op =>
    cases stack with
    | nil => exact fault_operator (.unary op) rfl (by simp [arity])
    | cons a below =>
      refine ⟨?_, not_fault_operator (.unary op) rfl (by simp [arity])⟩
      simp [spelled, Expr.postorder]
  | binary op =>
    cases stack with
    | nil => exact fault_operator (.binary op) rfl (by simp [arity])
    | cons right below =>
      cases below with
      | nil => exact fault_operator (.binary op) rfl (by simp [arity])
      | cons left below =>
        refine ⟨?_, not_fault_operator (.binary op) rfl (by simp [arity])⟩
        simp [spelled, Expr.postorder]
  | opening => exact .opening rfl
  | closing => exact .closing rfl

theorem clean_nil : Clean ([] : List (Lexeme κ)) := by
  intro before l beginning
  simp at beginning

theorem Clean.snoc {ls : List (Lexeme κ)} {l : Lexeme κ} (clean : Clean ls)
    (next : ∀ e, ¬ Fault (ls.map Lexeme.token) l e) : Clean (ls ++ [l]) := by
  intro before l' beginning
  rcases List.prefix_concat_iff.mp beginning with same | inside
  · obtain ⟨rfl, last⟩ := List.append_inj' same rfl
    cases last
    exact next
  · exact clean before l' inside

theorem FirstFault.not_clean {ls : List (Lexeme κ)} {e : ParseError} (first : FirstFault ls e) :
    ¬ Clean ls := by
  obtain ⟨before, l, beginning, -, fault⟩ := first
  exact fun clean => clean before l beginning e fault

/-- From the empty stack on: the stack spells all tokens, or the first fault is reported. -/
theorem run_spec (ls : List (Lexeme κ)) :
    match ls.foldlM step [] with
    | .ok stack => spelled stack = ls.map Lexeme.token ∧ Clean ls
    | .error e => FirstFault ls e := by
  -- The lexemes are taken from the left, so the last one comes after a run over the others.
  induction ls using List.reverseRecOn with
  | nil => exact ⟨rfl, clean_nil⟩
  | append_singleton ls l ih =>
    rw [List.foldlM_append]
    cases run : ls.foldlM step [] with
    | error e =>
      rw [run] at ih
      obtain ⟨before, l', beginning, clean, fault⟩ := ih
      exact ⟨before, l', beginning.trans (List.prefix_append ..), clean, fault⟩
    | ok stack =>
      rw [run] at ih
      obtain ⟨spells, clean⟩ := ih
      have spec := step_spec stack l
      rw [ok_bind, List.foldlM_cons]
      cases stepped : step stack l with
      | error e =>
        rw [stepped, spells] at spec
        exact ⟨ls, l, List.prefix_refl _, clean, spec⟩
      | ok next =>
        rw [stepped, spells] at spec
        exact ⟨by simpa using spec.1, clean.snoc spec.2⟩

theorem run_postorder (e : Expr κ) {ls : List (Lexeme κ)}
    (spells : ls.map Lexeme.token = e.postorder) (stack : List (Expr κ)) :
    ls.foldlM step stack = .ok (e :: stack) := by
  induction e generalizing ls stack with
  | const k =>
    obtain ⟨l, rfl, token⟩ := List.map_eq_singleton_iff.mp spells
    simp [step, token]
  | var v =>
    obtain ⟨l, rfl, token⟩ := List.map_eq_singleton_iff.mp spells
    simp [step, token]
  | unary op a ih =>
    obtain ⟨operand, operator, rfl, first, last⟩ := List.map_eq_append_iff.mp spells
    obtain ⟨l, rfl, token⟩ := List.map_eq_singleton_iff.mp last
    simp [ih first, step, token]
  | binary op l r ihl ihr =>
    obtain ⟨left, others, rfl, first, rest⟩ := List.map_eq_append_iff.mp spells
    obtain ⟨right, operator, rfl, second, last⟩ := List.map_eq_append_iff.mp rest
    obtain ⟨l, rfl, token⟩ := List.map_eq_singleton_iff.mp last
    simp [ihl first, ihr second, step, token]

theorem run_spelled (stack : List (Expr κ)) {ls : List (Lexeme κ)}
    (spells : ls.map Lexeme.token = spelled stack) : ls.foldlM step [] = .ok stack := by
  induction stack generalizing ls with
  | nil => rw [List.map_eq_nil_iff.mp spells]; rfl
  | cons e below ih =>
    obtain ⟨others, last, rfl, first, second⟩ := List.map_eq_append_iff.mp spells
    rw [List.foldlM_append, ih first]
    exact run_postorder e second below

theorem run_eq_ok_iff (ls : List (Lexeme κ)) (stack : List (Expr κ)) :
    ls.foldlM step [] = .ok stack ↔ ls.map Lexeme.token = spelled stack := by
  refine ⟨fun run => ?_, run_spelled stack⟩
  have spec := run_spec ls
  rw [run] at spec
  exact spec.1.symm

theorem clean_of_run {ls : List (Lexeme κ)} {stack : List (Expr κ)}
    (run : ls.foldlM step [] = .ok stack) : Clean ls := by
  have spec := run_spec ls
  rw [run] at spec
  exact spec.2

theorem run_of_clean {ls : List (Lexeme κ)} (clean : Clean ls) :
    ∃ stack, ls.foldlM step [] = .ok stack := by
  have spec := run_spec ls
  cases run : ls.foldlM step [] with
  | error e =>
    rw [run] at spec
    exact absurd clean spec.not_clean
  | ok stack => exact ⟨stack, rfl⟩

theorem run_eq_error_iff (ls : List (Lexeme κ)) (e : ParseError) :
    ls.foldlM step [] = .error e ↔ FirstFault ls e := by
  constructor
  · intro run
    have spec := run_spec ls
    rw [run] at spec
    exact spec
  · rintro ⟨before, l, ⟨after, rfl⟩, clean, fault⟩
    obtain ⟨stack, run⟩ := run_of_clean clean
    rw [(run_eq_ok_iff before stack).mp run] at fault
    have spec := step_spec stack l
    rw [List.append_assoc, List.foldlM_append, run, ok_bind, List.singleton_append,
      List.foldlM_cons]
    cases stepped : step stack l with
    | ok next =>
      rw [stepped] at spec
      exact absurd fault (spec.2 e)
    | error e' =>
      rw [stepped] at spec
      rw [spec.unique fault]
      rfl

theorem parse_eq_ok_iff_spelled (text : String) (e : Expr Float) :
    parse text = .ok e ↔ (Scan.ofText text).stop = none ∧
      ∃ below, (Scan.ofText text).tokens = spelled (e :: below) := by
  have run : ∀ stack, (Scan.ofText text).run step [] = .ok stack ↔
      (Scan.ofText text).stop = none ∧ (Scan.ofText text).tokens = spelled stack := by
    intro stack
    rw [Scan.run_eq_ok_iff, run_eq_ok_iff, Scan.tokens]
  constructor
  · intro read
    rw [parse] at read
    cases finished : (Scan.ofText text).run step [] with
    | error refused =>
      rw [finished] at read
      cases read
    | ok stack =>
      have spells := (run stack).mp finished
      rw [finished, ok_bind] at read
      cases stack with
      | nil => cases read
      | cons e' below =>
        cases read
        exact ⟨spells.1, below, spells.2⟩
  · rintro ⟨complete, below, spells⟩
    rw [parse, (run (e :: below)).mpr ⟨complete, spells⟩]
    rfl

theorem parse_eq_ok_iff (text : String) (e : Expr Float) :
    parse text = .ok e ↔ Reads text e := by
  rw [parse_eq_ok_iff_spelled]
  constructor
  · rintro ⟨complete, below, spells⟩
    refine ⟨complete, ?_, below.reverse, ?_⟩
    · intro t member
      rw [spells] at member
      obtain ⟨_, -, inside⟩ := mem_spelled_iff.mp member
      exact Expr.not_isParen_of_mem_postorder inside
    · rw [spells, spelled, spelled_eq_flatMap]
  · rintro ⟨complete, -, es, spells⟩
    refine ⟨complete, es.reverse, ?_⟩
    rw [spells, spelled, spelled_eq_flatMap, List.reverse_reverse]

theorem Reads.unique {text : String} {a b : Expr Float} (left : Reads text a)
    (right : Reads text b) : a = b := by
  obtain ⟨es, spells⟩ := left.spells
  obtain ⟨es', spells'⟩ := right.spells
  exact (Expr.append_postorder_inj (spells.symm.trans spells')).1

theorem parse_eq_error_iff (text : String) (e : ParseError) :
    parse text = .error e ↔ Refused text e := by
  have blank : (Scan.ofText text).lexemes = [] ∧ (Scan.ofText text).stop = none ↔
      ∀ c ∈ text.toList, c = ' ' := Scan.ofChars_eq_nil_iff 0 text.toList
  constructor
  · intro refused
    rw [parse] at refused
    cases run : (Scan.ofText text).run step [] with
    | error e' =>
      rw [run] at refused
      cases refused
      rcases (Scan.run_eq_error_iff ..).mp run with
        fault | ⟨stack, symbol, position, fold, stop, rfl⟩
      · exact .fault ((run_eq_error_iff ..).mp fault)
      · exact .lexical (clean_of_run fold) stop
    | ok stack =>
      obtain ⟨complete, fold⟩ := (Scan.run_eq_ok_iff ..).mp run
      rw [run, ok_bind] at refused
      cases stack with
      | nil =>
        cases refused
        rw [run_eq_ok_iff] at fold
        exact .blank (blank.mp ⟨List.map_eq_nil_iff.mp fold, complete⟩)
      | cons e' below => cases refused
  · intro refused
    rw [parse]
    cases refused with
    | fault first =>
      rw [(Scan.run_eq_error_iff ..).mpr (Or.inl ((run_eq_error_iff ..).mpr first))]
      rfl
    | @lexical symbol position clean stop =>
      obtain ⟨stack, fold⟩ := run_of_clean clean
      rw [(Scan.run_eq_error_iff ..).mpr (Or.inr ⟨stack, symbol, position, fold, stop, rfl⟩)]
      rfl
    | blank spaces =>
      obtain ⟨empty, complete⟩ := blank.mpr spaces
      have fold : (Scan.ofText text).lexemes.foldlM step [] = .ok [] := by
        rw [empty]
        rfl
      rw [(Scan.run_eq_ok_iff ..).mpr ⟨complete, fold⟩]
      rfl

/-- What becomes of a text. It is read as the last of the trees that its tokens spell one after
another, it is refused for the first fault, or there is nothing in it to read. -/
theorem parse_ok_iff_and_error_iff (text : String) :
    (∀ e, parse text = .ok e ↔ Reads text e) ∧
      (∀ a b, Reads text a → Reads text b → a = b) ∧
      (∀ e, parse text = .error e ↔ Refused text e) ∧
      (parse text = .error .empty ↔ ∀ c ∈ text.toList, c = ' ') := by
  refine ⟨parse_eq_ok_iff text, fun _ _ left right => left.unique right,
    parse_eq_error_iff text, ?_⟩
  rw [parse_eq_error_iff]
  constructor
  · intro refused
    cases refused with
    | fault first =>
      obtain ⟨_, _, _, _, fault⟩ := first
      cases fault
    | blank spaces => exact spaces
  · exact .blank

example : parse "x y z -" = .ok (.var .y - .var .z) := by
  decide +kernel

end ReversePolish

end Trivariate
