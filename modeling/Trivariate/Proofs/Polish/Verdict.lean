import Mathlib
import Trivariate.Proofs.Polish.Stack

/-! What becomes of a text that is read operator first. The lexemes are gone through one by one,
and the first that commits a fault decides. Without a fault the symbols and the parentheses as a
whole do. The reader gives exactly this verdict. -/
namespace Trivariate.Polish

open Token

variable {κ : Type}

def opens (ts : List (Token κ)) : Nat :=
  ts.countP fun t => t matches .opening

def closes (ts : List (Token κ)) : Nat :=
  ts.countP fun t => t matches .closing

/-- The fault of a lexeme after the tokens before it. It closes a parenthesis that was never
opened, or it is the operand that completes a second tree. -/
inductive Fault (read : List (Token κ)) (l : Lexeme κ) : ParseError → Prop where
  | unmatched : l.token = .closing → opens (read ++ [l.token]) < closes (read ++ [l.token]) →
      Fault read l (.unmatchedClosing l.position)
  | second (a b : Expr κ) : l.token.isOperand = true →
      symbols (read ++ [l.token]) = a.preorder ++ b.preorder →
      Fault read l (.illegalExpression l.position)

inductive Ending (ts : List (Token κ)) : Except ParseError (Expr κ) → Prop where
  | unclosed : closes ts < opens ts →
      Ending ts (.error (.missingClosing (opens ts - closes ts)))
  | unreduced : opens ts ≤ closes ts → 1 < entries (symbols ts) →
      Ending ts (.error (.unreduced (entries (symbols ts))))
  | nothing : opens ts ≤ closes ts → symbols ts = [] → Ending ts (.error (.degenerate .nothing))
  | bareUnary (op : UnaryOp) : opens ts ≤ closes ts → symbols ts = [.unary op] →
      Ending ts (.error (.degenerate (.bareUnary op)))
  | bareBinary (op : BinaryOp) : opens ts ≤ closes ts → symbols ts = [.binary op] →
      Ending ts (.error (.degenerate (.bareBinary op)))
  | parenthesized : opens ts ≤ closes ts → symbols ts = [.var .x] → ts.any isParen = true →
      Ending ts (.error (.degenerate .parenthesizedVariable))
  | tree (e : Expr κ) : opens ts ≤ closes ts → symbols ts = e.preorder →
      ¬ (ts.any isParen = true ∧ e = .var .x) → Ending ts (.ok e)

/-- Goes through the lexemes that are left after the tokens that were read. A character that stops
the scan counts where the lexemes end. -/
inductive Verdict (stop : Option (Char × Nat)) :
    List (Token κ) → List (Lexeme κ) → Except ParseError (Expr κ) → Prop where
  | fault {read : List (Token κ)} {l : Lexeme κ} {left : List (Lexeme κ)} {e : ParseError} :
      Fault read l e → Verdict stop read (l :: left) (.error e)
  | next {read : List (Token κ)} {l : Lexeme κ} {left : List (Lexeme κ)}
      {r : Except ParseError (Expr κ)} :
      (∀ e, ¬ Fault read l e) → Verdict stop (read ++ [l.token]) left r →
        Verdict stop read (l :: left) r
  | lexical {read : List (Token κ)} {symbol : Char} {position : Nat} :
      stop = some (symbol, position) →
        Verdict stop read [] (.error (.illegalSymbol symbol position))
  | ending {read : List (Token κ)} {r : Except ParseError (Expr κ)} :
      stop = none → Ending read r → Verdict stop read [] r

theorem opens_append (ts us : List (Token κ)) : opens (ts ++ us) = opens ts + opens us :=
  List.countP_append

theorem closes_append (ts us : List (Token κ)) : closes (ts ++ us) = closes ts + closes us :=
  List.countP_append

theorem opens_plain {t : Token κ} (plain : t.isParen = false) : opens [t] = 0 := by
  cases t <;> simp_all [opens, isParen]

theorem closes_plain {t : Token κ} (plain : t.isParen = false) : closes [t] = 0 := by
  cases t <;> simp_all [closes, isParen]

theorem counts_opening (ts : List (Token κ)) :
    opens (ts ++ [.opening]) = opens ts + 1 ∧ closes (ts ++ [.opening]) = closes ts := by
  rw [opens_append, closes_append]
  exact ⟨rfl, rfl⟩

theorem counts_closing (ts : List (Token κ)) :
    opens (ts ++ [.closing]) = opens ts ∧ closes (ts ++ [.closing]) = closes ts + 1 := by
  rw [opens_append, closes_append]
  exact ⟨rfl, rfl⟩

theorem Fault.unique {read : List (Token κ)} {l : Lexeme κ} {e e' : ParseError}
    (first : Fault read l e) (second : Fault read l e') : e = e' := by
  cases first with
  | unmatched closing _ =>
    cases second with
    | unmatched => rfl
    | second _ _ operand _ => simp [closing, isOperand] at operand
  | second _ _ operand _ =>
    cases second with
    | unmatched closing _ => simp [closing, isOperand] at operand
    | second => rfl

structure Reading (ts : List (Token κ)) (s : State κ) : Prop where
  waiting : Waiting s.stack
  spells : spelled s.stack = symbols ts
  balance : s.opened + closes ts = opens ts
  parenthesized : s.parenthesized = ts.any isParen

theorem Reading.start : Reading ([] : List (Token κ)) State.start :=
  ⟨.empty, rfl, rfl, rfl⟩

theorem Reading.grow {ts : List (Token κ)} {s : State κ} (reading : Reading ts s) {t : Token κ}
    (plain : t.isParen = false) {above : List (Entry κ)} (waiting : Waiting above)
    (spells : spelled above = spelled s.stack ++ [t]) :
    Reading (ts ++ [t]) { s with stack := above } := by
  refine ⟨waiting, ?_, ?_, ?_⟩
  · rw [spells, reading.spells, symbols_append]
    simp [symbols, plain]
  · rw [opens_append, closes_append, opens_plain plain, closes_plain plain]
    exact reading.balance
  · simp [reading.parenthesized, plain]

theorem not_fault {ts : List (Token κ)} {l : Lexeme κ} (operator : l.token.isOperand = false)
    (closing : l.token ≠ .closing) (e : ParseError) : ¬ Fault ts l e := by
  intro fault
  cases fault with
  | unmatched token _ => exact closing token
  | second _ _ operand _ => rw [operator] at operand; cases operand

theorem Reading.operand_spec {ts : List (Token κ)} {s : State κ} (reading : Reading ts s)
    {l : Lexeme κ} (leaf : Expr κ) (spells : [l.token] = leaf.preorder)
    (operand : l.token.isOperand = true) :
    match s.operand l.position leaf with
    | .ok next => Reading (ts ++ [l.token]) next ∧ ∀ e, ¬ Fault ts l e
    | .error e => Fault ts l e := by
  have plain : l.token.isParen = false :=
    Expr.not_isParen_of_mem_preorder (spells ▸ List.mem_singleton_self l.token)
  have symbols_read : symbols (ts ++ [l.token]) = spelled (.operand leaf :: s.stack) := by
    rw [symbols_append, spells, Expr.symbols_preorder, ← reading.spells]
    rfl
  have loaded : Loaded (.operand leaf :: s.stack) := .operand leaf reading.waiting
  have spec := loaded.reduce_spec
  have refused := loaded.reduce_eq_error_iff
  rw [State.operand]
  cases reduced : reduce (.operand leaf :: s.stack) with
  | error o =>
    rw [reduced] at spec
    obtain ⟨a, b, two⟩ := spec.2
    exact .second a b operand (symbols_read.trans two)
  | ok above =>
    rw [reduced] at spec refused
    refine ⟨reading.grow plain spec.1 (spells ▸ spec.2), ?_⟩
    intro e fault
    cases fault with
    | unmatched closing _ => rw [closing] at operand; cases operand
    | second a b _ two =>
      obtain ⟨_, ⟨⟩⟩ := refused.mpr ⟨a, b, symbols_read.symm.trans two⟩

/-- One lexeme: the reader takes it up and it is no fault, or the reader reports its fault. -/
theorem Reading.step_spec {ts : List (Token κ)} {s : State κ} (reading : Reading ts s)
    (l : Lexeme κ) :
    match step s l with
    | .ok next => Reading (ts ++ [l.token]) next ∧ ∀ e, ¬ Fault ts l e
    | .error e => Fault ts l e := by
  obtain ⟨position, text, token⟩ := l
  have balance := reading.balance
  cases token with
  | var v => exact reading.operand_spec (.var v) rfl rfl
  | number k => exact reading.operand_spec (.const k) rfl rfl
  | unary op =>
    exact ⟨reading.grow rfl (.unary op reading.waiting) rfl, not_fault rfl nofun⟩
  | binary op =>
    exact ⟨reading.grow rfl (.binary op reading.waiting) rfl, not_fault rfl nofun⟩
  | opening =>
    obtain ⟨one_more, same⟩ := counts_opening ts
    refine ⟨⟨reading.waiting, ?_, ?_, ?_⟩, not_fault rfl nofun⟩
    · simp [reading.spells, symbols, isParen]
    · simp only [one_more, same]
      omega
    · simp [isParen]
  | closing =>
    obtain ⟨same, one_more⟩ := counts_closing ts
    simp only [step]
    by_cases none : s.opened = 0
    · rw [if_pos none]
      apply Fault.unmatched rfl
      simp only [one_more, same]
      omega
    · rw [if_neg none]
      refine ⟨⟨reading.waiting, ?_, ?_, ?_⟩, ?_⟩
      · simp [reading.spells, symbols, isParen]
      · simp only [one_more, same]
        omega
      · simp [isParen]
      · intro e fault
        cases fault with
        | unmatched _ more =>
          simp only [one_more, same] at more
          omega
        | second _ _ operand _ => cases operand

theorem finish_unreduced {s : State κ} (closed : s.opened = 0) (many : 1 < s.stack.length) :
    finish s = .error (.unreduced s.stack.length) := by
  rw [finish, if_neg (by omega)]
  split
  all_goals simp_all

theorem Reading.opened_eq_zero {ts : List (Token κ)} {s : State κ} (reading : Reading ts s)
    (closed : opens ts ≤ closes ts) : s.opened = 0 := by
  have balance := reading.balance
  omega

theorem Reading.stack_eq {ts : List (Token κ)} {s : State κ} (reading : Reading ts s)
    (entry : Entry κ) (spells : symbols ts = entry.tokens) : s.stack = [entry] :=
  reading.waiting.eq_singleton (reading.spells.trans spells)

theorem Reading.finish_of_ending {ts : List (Token κ)} {s : State κ} (reading : Reading ts s)
    {r : Except ParseError (Expr κ)} (ending : Ending ts r) : finish s = r := by
  have balance := reading.balance
  cases ending with
  | unclosed more =>
    have left : s.opened = opens ts - closes ts := by omega
    rw [finish, if_pos (by omega), left]
  | unreduced closed many =>
    rw [← reading.spells, ← reading.waiting.length_eq] at many ⊢
    exact finish_unreduced (reading.opened_eq_zero closed) many
  | nothing closed none =>
    have length := reading.waiting.length_eq
    rw [reading.spells, none] at length
    have stack : s.stack = [] :=
      List.eq_nil_of_length_eq_zero (by simpa [entries, lacking, holding] using length)
    simp [finish, reading.opened_eq_zero closed, stack]
  | bareUnary op closed single =>
    simp [finish, reading.opened_eq_zero closed, reading.stack_eq (.unary op) single]
  | bareBinary op closed single =>
    simp [finish, reading.opened_eq_zero closed, reading.stack_eq (.binary op) single]
  | parenthesized closed single parenthesis =>
    rw [← reading.parenthesized] at parenthesis
    simp [finish, reading.opened_eq_zero closed, reading.stack_eq (.operand (.var .x)) single,
      parenthesis]
  | tree e closed spells bare =>
    rw [← reading.parenthesized] at bare
    rw [finish, if_neg (by omega), reading.stack_eq (.operand e) spells]
    split
    all_goals simp_all

theorem Reading.ending_finish {ts : List (Token κ)} {s : State κ} (reading : Reading ts s) :
    Ending ts (finish s) := by
  have ⟨waiting, spells, balance, parenthesized⟩ := reading
  rw [finish]
  split
  · rename_i opened
    have left : s.opened = opens ts - closes ts := by omega
    rw [left]
    exact .unclosed (by omega)
  · have closed : opens ts ≤ closes ts := by omega
    split
    · rename_i stack
      rw [stack] at spells
      exact .nothing closed spells.symm
    · rename_i op stack
      rw [stack] at spells
      exact .bareBinary op closed spells.symm
    · rename_i op stack
      rw [stack] at spells
      exact .bareUnary op closed spells.symm
    · rename_i stack
      rw [stack] at spells
      split
      · rename_i parenthesis
        exact .parenthesized closed spells.symm (parenthesized ▸ parenthesis)
      · rename_i bare
        exact .tree _ closed spells.symm (fun both => bare (parenthesized ▸ both.1))
    · rename_i e other stack
      rw [stack] at spells
      exact .tree e closed spells.symm (fun both => other both.2)
    · rename_i noEntry noBinary noUnary _ noOperand
      have many : 1 < s.stack.length := by
        match stack : s.stack with
        | [] => exact absurd stack noEntry
        | [.binary op] => exact absurd stack (noBinary op)
        | [.unary op] => exact absurd stack (noUnary op)
        | [.operand e] => exact absurd stack (noOperand e)
        | _ :: _ :: _ => simp
      rw [waiting.length_eq, spells] at many ⊢
      exact .unreduced closed many

theorem Reading.finish_eq_iff {ts : List (Token κ)} {s : State κ} (reading : Reading ts s)
    (r : Except ParseError (Expr κ)) : finish s = r ↔ Ending ts r := by
  constructor
  · rintro rfl
    exact reading.ending_finish
  · exact reading.finish_of_ending

theorem run_cons {σ : Type} (l : Lexeme κ) (ls : List (Lexeme κ)) (stop : Option (Char × Nat))
    (step : σ → Lexeme κ → Except ParseError σ) (s : σ) :
    (⟨l :: ls, stop⟩ : Scan κ).run step s =
      match step s l with
      | .ok next => (⟨ls, stop⟩ : Scan κ).run step next
      | .error e => .error e := by
  simp only [Scan.run, List.foldlM_cons]
  cases step s l <;> rfl

theorem Reading.end_eq_iff {ts : List (Token κ)} {s : State κ} (reading : Reading ts s)
    (stop : Option (Char × Nat)) (r : Except ParseError (Expr κ)) :
    (⟨[], stop⟩ : Scan κ).run step s >>= finish = r ↔ Verdict stop ts [] r := by
  cases stop with
  | some place =>
    obtain ⟨symbol, position⟩ := place
    constructor
    · rintro rfl
      exact .lexical rfl
    · intro verdict
      cases verdict with
      | lexical same => cases same; rfl
      | ending none _ => cases none
  | none =>
    constructor
    · intro finished
      exact .ending rfl ((reading.finish_eq_iff r).mp finished)
    · intro verdict
      cases verdict with
      | lexical same => cases same
      | ending _ ending => exact (reading.finish_eq_iff r).mpr ending

/-- From any point of a text on, the reader comes to the verdict. -/
theorem Reading.run_eq_iff {ts : List (Token κ)} {s : State κ} (reading : Reading ts s)
    (ls : List (Lexeme κ)) (stop : Option (Char × Nat)) (r : Except ParseError (Expr κ)) :
    (⟨ls, stop⟩ : Scan κ).run step s >>= finish = r ↔ Verdict stop ts ls r := by
  induction ls generalizing ts s with
  | nil => exact reading.end_eq_iff stop r
  | cons l ls ih =>
    have spec := reading.step_spec l
    rw [run_cons]
    cases stepped : step s l with
    | error e =>
      rw [stepped] at spec
      constructor
      · rintro rfl
        exact .fault spec
      · intro verdict
        cases verdict with
        | fault fault => rw [fault.unique spec]; rfl
        | next clean _ => exact absurd spec (clean e)
    | ok next =>
      rw [stepped] at spec
      refine (ih spec.1).trans ⟨.next spec.2, ?_⟩
      intro verdict
      cases verdict with
      | fault fault => exact absurd fault (spec.2 _)
      | next _ later => exact later

theorem parse_eq_run {text : String} (read : text ∉ ["", "(x)", "(0)"]) :
    parse text = (Scan.ofText text).run step .start >>= finish := by
  simp only [List.mem_cons, List.not_mem_nil, or_false, not_or] at read
  rw [parse, if_neg read.1, if_neg (by simp [read.2])]

/-- The verdict on a text as a whole. -/
theorem parse_eq_iff_verdict {text : String} (read : text ∉ ["", "(x)", "(0)"])
    (r : Except ParseError (Expr Float)) :
    parse text = r ↔ Verdict (Scan.ofText text).stop [] (Scan.ofText text).lexemes r := by
  rw [parse_eq_run read]
  exact Reading.start.run_eq_iff _ _ r

theorem verdict_missing_operand : "(+ x)" ∉ ["", "(x)", "(0)"] ∧
    Verdict (Scan.ofText "(+ x)").stop [] (Scan.ofText "(+ x)").lexemes
      (.error (.unreduced 2)) := by
  have read : parse "(+ x)" = .error (.unreduced 2) := by decide +kernel
  exact ⟨by decide, (parse_eq_iff_verdict (by decide) _).mp read⟩

end Trivariate.Polish
