import Trivariate.Proofs.Polish.Verdict
import Trivariate.Proofs.Scan.Layout

namespace Trivariate.Polish

open Token

variable {κ : Type}

/-- No parenthesis is closed before it is opened, and none stays open. -/
structure Balanced (ts : List (Token κ)) : Prop where
  covered : ∀ us, us <+: ts → closes us ≤ opens us
  equal : closes ts = opens ts

/-- The text is a text of the tree. A tree that is nothing but `x` has no text with parentheses. -/
structure Reads (text : String) (e : Expr Float) : Prop where
  nonempty : text ≠ ""
  accepted : text ≠ "(x)" ∧ text ≠ "(0)"
  complete : (Scan.ofText text).stop = none
  balanced : Balanced (Scan.ofText text).tokens
  spells : symbols (Scan.ofText text).tokens = e.preorder
  bare : ¬ ((∃ t ∈ (Scan.ofText text).tokens, t.isParen = true) ∧ e = .var .x)

theorem tokens_refused : (Scan.ofText "(x)").tokens = [.opening, .var .x, .closing] ∧
    (Scan.ofText "(0)").tokens = [.opening, .number (Number.ofDigits false ['0']), .closing] := by
  decide +kernel

theorem Balanced.plain {t : Token κ} (plain : t.isParen = false) : Balanced [t] := by
  have none_opened := opens_plain plain
  have none_closed := closes_plain plain
  constructor
  · intro us beginning
    cases us with
    | nil => exact Nat.le_refl _
    | cons u us =>
      obtain ⟨rfl, nothing⟩ := List.cons_prefix_cons.mp beginning
      rw [List.prefix_nil.mp nothing]
      omega
  · omega

theorem prefix_append_iff {vs ts us : List (Token κ)} :
    vs <+: ts ++ us ↔ vs <+: ts ∨ ∃ ws, ws <+: us ∧ vs = ts ++ ws := by
  constructor
  · intro beginning
    rcases List.prefix_or_prefix_of_prefix beginning (List.prefix_append ts us) with
      inside | ⟨ws, rfl⟩
    · exact Or.inl inside
    · exact Or.inr ⟨ws, (List.prefix_append_right_inj ts).mp beginning, rfl⟩
  · rintro (inside | ⟨ws, later, rfl⟩)
    · exact inside.trans (List.prefix_append ts us)
    · exact (List.prefix_append_right_inj ts).mpr later

theorem Balanced.append {ts us : List (Token κ)} (left : Balanced ts) (right : Balanced us) :
    Balanced (ts ++ us) := by
  have left_equal := left.equal
  have right_equal := right.equal
  constructor
  · intro vs beginning
    rcases prefix_append_iff.mp beginning with inside | ⟨ws, later, rfl⟩
    · exact left.covered vs inside
    · have cover := right.covered ws later
      rw [opens_append, closes_append]
      omega
  · rw [opens_append, closes_append]
    omega

theorem Balanced.enclosed {ts : List (Token κ)} (inner : Balanced ts) :
    Balanced (.opening :: (ts ++ [.closing])) := by
  have equal := inner.equal
  have opening : ∀ us : List (Token κ), opens (.opening :: us) = opens us + 1 ∧
      closes (.opening :: us) = closes us := by
    simp [opens, closes]
  have closing : opens [(.closing : Token κ)] = 0 ∧ closes [(.closing : Token κ)] = 1 :=
    ⟨rfl, rfl⟩
  constructor
  · intro vs beginning
    cases vs with
    | nil => exact Nat.le_refl _
    | cons v vs =>
      obtain ⟨rfl, further⟩ := List.cons_prefix_cons.mp beginning
      rw [(opening vs).1, (opening vs).2]
      rcases List.prefix_concat_iff.mp further with rfl | inside
      · rw [opens_append, closes_append]
        omega
      · have covered := inner.covered vs inside
        omega
  · rw [(opening _).1, (opening _).2, opens_append, closes_append]
    omega

theorem covered_snoc {ts : List (Token κ)} {l : Lexeme κ} (covered : closes ts ≤ opens ts)
    (clean : ∀ e, ¬ Fault ts l e) :
    closes (ts ++ [l.token]) ≤ opens (ts ++ [l.token]) := by
  by_cases closing : l.token = .closing
  · apply Nat.le_of_not_lt
    intro more
    exact clean _ (.unmatched closing more)
  · have none : closes [l.token] = 0 := by
      cases token : l.token <;> simp_all [closes]
    rw [closes_append, opens_append, none]
    omega

theorem Verdict.reads {stop : Option (Char × Nat)} {ts : List (Token κ)} {ls : List (Lexeme κ)}
    {e : Expr κ} (covered : closes ts ≤ opens ts) (verdict : Verdict stop ts ls (.ok e)) :
    stop = none ∧ (∀ us, us <+: ls.map Lexeme.token → closes (ts ++ us) ≤ opens (ts ++ us)) ∧
      Ending (ts ++ ls.map Lexeme.token) (.ok e) := by
  induction ls generalizing ts with
  | nil =>
    cases verdict with
    | ending none ending =>
      refine ⟨none, ?_, by simpa using ending⟩
      intro us beginning
      rw [List.prefix_nil.mp beginning, List.append_nil]
      exact covered
  | cons l ls ih =>
    cases verdict with
    | next clean later =>
      obtain ⟨none, inside, ending⟩ := ih (covered_snoc covered clean) later
      refine ⟨none, ?_, by simpa using ending⟩
      intro us beginning
      cases us with
      | nil => simpa using covered
      | cons u us =>
        obtain ⟨rfl, further⟩ := List.cons_prefix_cons.mp beginning
        simpa using inside us further

/-- The reader comes to the end of tokens that never close too much and begin no second tree. -/
theorem verdict_of_clean {stop : Option (Char × Nat)} {ts : List (Token κ)} {ls : List (Lexeme κ)}
    {r : Except ParseError (Expr κ)}
    (inside : ∀ us, us <+: ls.map Lexeme.token → closes (ts ++ us) ≤ opens (ts ++ us))
    (single : ¬ Begins 2 (symbols (ts ++ ls.map Lexeme.token)))
    (last : Verdict stop (ts ++ ls.map Lexeme.token) [] r) : Verdict stop ts ls r := by
  induction ls generalizing ts with
  | nil => simpa using last
  | cons l ls ih =>
    have regroup : ts ++ (l :: ls).map Lexeme.token =
        (ts ++ [l.token]) ++ ls.map Lexeme.token := by simp
    rw [regroup] at single last
    refine .next ?_ (ih ?_ single last)
    · intro fault committed
      cases committed with
      | unmatched _ more =>
        have cover := inside [l.token] (by simp)
        omega
      | second a b _ two =>
        apply single
        rw [symbols_append, two]
        exact (begins_two a b).append _
    · intro us beginning
      have cover := inside (l.token :: us) (by simpa using beginning)
      simpa using cover

theorem parse_eq_ok_iff (text : String) (e : Expr Float) :
    parse text = .ok e ↔ Reads text e := by
  have run := Reading.start.run_eq_iff (Scan.ofText text).lexemes (Scan.ofText text).stop (.ok e)
  constructor
  · intro read
    rw [parse] at read
    split at read
    · cases read
    · rename_i nonempty
      split at read
      · cases read
      · rename_i refused
        have none_read : closes ([] : List (Token Float)) ≤ opens ([] : List (Token Float)) :=
          Nat.le_refl 0
        obtain ⟨complete, covered, ending⟩ := (run.mp read).reads none_read
        cases ending with
        | tree _ closed spells bare =>
          have equal := Nat.le_antisymm (covered _ (List.prefix_refl _)) closed
          exact ⟨nonempty, not_or.mp refused, complete, ⟨covered, equal⟩, spells,
            fun both => bare ⟨List.any_eq_true.mpr both.1, both.2⟩⟩
  · rintro ⟨nonempty, accepted, complete, balanced, spells, bare⟩
    rw [parse, if_neg nonempty, if_neg (not_or.mpr accepted)]
    apply run.mpr
    rw [complete]
    have single : ¬ Begins 2 (symbols (Scan.ofText text).tokens) := by
      rw [spells, begins_preorder_iff]
      decide
    refine verdict_of_clean balanced.covered single (.ending rfl ?_)
    exact .tree e (Nat.le_of_eq balanced.equal.symm) spells
      fun both => bare ⟨List.any_eq_true.mp both.1, both.2⟩

theorem Reads.unique {text : String} {a b : Expr Float} (left : Reads text a)
    (right : Reads text b) : a = b :=
  Expr.preorder_injective (left.spells.symm.trans right.spells)

/-- The language of the reader. A text is read as a tree just when it is a text of it, and no text
is a text of two trees. -/
theorem parse_ok_iff_reads (text : String) :
    (∀ e, parse text = .ok e ↔ Reads text e) ∧ ∀ a b, Reads text a → Reads text b → a = b :=
  ⟨parse_eq_ok_iff text, fun _ _ left right => left.unique right⟩

end Trivariate.Polish
