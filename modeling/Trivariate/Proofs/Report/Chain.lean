import Trivariate.Proofs.Notation.Reprint
import Trivariate.Proofs.Notation.Unique
import Trivariate.Proofs.Report.Lines

/-! Reports whose text is the expression of another run. A report is read again line by line, each
known by its heading. Main statement: if the tree on the `Prefix` line of one run is differentiated
further in a second one, that reports the same tree and the same value as a single run that
differentiates by all variables. -/
namespace Trivariate

theorem Triple.exists_ofList?_iff {α : Type} (values : List α) :
    (∃ p, ofList? values = some p) ↔ values.length = 3 := by
  constructor
  · rintro ⟨p, found⟩
    rw [← (ofList?_eq_some_iff values p).mp found]
    rfl
  · intro three
    obtain ⟨x, y, z, rfl⟩ := List.length_eq_three.mp three
    exact ⟨_, rfl⟩

namespace Report

def bodies (head report : String) : List String :=
  (report.toList.splitOn '\n').filterMap fun line =>
    ((head ++ ": ").toList.isPrefixOf? line).map String.ofList

def plain (expression : String) (form : Notation) (diff : List Variable)
    (point : Option (List Float)) : CommandLine :=
  { expression, form, point, diff, gradient := false, hessian := false }

def coordinates? : Option (List Float) → Except ReportError (Option (Triple Float))
  | none => .ok none
  | some values =>
    match Triple.ofList? values with
    | some p => .ok (some p)
    | none => .error .pointSize

def sections (diff : List Variable) (tree : Expr Float) (point : Option (Triple Float)) :
    List (String × String) :=
  (if diff = [] then []
    else [("Derivative", "d/d" ++ " d/d".intercalate (diff.map Variable.name))])
    ++ [("Postfix", Notation.reversePolish.print tree), ("Prefix", Notation.polish.print tree)]
    ++ point.toList.map fun p => ("Value", Number.write (tree.eval doubles p))

def joined (ss : List (String × String)) : String :=
  "\n".intercalate (ss.map fun s => headed id s.1 s.2)

theorem lines_plain {form : Notation} {text : String} {t : Expr Float}
    (read : form.parse text = .ok t) (diff : List Variable) (point : Option (List Float)) :
    lines id (plain text form diff point) = (coordinates? point).map fun p =>
      (sections diff (t.deriveAll diff) p).map fun s => headed id s.1 s.2 := by
  have parsed : Formula.parse (plain text form diff point).expression
      (plain text form diff point).form = .ok (.ofExpr text form t) :=
    (Formula.parse_eq_ok_iff text form _).mpr ⟨t, read, rfl⟩
  simp only [lines, parsed]
  cases point with
  | none => cases diff <;> rfl
  | some values =>
    simp only [plain, coordinates?]
    cases Triple.ofList? values with
    | none => rfl
    | some p => cases diff <;> rfl

theorem render_plain {form : Notation} {text : String} {t : Expr Float}
    (read : form.parse text = .ok t) (diff : List Variable) (point : Option (List Float)) :
    render id (plain text form diff point) =
      (coordinates? point).map fun p => joined (sections diff (t.deriveAll diff) p) := by
  rw [render, lines_plain read]
  cases coordinates? point with
  | error cause => rfl
  | ok p => rfl

theorem coordinates?_spec (point : Option (List Float)) :
    (coordinates? point = .error .pointSize ∧ ∃ values, point = some values ∧ values.length ≠ 3) ∨
      ∃ p, coordinates? point = .ok p ∧ p.map Triple.toList = point := by
  cases point with
  | none => exact Or.inr ⟨none, rfl, rfl⟩
  | some values =>
    cases three : Triple.ofList? values with
    | none =>
      refine Or.inl ⟨by rw [coordinates?, three], values, rfl, ?_⟩
      rw [Ne, ← Triple.exists_ofList?_iff, three]
      exact nofun
    | some p =>
      have listed := (Triple.ofList?_eq_some_iff values p).mp three
      exact Or.inr ⟨some p, by rw [coordinates?, three], congrArg some listed⟩

theorem append_eq_headed_iff {head head' : String} (colon : ':' ∉ head.toList)
    (colon' : ':' ∉ head'.toList) (body : String) (rest : List Char) :
    (head ++ ": ").toList ++ rest = (headed id head' body).toList ↔
      head' = head ∧ body.toList = rest := by
  have shown : (headed id head' body).toList = head'.toList ++ ':' :: ' ' :: body.toList := by
    simp [headed]
  have sought : (head ++ ": ").toList ++ rest = head.toList ++ ':' :: ' ' :: rest := by simp
  rw [shown, sought]
  constructor
  · intro same
    have stop : ∀ cs : List Char, (':' :: cs).takeWhile (· ≠ ':') = [] := fun cs => rfl
    obtain ⟨heads, bodies⟩ := append_inj_of_run (p := (· ≠ ':'))
      (fun c member => decide_eq_true fun same => colon (same ▸ member))
      (fun c member => decide_eq_true fun same => colon' (same ▸ member)) (stop _) (stop _) same
    cases bodies
    exact ⟨String.toList_inj.mp heads.symm, rfl⟩
  · rintro ⟨rfl, rfl⟩
    rfl

theorem isPrefixOf?_headed {head head' : String} (colon : ':' ∉ head.toList)
    (colon' : ':' ∉ head'.toList) (body : String) :
    (((head ++ ": ").toList.isPrefixOf? (headed id head' body).toList).map String.ofList) =
      if head' = head then some body else none := by
  by_cases same : head' = head
  · have found := List.isPrefixOf?_eq_some_iff_append_eq.mpr
      ((append_eq_headed_iff colon colon' body _).mpr ⟨same, rfl⟩)
    rw [found, if_pos same, Option.map_some, String.ofList_toList]
  · have none : (head ++ ": ").toList.isPrefixOf? (headed id head' body).toList = none := by
      rw [Option.eq_none_iff_forall_ne_some]
      intro rest found
      have split := List.isPrefixOf?_eq_some_iff_append_eq.mp found
      exact same ((append_eq_headed_iff colon colon' body rest).mp split).1
    rw [none, if_neg same]
    rfl

theorem bodies_joined {ss : List (String × String)} (nonempty : ss ≠ [])
    (headings : ∀ s ∈ ss, ':' ∉ s.1.toList)
    (lines : ∀ s ∈ ss, '\n' ∉ (headed id s.1 s.2).toList) {head : String}
    (colon : ':' ∉ head.toList) :
    bodies head (joined ss) = ss.filterMap fun s => if s.1 = head then some s.2 else none := by
  have split : (joined ss).toList.splitOn '\n' = ss.map fun s => (headed id s.1 s.2).toList := by
    have newline : "\n".toList = ['\n'] := rfl
    rw [joined, String.toList_intercalate, newline, List.map_map]
    apply List.splitOn_intercalate
    · rintro line member
      obtain ⟨s, inside, rfl⟩ := List.mem_map.mp member
      exact lines s inside
    · simpa using nonempty
  rw [bodies, split, List.filterMap_map]
  exact List.filterMap_congr fun s member => isPrefixOf?_headed colon (headings s member) s.2

example : bodies "Prefix" "Postfix: x 1 +\nPrefix: (+ x 1)" = ["(+ x 1)"] := by decide +kernel

theorem notMem_intercalate {c : Char} {separator : List Char} {words : List (List Char)}
    (outside : c ∉ separator) (others : ∀ word ∈ words, c ∉ word) :
    c ∉ separator.intercalate words := by
  induction words with
  | nil => simp
  | cons word words ih =>
    have here := others word (List.mem_cons_self ..)
    have later := ih fun word member => others word (List.mem_cons_of_mem _ member)
    cases words with
    | nil => simpa using here
    | cons next words =>
      rw [List.intercalate_cons_cons]
      simp [here, outside, later]

theorem newline_notMem_names (diff : List Variable) :
    '\n' ∉ ("d/d" ++ " d/d".intercalate (diff.map Variable.name)).toList := by
  rw [String.toList_append, String.toList_intercalate, List.mem_append]
  refine not_or.mpr ⟨by decide, notMem_intercalate (by decide) fun word member => ?_⟩
  obtain ⟨name, inside, rfl⟩ := List.mem_map.mp member
  obtain ⟨v, -, rfl⟩ := List.mem_map.mp inside
  cases v <;> decide

theorem clean_of_mem_sections {diff : List Variable} {tree : Expr Float}
    {point : Option (Triple Float)} {s : String × String} (member : s ∈ sections diff tree point) :
    ':' ∉ s.1.toList ∧ '\n' ∉ (headed id s.1 s.2).toList := by
  have clean : ∀ head body : String, ':' ∉ head.toList → '\n' ∉ head.toList → '\n' ∉ body.toList →
      ':' ∉ head.toList ∧ '\n' ∉ (headed id head body).toList := by
    intro head body colon outside inside
    exact ⟨colon, by simp [headed, outside, inside]⟩
  rw [sections, List.mem_append, List.mem_append] at member
  rcases member with (derivative | trees) | value
  · split at derivative
    · cases derivative
    · cases List.mem_singleton.mp derivative
      exact clean "Derivative" _ (by decide) (by decide) (newline_notMem_names diff)
  · simp only [List.mem_cons, List.not_mem_nil, or_false] at trees
    rcases trees with rfl | rfl
    · exact clean "Postfix" _ (by decide) (by decide) (Notation.newline_notMem_print _ tree)
    · exact clean "Prefix" _ (by decide) (by decide) (Notation.newline_notMem_print _ tree)
  · obtain ⟨p, -, rfl⟩ := List.mem_map.mp value
    exact clean "Value" _ (by decide) (by decide) (Token.newline_notMem_write (.number _))

structure Tells (tree : Expr Float) (point : Option (Triple Float)) (report : String) : Prop where
  reversePolish : bodies "Postfix" report = [Notation.reversePolish.print tree]
  polish : bodies "Prefix" report = [Notation.polish.print tree]
  value : bodies "Value" report = point.toList.map fun p => Number.write (tree.eval doubles p)

theorem tells_sections (diff : List Variable) (tree : Expr Float) (point : Option (Triple Float)) :
    Tells tree point (joined (sections diff tree point)) := by
  have nonempty : sections diff tree point ≠ [] := by simp [sections]
  have behind : ∀ head : String, ':' ∉ head.toList →
      bodies head (joined (sections diff tree point)) =
        (sections diff tree point).filterMap fun s => if s.1 = head then some s.2 else none :=
    fun head => bodies_joined nonempty (fun s member => (clean_of_mem_sections member).1)
      fun s member => (clean_of_mem_sections member).2
  constructor
  all_goals
    rw [behind _ (by decide), sections]
    split <;> cases point <;> rfl

/-- The tree on the `Prefix` line of a first run on a text is the expression of a second run, which
differentiates further. That run and a single one on the text, which differentiates by all
variables, are refused alike if a point has not three coordinates, and give the same lines
otherwise. -/
def Chains (text : String) (form : Notation) (t : Expr Float) (first later : List Variable)
    (point : Option (List Float)) : Prop :=
  ∃ report q, render id (plain text form first none) = .ok report ∧
    bodies "Prefix" report = [q] ∧
    ((∃ values, point = some values ∧ values.length ≠ 3) ∧
        render id (plain q .polish later point) = .error .pointSize ∧
        render id (plain text form (first ++ later) point) = .error .pointSize ∨
      ∃ p second whole, p.map Triple.toList = point ∧
        render id (plain q .polish later point) = .ok second ∧
        render id (plain text form (first ++ later) point) = .ok whole ∧
        (∀ head ∈ ["Postfix", "Prefix", "Value"], bodies head second = bodies head whole) ∧
        Tells (t.deriveAll (first ++ later)) p whole)

theorem Tells.bodies_eq {tree : Expr Float} {point : Option (Triple Float)}
    {report report' : String} (tells : Tells tree point report) (tells' : Tells tree point report') :
    ∀ head ∈ ["Postfix", "Prefix", "Value"], bodies head report = bodies head report' := by
  intro head listed
  simp only [List.mem_cons, List.not_mem_nil, or_false] at listed
  rcases listed with rfl | rfl | rfl
  · rw [tells.reversePolish, tells'.reversePolish]
  · rw [tells.polish, tells'.polish]
  · rw [tells.value, tells'.value]

/-- A text whose constants are finite can be differentiated in two runs as well as in one. -/
theorem chains_of_parse {form : Notation} {text : String} {t : Expr Float}
    (read : form.parse text = .ok t) (finite : ∀ k ∈ t.constants, Number.Finite k)
    (first later : List Variable) (point : Option (List Float)) :
    Chains text form t first later point := by
  have reread : Notation.polish.parse (Notation.polish.print (t.deriveAll first)) =
      .ok (t.deriveAll first) := by
    refine (Notation.parse_print_eq_ok_iff .polish _).mpr fun k member => ?_
    rw [(Notation.literal_of_mem_constants read member).integral_iff]
    exact Expr.finite_of_mem_deriveAll finite member
  have second := render_plain reread later point
  have whole := render_plain read (first ++ later) point
  rw [← Expr.deriveAll_append] at second
  refine ⟨_, _, render_plain read first none, (tells_sections first _ none).polish, ?_⟩
  rcases coordinates?_spec point with ⟨refused, short⟩ | ⟨p, three, listed⟩
  · rw [refused] at second whole
    exact Or.inl ⟨short, second, whole⟩
  · rw [three] at second whole
    have tells := tells_sections later (t.deriveAll (first ++ later)) p
    have tells' := tells_sections (first ++ later) (t.deriveAll (first ++ later)) p
    exact Or.inr ⟨p, _, _, listed, second, whole, tells.bodies_eq tells', tells'⟩

theorem product_chains :
    ∃ t, Notation.polish.parse "(* x -3)" = .ok t ∧ (∀ k ∈ t.constants, Number.Finite k) ∧
      Chains "(* x -3)" .polish t [.x] [.y] (some [1, 2, 3]) := by
  have read : Notation.polish.parse "(* x -3)" =
      .ok (.var .x * .const (Number.ofDigits true ['3'])) := by decide +kernel
  have finite : ∀ k ∈ (.var .x * .const (Number.ofDigits true ['3']) : Expr Float).constants,
      Number.Finite k := by decide +kernel
  exact ⟨_, read, finite, chains_of_parse read finite [.x] [.y] (some [1, 2, 3])⟩

end Report

end Trivariate
