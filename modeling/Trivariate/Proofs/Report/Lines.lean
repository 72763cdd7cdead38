import Trivariate.Proofs.Formula.Coherence
import Trivariate.Report

namespace Trivariate

theorem Triple.ofList?_eq_some_iff {α : Type} (values : List α) (p : Triple α) :
    ofList? values = some p ↔ p.toList = values := by
  constructor
  · intro three
    unfold ofList? at three
    split at three
    · cases three
      rfl
    · cases three
  · rintro rfl
    rfl

namespace Report

def linesAt (style : Style) (c : CommandLine) (tree base : Expr Float) (p : Triple Float) :
    List String :=
  treeLines style c tree
    ++ [headed style "Value" (Number.write (tree.eval doubles p))]
    ++ (if c.gradient then
        [headed style "Gradient" (bracketed (Variable.all.map fun v =>
          Number.write ((base.derivative v).eval doubles p)))]
      else [])
    ++ (if c.hessian then
        [headed style "Hessian" (bracketed (Variable.all.map fun v =>
          bracketed (Variable.all.map fun w =>
            Number.write (((base.derivative v).derivative w).eval doubles p))))]
      else [])

/-- The text is a report on the expression of the command line, differentiated as it asks for. The
tree that gradient and Hessian belong to is a parameter. -/
def Reports (style : Style) (c : CommandLine) (values : List Float)
    (base : Expr Float → Expr Float) (text : String) : Prop :=
  ∃ t p, c.form.parse c.expression = .ok t ∧ p.toList = values ∧
    text = "\n".intercalate (linesAt style c (t.deriveAll c.diff) (base t) p)

theorem numbers_eq (t : Triple Float) :
    numbers t = bracketed (Variable.all.map fun v => Number.write (t.get v)) := by
  rw [numbers, Triple.toList, List.map_map]
  rfl

theorem pointLines_ofExpr (style : Style) (c : CommandLine) (source : String) (form : Notation)
    (t tree : Expr Float) (p : Triple Float) :
    treeLines style c tree ++ pointLines style c (.ofExpr source form t) tree p =
      linesAt style c tree t p := by
  have coherent := Formula.coherent_ofExpr source form t
  have rows : ((Formula.ofExpr source form t).hessian doubles p).toList.map numbers =
      Variable.all.map fun v => bracketed (Variable.all.map fun w =>
        Number.write (((t.derivative v).derivative w).eval doubles p)) := by
    simp only [Triple.toList, List.map_map, Function.comp_def, numbers_eq, Formula.hessian_get,
      coherent.second]
    rfl
  have slopes : numbers ((Formula.ofExpr source form t).gradient doubles p) =
      bracketed (Variable.all.map fun v => Number.write ((t.derivative v).eval doubles p)) := by
    simp only [numbers_eq, Formula.gradient_get, coherent.first]
    rfl
  rw [pointLines, rows, slopes, linesAt, List.append_assoc, List.append_assoc, List.append_assoc]

theorem lines_eq_ok_iff {c : CommandLine} {values : List Float} (point : c.point = some values)
    (style : Style) (ls : List String) :
    lines style c = .ok ls ↔ ∃ t p, c.form.parse c.expression = .ok t ∧ p.toList = values ∧
      ls = linesAt style c (t.deriveAll c.diff) t p := by
  constructor
  · intro done
    unfold lines at done
    split at done
    · cases done
    · rename_i f parsed
      obtain ⟨t, read, rfl⟩ := (Formula.parse_eq_ok_iff ..).mp parsed
      simp only [point] at done
      split at done
      · cases done
      · rename_i p three
        cases done
        exact ⟨t, p, read, (Triple.ofList?_eq_some_iff values p).mp three,
          pointLines_ofExpr style c c.expression c.form t (t.deriveAll c.diff) p⟩
  · rintro ⟨t, p, read, three, rfl⟩
    have parsed := (Formula.parse_eq_ok_iff c.expression c.form _).mpr ⟨t, read, rfl⟩
    have coordinates := (Triple.ofList?_eq_some_iff values p).mpr three
    rw [← pointLines_ofExpr style c c.expression c.form]
    simp only [lines, parsed, point, coordinates]
    rfl

theorem render_eq_ok_iff (style : Style) (c : CommandLine) (text : String) :
    render style c = .ok text ↔ ∃ ls, lines style c = .ok ls ∧ text = "\n".intercalate ls := by
  rw [render]
  cases lines style c with
  | error cause => simp [Except.map]
  | ok ls => simp [Except.map, eq_comm]

theorem linesAt_congr (style : Style) {c : CommandLine}
    (without : c.gradient = false ∧ c.hessian = false) (tree base base' : Expr Float) (p : Triple Float) :
    linesAt style c tree base p = linesAt style c tree base' p := by
  simp only [linesAt, without.1, without.2, Bool.false_eq_true, if_false]

/-- A report at a point is about two trees. They are the same tree if nothing is differentiated, and
the second one does not show if neither gradient nor Hessian is asked for. -/
theorem render_eq_ok_iff_reports {c : CommandLine} {values : List Float}
    (point : c.point = some values) (style : Style) (text : String) :
    (render style c = .ok text ↔ Reports style c values id text) ∧
      (c.diff = [] ∨ (c.gradient = false ∧ c.hessian = false) →
        (render style c = .ok text ↔ Reports style c values (·.deriveAll c.diff) text)) := by
  have exact : render style c = .ok text ↔ Reports style c values id text := by
    rw [render_eq_ok_iff]
    constructor
    · rintro ⟨ls, done, rfl⟩
      obtain ⟨t, p, read, three, rfl⟩ := (lines_eq_ok_iff point style ls).mp done
      exact ⟨t, p, read, three, rfl⟩
    · rintro ⟨t, p, read, three, rfl⟩
      exact ⟨_, (lines_eq_ok_iff point style _).mpr ⟨t, p, read, three, rfl⟩, rfl⟩
  refine ⟨exact, ?_⟩
  rintro (plain | without)
  · have same : (fun t : Expr Float => t.deriveAll c.diff) = id := by
      funext t
      rw [plain]
      rfl
    rw [same]
    exact exact
  · rw [exact]
    exact exists₂_congr fun t p => by rw [linesAt_congr style without _ (id t) (t.deriveAll c.diff)]

def square : CommandLine where
  expression := "(* x x)"
  form := .polish
  point := some [3, 0, 0]
  diff := [.x]
  gradient := true
  hessian := false

def squareLines : String :=
  "Derivative: d/dx\nPostfix: 1 x * x 1 * +\nPrefix: (+ (* 1 x) (* x 1))\nValue: 6"

theorem render_square :
    render id square = .ok (squareLines ++ "\nGradient: [6, 0, 0]") := by
  decide +kernel

theorem square_render_eq_ok_iff_reports :
    square.point = some [3, 0, 0] ∧
      Reports id square [3, 0, 0] id (squareLines ++ "\nGradient: [6, 0, 0]") ∧
      Reports id { square with gradient := false } [3, 0, 0] (·.deriveAll [.x]) squareLines := by
  have short : render id { square with gradient := false } = .ok squareLines := by
    decide +kernel
  exact ⟨rfl, (render_eq_ok_iff_reports rfl id _).1.mp render_square,
    ((render_eq_ok_iff_reports rfl id _).2 (Or.inr ⟨rfl, rfl⟩)).mp short⟩

/-- The tree on the lines is twice a number, whose derivative is 2 and not 6. -/
theorem square_not_reports : ¬ ∀ (c : CommandLine) (values : List Float) (text : String),
    c.point = some values → render id c = .ok text →
      Reports id c values (·.deriveAll c.diff) text := by
  intro all
  obtain ⟨t, p, read, three, text⟩ := all square [3, 0, 0] _ rfl render_square
  have tree : square.form.parse square.expression = .ok (.var .x * .var .x) := by decide +kernel
  rw [tree] at read
  cases read
  obtain ⟨x, y, z⟩ := p
  cases three
  revert text
  decide +kernel

end Report

end Trivariate
