namespace Trivariate

inductive Variable where
  | x
  | y
  | z
deriving DecidableEq, Repr

namespace Variable

def all : List Variable := [.x, .y, .z]

def symbol : Variable → Char
  | .x => 'x'
  | .y => 'y'
  | .z => 'z'

def ofChar? : Char → Option Variable
  | 'x' => some .x
  | 'y' => some .y
  | 'z' => some .z
  | _ => none

theorem ofChar?_eq_some_iff {c : Char} {v : Variable} : ofChar? c = some v ↔ v.symbol = c := by
  constructor
  · intro found
    unfold ofChar? at found
    split at found <;> cases found <;> rfl
  · rintro rfl
    cases v <;> rfl

def name (v : Variable) : String :=
  String.singleton v.symbol

def ofName? (name : String) : Option Variable :=
  match name.toList with
  | [c] => ofChar? c
  | _ => none

def index : Variable → Nat
  | .x => 0
  | .y => 1
  | .z => 2

theorem index_lt_of_not_lt {v w : Variable} (other : v ≠ w) (notBefore : ¬ v.index < w.index) :
    w.index < v.index := by
  cases v <;> cases w <;> simp_all [index]

def insert (v : Variable) : List Variable → List Variable
  | [] => [v]
  | w :: ws =>
    if v = w then w :: ws
    else if v.index < w.index then v :: w :: ws
    else w :: insert v ws

theorem mem_insert {u v : Variable} {ws : List Variable} :
    u ∈ v.insert ws ↔ u = v ∨ u ∈ ws := by
  induction ws with
  | nil => simp [insert]
  | cons w ws ih =>
    rw [insert]
    split
    · rename_i same
      simp [same]
    · split
      · exact List.mem_cons
      · rw [List.mem_cons, ih, List.mem_cons, or_left_comm]

theorem insert_ordered (v : Variable) {ws : List Variable}
    (ordered : ws.Pairwise fun u w => u.index < w.index) :
    (v.insert ws).Pairwise fun u w => u.index < w.index := by
  induction ws with
  | nil => exact List.pairwise_singleton ..
  | cons w ws ih =>
    obtain ⟨first, later⟩ := List.pairwise_cons.mp ordered
    rw [insert]
    split
    · exact ordered
    · rename_i other
      split
      · rename_i before
        refine List.pairwise_cons.mpr ⟨fun u member => ?_, ordered⟩
        rcases List.mem_cons.mp member with rfl | behind
        · exact before
        · exact Nat.lt_trans before (first u behind)
      · rename_i notBefore
        refine List.pairwise_cons.mpr ⟨fun u member => ?_, ih later⟩
        rcases mem_insert.mp member with rfl | behind
        · exact index_lt_of_not_lt other notBefore
        · exact first u behind

end Variable

/-- One value for each variable: a point, a gradient, a row of a table. -/
structure Triple (α : Type) where
  x : α
  y : α
  z : α
deriving DecidableEq, Repr

namespace Triple

variable {α β : Type}

def get (t : Triple α) : Variable → α
  | .x => t.x
  | .y => t.y
  | .z => t.z

def ofFn (f : Variable → α) : Triple α :=
  ⟨f .x, f .y, f .z⟩

@[simp] theorem get_ofFn (f : Variable → α) (v : Variable) : (ofFn f).get v = f v := by
  cases v <;> rfl

theorem ext_get {t u : Triple α} (same : ∀ v, t.get v = u.get v) : t = u := by
  cases t
  cases u
  exact (mk.injEq ..).mpr ⟨same .x, same .y, same .z⟩

def map (f : α → β) (t : Triple α) : Triple β :=
  ofFn fun v => f (t.get v)

@[simp] theorem get_map (f : α → β) (t : Triple α) (v : Variable) :
    (t.map f).get v = f (t.get v) :=
  get_ofFn _ v

def toList (t : Triple α) : List α :=
  Variable.all.map t.get

def ofList? : List α → Option (Triple α)
  | [x, y, z] => some ⟨x, y, z⟩
  | _ => none

end Triple

end Trivariate
