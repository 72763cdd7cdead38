import Trivariate.Proofs.Scan.Layout

namespace Trivariate.Token

theorem clear_dropWhile (cs : List Char) : Clear (cs.dropWhile Char.isDigit) := by
  intro c head
  have stop := List.head?_dropWhile_not Char.isDigit cs
  rw [head] at stop
  exact stop

def Starts (cs text : List Char) (t : Token Float) : Prop :=
  Spelling text t ∧ ∃ rest, cs = text ++ rest ∧ t.Apart rest

theorem starts_letter {cs text : List Char} {t : Token Float}
    (found : letter? cs = some (text, t)) : Starts cs text t := by
  cases cs with
  | nil => cases found
  | cons c rest =>
    obtain ⟨v, letter, same⟩ := Option.map_eq_some_iff.mp found
    obtain rfl := Variable.ofChar?_eq_some_iff.mp letter
    cases same
    exact ⟨.var v, rest, rfl, nofun⟩

theorem starts_digits {cs : List Char} (negative : Bool)
    (nonempty : cs.takeWhile Char.isDigit ≠ []) :
    Starts (Number.minus negative ++ cs) (Number.minus negative ++ cs.takeWhile Char.isDigit)
      (.number (Number.ofDigits negative (cs.takeWhile Char.isDigit))) := by
  refine ⟨.number negative nonempty fun _ member => List.mem_takeWhile_imp member,
    cs.dropWhile Char.isDigit, ?_, apart_of_clear _ (clear_dropWhile cs)⟩
  rw [List.append_assoc, List.takeWhile_append_dropWhile]

theorem starts_number {cs text : List Char} {t : Token Float}
    (found : number? cs = some (text, t)) : Starts cs text t := by
  unfold number? at found
  split at found
  · split at found
    · cases found
    · rename_i nonempty
      cases found
      exact starts_digits true nonempty
  · split at found
    · cases found
    · rename_i nonempty
      cases found
      exact starts_digits false nonempty

theorem clear_of_number?_minus {rest : List Char} (none : number? ('-' :: rest) = none) :
    Clear rest := by
  intro c head
  obtain ⟨rest, rfl⟩ := List.head?_eq_some_iff.mp head
  cases digit : c.isDigit with
  | false => rfl
  | true => simp [number?, digit] at none

theorem starts_keyword {cs text : List Char} {t : Token Float}
    (found : keyword? cs = some (text, t)) : Starts cs text t := by
  obtain ⟨⟨word, op⟩, first, same⟩ := Option.map_eq_some_iff.mp found
  have listed := List.mem_of_find?_eq_some first
  obtain rfl : word = op.symbol := fst_of_mem_keywords _ listed
  have begins : op.symbol.toList.isPrefixOf cs = true :=
    List.find?_some (p := fun word : String × Operator => word.1.toList.isPrefixOf cs) first
  obtain ⟨rest, rfl⟩ := List.isPrefixOf_iff_prefix.mp begins
  cases same
  refine ⟨.operator op, rest, rfl, ?_⟩
  cases op with
  | unary op =>
    cases op with
    | atan =>
      rintro c head rfl
      obtain ⟨rest, rfl⟩ := List.head?_eq_some_iff.mp head
      have longer : some (Operator.binary .atan2) = some (.unary .atan) :=
        congrArg (Option.map Prod.snd) first
      cases longer
    | _ => exact nofun
  | binary op =>
    cases op with
    | atan2 => exact nofun
    | _ => exact absurd listed (by decide)

theorem starts_sign {cs text : List Char} {t : Token Float} (none : number? cs = none)
    (found : sign? cs = some (text, t)) : Starts cs text t := by
  unfold sign? at found
  split at found
  · cases found
  · cases found
    exact ⟨.opening, _, rfl, nofun⟩
  · cases found
    exact ⟨.closing, _, rfl, nofun⟩
  · rename_i c rest _ _
    obtain ⟨op, sign, same⟩ := Option.map_eq_some_iff.mp found
    cases same
    have symbol := BinaryOp.ofChar?_eq_some_iff.mp sign
    refine ⟨symbol ▸ .operator (.binary op), rest, rfl, ?_⟩
    cases op with
    | sub =>
      cases symbol
      exact apart_of_clear _ (clear_of_number?_minus none)
    | _ => exact nofun

theorem starts_of_first? {cs text : List Char} {t : Token Float}
    (found : first? cs = some (text, t)) : Starts cs text t := by
  simp only [first?, Option.or_eq_some_iff] at found
  rcases found with letter | ⟨-, number | ⟨none, keyword | ⟨-, sign⟩⟩⟩
  · exact starts_letter letter
  · exact starts_number number
  · exact starts_keyword keyword
  · exact starts_sign none sign

theorem first?_eq_some_iff (cs text : List Char) (t : Token Float) :
    first? cs = some (text, t) ↔ Starts cs text t := by
  constructor
  · exact starts_of_first?
  · rintro ⟨spelling, rest, rfl, apart⟩
    exact spelling.first? apart

theorem Spelling.first?_ne_none {text : List Char} {t : Token Float} (spelling : Spelling text t)
    (rest : List Char) : Token.first? (text ++ rest) ≠ none := by
  intro none
  cases spelling with
  | var v => cases v <;> cases none
  | @number negative digits nonempty all =>
    have run : (digits ++ rest).takeWhile Char.isDigit = digits ++ rest.takeWhile Char.isDigit :=
      List.takeWhile_append_of_pos all
    have longer : (digits ++ rest).takeWhile Char.isDigit ≠ [] := by simp [run, nonempty]
    have found := (first?_eq_some_iff ..).mpr (starts_digits negative longer)
    rw [List.append_assoc, found] at none
    cases none
  | operator op =>
    simp only [Token.first?, Option.or_eq_none_iff] at none
    obtain ⟨-, -, keyword, sign⟩ := none
    have other : (op.symbol, op) ∉ keywords := by
      intro listed
      have missed := List.find?_eq_none.mp (Option.map_eq_none_iff.mp keyword) _ listed
      exact missed (List.isPrefixOf_iff_prefix.mpr (List.prefix_append ..))
    cases op with
    | unary op => cases op <;> exact other (by decide)
    | binary op =>
      cases op with
      | atan2 => exact other (by decide)
      | _ => cases sign
  | opening => cases none
  | closing => cases none

theorem Spelling.number_inv {text : List Char} {k : Float} (spelling : Spelling text (.number k)) :
    ∃ negative digits, digits ≠ [] ∧ text = Number.minus negative ++ digits ∧
      (∀ c ∈ digits, c.isDigit = true) ∧ k = Number.ofDigits negative digits := by
  generalize same : Token.number k = t at spelling
  cases spelling with
  | number negative nonempty all =>
    cases same
    exact ⟨negative, _, nonempty, rfl, all, rfl⟩
  | operator op => cases op <;> cases same
  | _ => cases same

theorem first?_eq_none_iff (cs : List Char) :
    first? cs = none ↔ ∀ text t, Spelling text t → ¬ text <+: cs := by
  constructor
  · rintro none text t spelling ⟨rest, rfl⟩
    exact spelling.first?_ne_none rest none
  · intro unknown
    cases found : first? cs with
    | none => rfl
    | some m =>
      obtain ⟨spelling, rest, same, -⟩ := starts_of_first? found
      exact absurd ⟨rest, same.symm⟩ (unknown _ _ spelling)

end Trivariate.Token
