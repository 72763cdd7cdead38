import Trivariate.Proofs.Scan.Separation

namespace Trivariate

open String (utf8Len)

variable {κ : Type}

def Lexeme.shift (d : Nat) (l : Lexeme κ) : Lexeme κ :=
  { l with position := l.position + d }

def Scan.shift (d : Nat) (s : Scan κ) : Scan κ :=
  ⟨s.lexemes.map (Lexeme.shift d), s.stop.map fun (symbol, position) => (symbol, position + d)⟩

theorem Token.Apart.append_space {t : Token κ} {cs : List Char} (apart : t.Apart cs)
    (ds : List Char) : t.Apart (cs ++ ' ' :: ds) := by
  cases cs with
  | nil => exact Token.apart_of_clear t (@clear_cons ' ' rfl ds)
  | cons c cs => exact apart

theorem Token.Spelling.prefix_of_append_space {text cs ds : List Char} {t : Token Float}
    (spelling : Token.Spelling text t) (beginning : text <+: cs ++ ' ' :: ds) : text <+: cs := by
  obtain ⟨rest, same⟩ := beginning
  rcases append_eq_append_cons same with ⟨more, rfl⟩ | ⟨more, rfl, -⟩
  · exact absurd (by simp) spelling.not_mem_space
  · exact List.prefix_append text more

namespace Laid

variable {p : Nat} {cs ds : List Char} {ls ls' : List (Lexeme Float)} {stop : Option (Char × Nat)}

theorem shift (laid : Laid p cs ls stop) (d : Nat) :
    Laid (p + d) cs (ls.map (Lexeme.shift d))
      (stop.map fun (symbol, position) => (symbol, position + d)) := by
  induction laid with
  | blank p gap => exact .blank (p + d) gap
  | stop p gap visible unknown =>
    have moved := Laid.stop (p + d) gap visible unknown
    rwa [Nat.add_right_comm] at moved
  | @lexeme p gap text later t ls stop spelling apart _ ih =>
    rw [List.map_cons, Lexeme.shift, Nat.add_right_comm p]
    rw [Nat.add_right_comm, Nat.add_right_comm p] at ih
    exact .lexeme (p + d) gap spelling apart ih

theorem spaces {gap : Nat} (laid : Laid (p + gap) cs ls stop) :
    Laid p (List.replicate gap ' ' ++ cs) ls stop := by
  induction gap generalizing p with
  | zero => exact laid
  | succ gap ih =>
    rw [Nat.add_comm gap, ← Nat.add_assoc] at laid
    exact (ih laid).space

/-- Behind a text that is laid out to its end, and a space, the layout of another text goes on. -/
theorem joined (laid : Laid p cs ls none) (behind : Laid (p + utf8Len cs + 1) ds ls' stop) :
    Laid p (cs ++ ' ' :: ds) (ls ++ ls') stop := by
  generalize complete : none = last at laid
  induction laid with
  | blank p gap =>
    rw [utf8Len_spaces] at behind
    exact behind.space.spaces
  | stop => cases complete
  | @lexeme p gap text later t ls last spelling apart _ ih =>
    rw [utf8Len_behind, ← Nat.add_assoc, ← Nat.add_assoc] at behind
    rw [List.append_assoc, List.append_assoc, List.cons_append]
    exact .lexeme p gap spelling (apart.append_space ds) (ih behind complete)

/-- Nothing behind a space changes where a scan stops early. -/
theorem cut {place : Char × Nat} (laid : Laid p cs ls (some place)) (ds : List Char) :
    Laid p (cs ++ ' ' :: ds) ls (some place) := by
  generalize early : some place = last at laid
  induction laid with
  | blank => cases early
  | stop p gap visible unknown =>
    rw [List.append_assoc, List.cons_append]
    exact .stop p gap visible fun text t spelling beginning =>
      unknown text t spelling (spelling.prefix_of_append_space beginning)
  | lexeme p gap spelling apart _ ih =>
    rw [List.append_assoc, List.append_assoc]
    exact .lexeme p gap spelling (apart.append_space ds) (ih early)

end Laid

namespace Scan

theorem ofChars_shift (p d : Nat) (cs : List Char) : ofChars (p + d) cs = (ofChars p cs).shift d :=
  ((laid_ofChars p cs).shift d).ofChars_eq

theorem laid_ofText (text : String) :
    Laid 0 text.toList (ofText text).lexemes (ofText text).stop :=
  laid_ofChars 0 text.toList

theorem toList_joined (text text' : String) :
    (text ++ " " ++ text').toList = text.toList ++ ' ' :: text'.toList := by
  simp

theorem ofText_joined {text : String} (complete : (ofText text).stop = none) (text' : String) :
    ofText (text ++ " " ++ text') =
      ((ofText text').shift (text.utf8ByteSize + 1)).behind (ofText text).lexemes := by
  have laid := laid_ofText text
  rw [complete] at laid
  have later := laid_ofChars (0 + utf8Len text.toList + 1) text'.toList
  rw [ofText, toList_joined, (laid.joined later).ofChars_eq, Nat.add_assoc, ofChars_shift,
    String.utf8Len_toList]
  rfl

theorem ofText_cut {text : String} {place : Char × Nat} (early : (ofText text).stop = some place)
    (text' : String) : ofText (text ++ " " ++ text') = ofText text := by
  have laid := laid_ofText text
  rw [early] at laid
  rw [ofText, toList_joined, (laid.cut text'.toList).ofChars_eq, ← early]

theorem tokenize_eq (text : String) :
    tokenize text =
      match (ofText text).stop with
      | none => .ok ((ofText text).lexemes.map Lexeme.place)
      | some (symbol, position) => .error (.illegalSymbol symbol position) := by
  have lexemes : ((ofText text).lexemes.map Except.ok).mapM
      (fun item : Except ParseError (Lexeme Float) => item.map Lexeme.place) =
        .ok ((ofText text).lexemes.map Lexeme.place) := by
    rw [List.mapM_map]
    exact List.mapM_pure
  rw [tokenize, items, List.mapM_append, lexemes]
  cases (ofText text).stop with
  | none => simp
  | some place => rfl

theorem tokenize_eq_ok_iff (text : String) (places : List (Nat × Token Float)) :
    tokenize text = .ok places ↔
      (ofText text).stop = none ∧ (ofText text).lexemes.map Lexeme.place = places := by
  rw [tokenize_eq]
  cases (ofText text).stop <;> simp

theorem tokenize_eq_error_iff (text : String) (e : ParseError) :
    tokenize text = .error e ↔ ∃ symbol position,
      (ofText text).stop = some (symbol, position) ∧ e = .illegalSymbol symbol position := by
  rw [tokenize_eq]
  cases (ofText text).stop with
  | none => simp
  | some place =>
    obtain ⟨symbol, position⟩ := place
    simp [eq_comm]

/-- Across a space the tokens of two texts come one after the other, those of the second as far on
as the first text and the space take up. An error of the second is moved likewise, and an error of
the first stays the error of the whole. -/
theorem tokenize_joined (text text' : String) :
    (∀ places, tokenize text = .ok places →
      (∀ places', tokenize text' = .ok places' →
        tokenize (text ++ " " ++ text') = .ok (places ++
          places'.map fun (position, t) => (position + (text.utf8ByteSize + 1), t))) ∧
      ∀ symbol position, tokenize text' = .error (.illegalSymbol symbol position) →
        tokenize (text ++ " " ++ text') =
          .error (.illegalSymbol symbol (position + text.utf8ByteSize + 1))) ∧
    ∀ e, tokenize text = .error e → tokenize (text ++ " " ++ text') = .error e := by
  refine ⟨fun places whole => ⟨?_, ?_⟩, ?_⟩
  · intro places' whole'
    obtain ⟨complete, rfl⟩ := (tokenize_eq_ok_iff ..).mp whole
    obtain ⟨complete', rfl⟩ := (tokenize_eq_ok_iff ..).mp whole'
    rw [tokenize_eq_ok_iff, ofText_joined complete]
    refine ⟨by rw [behind, shift, complete']; rfl, ?_⟩
    rw [behind, shift, List.map_append, List.map_map, List.map_map]
    rfl
  · intro symbol position early
    obtain ⟨complete, -⟩ := (tokenize_eq_ok_iff ..).mp whole
    obtain ⟨_, _, stop, ⟨⟩⟩ := (tokenize_eq_error_iff ..).mp early
    rw [tokenize_eq_error_iff, ofText_joined complete, behind, shift, stop]
    exact ⟨symbol, _, rfl, rfl⟩
  · intro e early
    obtain ⟨symbol, position, stop, rfl⟩ := (tokenize_eq_error_iff ..).mp early
    rw [tokenize_eq_error_iff, ofText_cut stop]
    exact ⟨symbol, position, stop, rfl⟩

theorem minus_tokenize_joined :
    tokenize "x -" = .ok [(0, .var .x), (2, .binary .sub)] ∧
      tokenize "7 atan" = .ok [(0, .number 7), (2, .unary .atan)] ∧
      tokenize "7 é" = .error (.illegalSymbol 'é' 2) ∧
      tokenize "x - 7 atan" =
        .ok [(0, .var .x), (2, .binary .sub), (4, .number 7), (6, .unary .atan)] ∧
      tokenize "x - 7 é" = .error (.illegalSymbol 'é' 6) ∧
      tokenize "7 é x -" = .error (.illegalSymbol 'é' 2) := by
  have first : tokenize "x -" = .ok [(0, .var .x), (2, .binary .sub)] := by decide +kernel
  have second : tokenize "7 atan" = .ok [(0, .number 7), (2, .unary .atan)] := by decide +kernel
  have illegal : tokenize "7 é" = .error (.illegalSymbol 'é' 2) := by decide +kernel
  have joined := (tokenize_joined "x -" "7 atan").1 _ first
  have cut := (tokenize_joined "x -" "7 é").1 _ first
  exact ⟨first, second, illegal, joined.1 _ second, cut.2 _ _ illegal,
    (tokenize_joined "7 é" "x -").2 _ illegal⟩

end Scan

end Trivariate
