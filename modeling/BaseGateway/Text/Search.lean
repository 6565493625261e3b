/-!
# Finding, splitting and replacing

Plain searches over the characters of a text.
-/

namespace BaseGateway.Text

/-- Does `part` occur in the text? -/
def hasPart (part : List Char) : List Char → Bool
  | [] => part.isEmpty
  | c :: s => part.isPrefixOf (c :: s) || hasPart part s

/-- Does `part` occur in the text? -/
def contains (s part : String) : Bool := hasPart part.toList s.toList

/-- The pieces between the occurrences of `sep`: one more than there are occurrences. -/
def splitChars (sep : Char) : List Char → List (List Char)
  | [] => [[]]
  | c :: s =>
    if c == sep then [] :: splitChars sep s
    else match splitChars sep s with
      | [] => [[c]]
      | piece :: pieces => (c :: piece) :: pieces

/-- The pieces of a text between the occurrences of a character. -/
def split (s : String) (sep : Char) : List String :=
  (splitChars sep s.toList).map String.ofList

/-- Writes `new` in place of each occurrence of a character. -/
def replaceChars (old : Char) (new s : List Char) : List Char :=
  s.flatMap fun c => if c == old then new else [c]

/-- Writes every line end as a line feed: a carriage return, with a line feed behind it or without,
ends a line too. -/
def plainLineEnds : List Char → List Char
  | [] => []
  | '\r' :: '\n' :: s => '\n' :: plainLineEnds s
  | c :: s => (if c == '\r' then '\n' else c) :: plainLineEnds s

theorem hasPart_iff {part s : List Char} : hasPart part s = true ↔ part <:+: s := by
  induction s with
  | nil => simp [hasPart]
  | cons c s ih =>
    rw [hasPart, Bool.or_eq_true, List.isPrefixOf_iff_prefix, ih, List.infix_cons_iff]

theorem contains_iff {s part : String} : contains s part = true ↔ part.toList <:+: s.toList :=
  hasPart_iff

theorem splitChars_ne_nil (sep : Char) (s : List Char) : splitChars sep s ≠ [] := by
  cases s with
  | nil => simp [splitChars]
  | cons c s =>
    unfold splitChars
    split
    · simp
    · split <;> simp

/-- A text without the separator is one piece. -/
theorem splitChars_of_not_mem {sep : Char} {s : List Char} (h : sep ∉ s) :
    splitChars sep s = [s] := by
  induction s with
  | nil => rfl
  | cons c s ih =>
    simp only [List.mem_cons, not_or] at h
    have differ : (c == sep) = false := by simp [Ne.symm h.1]
    simp [splitChars, differ, ih h.2]

/-- The first piece ends at the first separator. -/
theorem splitChars_append {sep : Char} {a : List Char} (h : sep ∉ a) (s : List Char) :
    splitChars sep (a ++ sep :: s) = a :: splitChars sep s := by
  induction a with
  | nil => simp [splitChars]
  | cons c a ih =>
    simp only [List.mem_cons, not_or] at h
    have differ : (c == sep) = false := by simp [Ne.symm h.1]
    simp [splitChars, differ, ih h.2]

/-- The first piece is what stands before the first separator. -/
theorem splitChars_begins (sep : Char) (s : List Char) :
    ∃ pieces, splitChars sep s = s.takeWhile (· != sep) :: pieces := by
  induction s with
  | nil => exact ⟨[], rfl⟩
  | cons c s ih =>
    obtain ⟨pieces, begins⟩ := ih
    cases same : c == sep with
    | true => exact ⟨splitChars sep s, by simp [splitChars, same, bne]⟩
    | false => exact ⟨pieces, by simp [splitChars, same, bne, begins]⟩

theorem replaceChars_of_not_mem {old : Char} {new s : List Char} (h : old ∉ s) :
    replaceChars old new s = s := by
  unfold replaceChars
  induction s with
  | nil => rfl
  | cons c s ih =>
    simp only [List.mem_cons, not_or] at h
    rw [List.flatMap_cons, ih h.2, if_neg (by simp [Ne.symm h.1])]
    rfl

/-- Lines that end in line feeds stay as they are. -/
theorem plainLineEnds_eq {s : List Char} (none : '\r' ∉ s) : plainLineEnds s = s := by
  fun_induction plainLineEnds s with
  | case1 => rfl
  | case2 s ih => exact absurd List.mem_cons_self none
  | case3 c s _ ih =>
    rw [List.mem_cons, not_or] at none
    have other : (c == '\r') = false := by simpa using Ne.symm none.1
    rw [ih none.2, other, if_neg Bool.false_ne_true]

end BaseGateway.Text
