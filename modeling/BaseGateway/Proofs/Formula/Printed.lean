import BaseGateway.Proofs.Formula.Grammar

/-!
# Printed formulas read back

The printer and the grammar agree: what is printed for a well-formed formula has that formula as its
only reading (`reading_iff`). A formula is well formed when the names of its fields hold no closing
brace, its numbers are numbers, its calls have names, and nothing in it is a caller's own text. What
literals hold does not matter: a literal of any characters reads back as it was.

The literals and the field references of a formula are listed in the order in which they are
written.
-/

namespace BaseGateway

namespace Grammar

/-- An operand that is printed as the grammar takes it. -/
def OperandWellFormed : Operand → Prop
  | .literal _ => True
  | .numeral s => Numeral s

mutual

/-- A formula that is printed as the grammar takes it. -/
def WellFormed : Formula → Prop
  | .literal _ => True
  | .field name => '\x7d' ∉ name
  | .call function arguments => Name function ∧ AllWellFormed arguments
  | .test name _ operand => '\x7d' ∉ name ∧ OperandWellFormed operand
  | .verbatim _ => False

def AllWellFormed : List Formula → Prop
  | [] => True
  | f :: rest => WellFormed f ∧ AllWellFormed rest

end

theorem allWellFormed_iff (fs : List Formula) : AllWellFormed fs ↔ ∀ f ∈ fs, WellFormed f := by
  induction fs with
  | nil => simp [AllWellFormed]
  | cons f rest ih => simp [AllWellFormed, ih]

/-- Doubling the quotes of any text makes it the inside of a literal. -/
theorem quoted_escapeQuotes (s : List Char) : Quoted (Formula.escapeQuotes s) s := by
  induction s with
  | nil => exact .nil
  | cons c s ih =>
    have split : Formula.escapeQuotes (c :: s) =
        (if c == '\'' then ['\'', '\''] else [c]) ++ Formula.escapeQuotes s := rfl
    rw [split]
    by_cases quote : c = '\''
    · subst quote
      exact .quote ih
    · simp only [beq_iff_eq, quote, if_false, List.singleton_append]
      exact .plain quote ih

theorem reading_operand {o : Operand} (h : OperandWellFormed o) : OperandReading o.chars o := by
  cases o with
  | literal s =>
    simp only [Operand.chars, Formula.literalChars, List.cons_append]
    exact .literal (quoted_escapeQuotes s)
  | numeral s => exact .numeral h

theorem Spaces.nil : Spaces [] := by simp [Spaces]

theorem Spaces.single : Spaces [' '] := by
  intro c mem
  rw [List.mem_singleton.mp mem]
  decide

/-- Arguments may have white space in front. -/
theorem Readings.behind_space {s : List Char} {fs : List Formula} (h : Readings s fs) :
    Readings (' ' :: s) fs := by
  have widen : ∀ {before : List Char}, Spaces before → Spaces (' ' :: before) :=
    fun left => List.forall_mem_cons.mpr ⟨by decide, left⟩
  cases h with
  | last left reading right => exact .last (widen left) reading right
  | more left reading right others => exact .more (widen left) reading right others

mutual

/-- What is printed for a well-formed formula is read as that formula. -/
theorem reading_chars : ∀ {f : Formula}, WellFormed f → Reading f.chars f
  | .literal s, _ => by
    simp only [Formula.chars, Formula.literalChars, List.cons_append]
    exact .literal (quoted_escapeQuotes s)
  | .field name, h => .field h
  | .call function [], h => by
    simpa [Formula.chars, Formula.argumentChars] using
      @Reading.bare function [] [] h.1 .nil .nil
  | .call function (f :: rest), h => by
    simpa only [Formula.chars, List.nil_append, List.append_assoc, List.cons_append] using
      @Reading.call function [] _ _ h.1 .nil (readings_argumentChars h.2 (List.cons_ne_nil _ _))
  | .test name relation operand, h => by
    simpa [Formula.chars, Formula.fieldChars] using
      Reading.test h.1 .single relation .single (reading_operand h.2)

theorem readings_argumentChars : ∀ {fs : List Formula}, AllWellFormed fs → fs ≠ [] →
    Readings (Formula.argumentChars fs) fs
  | [f], h, _ => by
    simpa [Formula.argumentChars] using
      @Readings.last [] _ [] _ .nil (reading_chars h.1) .nil
  | f :: g :: rest, h, _ => by
    simpa [Formula.argumentChars] using
      @Readings.more [] _ [] _ _ _ .nil (reading_chars h.1) .nil
        (readings_argumentChars h.2 (List.cons_ne_nil g rest)).behind_space

end

/-- What is printed for a well-formed formula is read as that formula and as nothing else. -/
theorem reading_iff {f : Formula} (h : WellFormed f) (t : Formula) :
    Reading f.chars t ↔ t = f := by
  constructor
  · intro reading
    exact reading.eq (reading_chars h)
  · rintro rfl
    exact reading_chars h

/-- Well-formed formulas are told apart by what is printed for them. -/
theorem chars_inj {f g : Formula} (hf : WellFormed f) (hg : WellFormed g)
    (same : f.chars = g.chars) : f = g := by
  have reading := reading_chars hf
  rw [same] at reading
  exact reading.eq (reading_chars hg)

end Grammar

namespace Formula

def operandLiterals : Operand → List (List Char)
  | .literal s => [s]
  | .numeral _ => []

mutual

/-- The texts of the literals of a formula, as they are written. -/
def literals : Formula → List (List Char)
  | .literal s => [s]
  | .field _ | .verbatim _ => []
  | .call _ arguments => allLiterals arguments
  | .test _ _ operand => operandLiterals operand

def allLiterals : List Formula → List (List Char)
  | [] => []
  | f :: rest => literals f ++ allLiterals rest

end

mutual

/-- The names of the fields that a formula refers to, as they are written. -/
def fields : Formula → List (List Char)
  | .literal _ | .verbatim _ => []
  | .field name => [name]
  | .call _ arguments => allFields arguments
  | .test name _ _ => [name]

def allFields : List Formula → List (List Char)
  | [] => []
  | f :: rest => fields f ++ allFields rest

end

end Formula

end BaseGateway
