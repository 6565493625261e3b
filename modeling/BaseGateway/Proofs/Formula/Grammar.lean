import Mathlib.Data.List.Basic
import BaseGateway.Formula.Basic

/-!
# The grammar of filter formulas

An independent reading of formulas, by which the printed ones are measured. A literal stands between
single quotes and its only escape is the doubled quote; a reference to a field ends at the first
closing brace; a call is a name with arguments between parentheses; a reference may be followed by
a relation and a literal or a number. White space may stand between any two symbols, so that the
grammar takes more texts than the printer writes.

* a text has at most one reading (`Reading.unique`), whatever follows it, as long as what follows
  is an end, a comma or a closing parenthesis (`Stops`);
* the arguments of a call end at one place (`Readings.unique`).

No precedence, no arithmetic and no strings in double quotes are read: the printer never writes
them.
-/

namespace BaseGateway.Grammar

/-- White space. -/
def Spaces (s : List Char) : Prop := ∀ c ∈ s, c.isWhitespace = true

/-- Digits, at least one. -/
def DigitRun (s : List Char) : Prop := s ≠ [] ∧ ∀ c ∈ s, c.isDigit = true

/-- Nothing, or a point and digits. -/
inductive Fraction : List Char → Prop
  | none : Fraction []
  | some {places : List Char} (digits : DigitRun places) : Fraction ('.' :: places)

/-- Nothing, or an exponent with its sign. -/
inductive Exponent : List Char → Prop
  | none : Exponent []
  | plus {power : List Char} (digits : DigitRun power) : Exponent ('e' :: '+' :: power)
  | minus {power : List Char} (digits : DigitRun power) : Exponent ('e' :: '-' :: power)

/-- A number in decimal without a sign. -/
inductive Magnitude : List Char → Prop
  | mk {whole fraction exponent : List Char} (digits : DigitRun whole)
      (places : Fraction fraction) (power : Exponent exponent) :
      Magnitude (whole ++ fraction ++ exponent)

/-- A number in decimal. -/
inductive Numeral : List Char → Prop
  | positive {s : List Char} (magnitude : Magnitude s) : Numeral s
  | negative {s : List Char} (magnitude : Magnitude s) : Numeral ('-' :: s)

/-- What stands between the quotes of a literal, and the text that it is for. -/
inductive Quoted : List Char → List Char → Prop
  | nil : Quoted [] []
  | quote {s t : List Char} (rest : Quoted s t) : Quoted ('\'' :: '\'' :: s) ('\'' :: t)
  | plain {c : Char} {s t : List Char} (other : c ≠ '\'') (rest : Quoted s t) :
      Quoted (c :: s) (c :: t)

/-- The operand of a relation. -/
inductive OperandReading : List Char → Operand → Prop
  | literal {s t : List Char} (quoted : Quoted s t) :
      OperandReading ('\'' :: (s ++ ['\''])) (.literal t)
  | numeral {s : List Char} (number : Numeral s) : OperandReading s (.numeral s)

/-- A character of the name of a function. -/
def isNameChar (c : Char) : Bool := c.isAlpha || c == '_'

/-- The name of a function. -/
def Name (s : List Char) : Prop := s ≠ [] ∧ ∀ c ∈ s, isNameChar c = true

theorem name_iff {s : List Char} : (!s.isEmpty && s.all isNameChar) = true ↔ Name s := by
  simp [Name]

instance (s : List Char) : Decidable (Name s) := decidable_of_iff _ name_iff

mutual

/-- A text and the formula that it is read as. -/
inductive Reading : List Char → Formula → Prop
  | literal {s t : List Char} (quoted : Quoted s t) :
      Reading ('\'' :: (s ++ ['\''])) (.literal t)
  | field {name : List Char} (closed : '\x7d' ∉ name) :
      Reading ('\x7b' :: (name ++ ['\x7d'])) (.field name)
  | test {name before after s : List Char} {o : Operand} (closed : '\x7d' ∉ name)
      (left : Spaces before) (relation : Relation) (right : Spaces after)
      (operand : OperandReading s o) :
      Reading ('\x7b' :: (name ++ '\x7d' :: (before ++ (relation.chars ++ (after ++ s)))))
        (.test name relation o)
  | call {name between s : List Char} {fs : List Formula} (named : Name name)
      (spaces : Spaces between) (arguments : Readings s fs) :
      Reading (name ++ (between ++ '(' :: (s ++ [')']))) (.call name fs)
  | bare {name between inside : List Char} (named : Name name) (spaces : Spaces between)
      (empty : Spaces inside) :
      Reading (name ++ (between ++ '(' :: (inside ++ [')']))) (.call name [])

/-- The arguments of a call, at least one, and the formulas that they are read as. -/
inductive Readings : List Char → List Formula → Prop
  | last {before s after : List Char} {f : Formula} (left : Spaces before) (reading : Reading s f)
      (right : Spaces after) : Readings (before ++ (s ++ after)) [f]
  | more {before s after rest : List Char} {f : Formula} {fs : List Formula}
      (left : Spaces before) (reading : Reading s f) (right : Spaces after)
      (others : Readings rest fs) : Readings (before ++ (s ++ (after ++ ',' :: rest))) (f :: fs)

end

/-- What may follow a formula: nothing, a comma or a closing parenthesis, perhaps behind white
space. -/
def Stops (s : List Char) : Prop :=
  ∀ c, (s.dropWhile Char.isWhitespace).head? = some c → c = ',' ∨ c = ')'

/-- Two runs of a class of characters that end where the class does are the same run. -/
theorem run_unique {p : Char → Bool} {a a' x x' : List Char} (run : ∀ c ∈ a, p c = true)
    (run' : ∀ c ∈ a', p c = true) (stop : ∀ c, x.head? = some c → p c = false)
    (stop' : ∀ c, x'.head? = some c → p c = false) (same : a ++ x = a' ++ x') :
    a = a' ∧ x = x' := by
  have taken : ∀ {b y : List Char}, (∀ c ∈ b, p c = true) →
      (∀ c, y.head? = some c → p c = false) → (b ++ y).takeWhile p = b := by
    intro b y all none
    rw [List.takeWhile_append_of_pos all]
    cases y with
    | nil => simp
    | cons c y => simp [none c rfl]
  have first : a = a' := by rw [← taken run stop, same, taken run' stop']
  subst first
  exact ⟨rfl, List.append_cancel_left same⟩

theorem Stops.nil : Stops [] := by
  intro c h
  simp at h

theorem Stops.of_spaces {s t : List Char} {c : Char} (spaces : Spaces s)
    (end' : c = ',' ∨ c = ')') : Stops (s ++ c :: t) := by
  intro d h
  have solid : c.isWhitespace = false := by rcases end' with rfl | rfl <;> decide
  rw [List.dropWhile_append_of_pos spaces] at h
  simp only [List.dropWhile_cons, solid, Bool.false_eq_true, if_false, List.head?_cons,
    Option.some.injEq] at h
  exact h ▸ end'

theorem Stops.head {s : List Char} {c : Char} (stops : Stops s) (h : s.head? = some c) :
    c ∈ [' ', '\t', '\r', '\n', ',', ')'] := by
  cases s with
  | nil => simp at h
  | cons d s =>
    simp only [List.head?_cons, Option.some.injEq] at h
    subst h
    cases blank : d.isWhitespace with
    | true =>
      simp only [Char.isWhitespace, Bool.or_eq_true, decide_eq_true_eq] at blank
      simp only [List.mem_cons, List.not_mem_nil]
      tauto
    | false =>
      have last := stops d (by simp [blank])
      simp only [List.mem_cons, List.not_mem_nil]
      tauto

theorem Stops.head_ne {s : List Char} {c : Char} (stops : Stops s)
    (other : c ∉ [' ', '\t', '\r', '\n', ',', ')']) : s.head? ≠ some c :=
  fun h => other (stops.head h)

/-- A literal ends at the first quote that is not doubled. -/
theorem Quoted.unique {s s' t t' r r' : List Char} (h : Quoted s t) (h' : Quoted s' t')
    (stop : r.head? ≠ some '\'') (stop' : r'.head? ≠ some '\'')
    (same : s ++ '\'' :: r = s' ++ '\'' :: r') : s = s' ∧ t = t' := by
  induction h generalizing s' t' with
  | nil =>
    cases h' with
    | nil => exact ⟨rfl, rfl⟩
    | quote rest =>
      simp only [List.nil_append, List.cons_append, List.cons.injEq, true_and] at same
      exact absurd (by simp [same]) stop
    | plain other rest => exact absurd (List.cons.inj same).1.symm other
  | quote rest ih =>
    cases h' with
    | nil =>
      simp only [List.nil_append, List.cons_append, List.cons.injEq, true_and] at same
      exact absurd (by simp [← same]) stop'
    | quote rest' =>
      simp only [List.cons_append, List.cons.injEq, true_and] at same
      obtain ⟨rfl, rfl⟩ := ih rest' same
      exact ⟨rfl, rfl⟩
    | plain other rest' => exact absurd (List.cons.inj same).1.symm other
  | plain other rest ih =>
    cases h' with
    | nil => exact absurd (List.cons.inj same).1 other
    | quote rest' => exact absurd (List.cons.inj same).1 other
    | plain other' rest' =>
      obtain ⟨rfl, tail⟩ := List.cons.inj same
      obtain ⟨rfl, rfl⟩ := ih rest' tail
      exact ⟨rfl, rfl⟩

/-- A character that a number can hold. -/
def isNumeralChar (c : Char) : Bool := c.isDigit || ['+', '-', '.', 'e'].contains c

theorem DigitRun.isNumeralChar {s : List Char} (h : DigitRun s) :
    ∀ c ∈ s, isNumeralChar c = true := by
  intro c mem
  simp [Grammar.isNumeralChar, h.2 c mem]

theorem Fraction.isNumeralChar {s : List Char} (h : Fraction s) :
    ∀ c ∈ s, isNumeralChar c = true := by
  cases h with
  | none => simp
  | some digits => exact List.forall_mem_cons.mpr ⟨by decide, digits.isNumeralChar⟩

theorem Exponent.isNumeralChar {s : List Char} (h : Exponent s) :
    ∀ c ∈ s, isNumeralChar c = true := by
  cases h with
  | none => simp
  | plus digits | minus digits =>
    exact List.forall_mem_cons.mpr
      ⟨by decide, List.forall_mem_cons.mpr ⟨by decide, digits.isNumeralChar⟩⟩

theorem Magnitude.isNumeralChar {s : List Char} (h : Magnitude s) :
    ∀ c ∈ s, isNumeralChar c = true := by
  obtain ⟨digits, places, power⟩ := h
  simp only [List.forall_mem_append]
  exact ⟨⟨digits.isNumeralChar, places.isNumeralChar⟩, power.isNumeralChar⟩

theorem Numeral.isNumeralChar {s : List Char} (h : Numeral s) :
    ∀ c ∈ s, isNumeralChar c = true := by
  cases h with
  | positive magnitude => exact magnitude.isNumeralChar
  | negative magnitude => exact List.forall_mem_cons.mpr ⟨by decide, magnitude.isNumeralChar⟩

theorem Numeral.ne_nil {s : List Char} (h : Numeral s) : s ≠ [] := by
  cases h with
  | positive magnitude =>
    obtain ⟨digits, places, power⟩ := magnitude
    simp [digits.1]
  | negative magnitude => simp

/-- A number begins like no literal. -/
theorem Numeral.head_ne_quote {s r : List Char} (h : Numeral s) : (s ++ r).head? ≠ some '\'' := by
  cases s with
  | nil => exact absurd rfl h.ne_nil
  | cons c s =>
    simp only [List.cons_append, List.head?_cons, ne_eq, Option.some.injEq]
    rintro rfl
    exact absurd (h.isNumeralChar _ (List.mem_cons_self ..)) (by decide)

theorem Stops.not_isNumeralChar {s : List Char} (stops : Stops s) (c : Char)
    (h : s.head? = some c) : isNumeralChar c = false := by
  have mem := stops.head h
  simp only [List.mem_cons, List.not_mem_nil, or_false] at mem
  rcases mem with rfl | rfl | rfl | rfl | rfl | rfl <;> decide

/-- An operand ends at one place and is read in one way. -/
theorem OperandReading.unique {s s' r r' : List Char} {o o' : Operand} (h : OperandReading s o)
    (h' : OperandReading s' o') (stop : Stops r) (stop' : Stops r') (same : s ++ r = s' ++ r') :
    s = s' ∧ o = o' := by
  cases h with
  | literal quoted =>
    cases h' with
    | literal quoted' =>
      simp only [List.cons_append, List.append_assoc, List.nil_append, List.cons.injEq,
        true_and] at same
      obtain ⟨rfl, rfl⟩ := quoted.unique quoted' (stop.head_ne (by decide))
        (stop'.head_ne (by decide)) same
      exact ⟨rfl, rfl⟩
    | numeral number' => exact absurd (by simp [← same]) (number'.head_ne_quote (r := r'))
  | numeral number =>
    cases h' with
    | literal quoted' => exact absurd (by simp [same]) (number.head_ne_quote (r := r))
    | numeral number' =>
      obtain ⟨rfl, -⟩ := run_unique number.isNumeralChar number'.isNumeralChar
        stop.not_isNumeralChar stop'.not_isNumeralChar same
      exact ⟨rfl, rfl⟩

theorem Name.head {s r : List Char} (h : Name s) :
    ∃ c t, s ++ r = c :: t ∧ isNameChar c = true := by
  obtain ⟨nonempty, all⟩ := h
  cases s with
  | nil => exact absurd rfl nonempty
  | cons c s => exact ⟨c, s ++ r, rfl, all c (List.mem_cons_self ..)⟩

theorem isNameChar_eq_false {c : Char}
    (h : c ∈ ['\'', '\x7b', '(', ')', ',', ' ', '\t', '\r', '\n']) : isNameChar c = false := by
  simp only [List.mem_cons, List.not_mem_nil, or_false] at h
  rcases h with rfl | rfl | rfl | rfl | rfl | rfl | rfl | rfl | rfl <;> decide

theorem isNameChar_of_isWhitespace {c : Char} (h : c.isWhitespace = true) :
    isNameChar c = false := by
  simp only [Char.isWhitespace, Bool.or_eq_true, decide_eq_true_eq] at h
  refine isNameChar_eq_false ?_
  simp only [List.mem_cons, List.not_mem_nil]
  tauto

/-- A formula begins with a quote, a brace or a name. -/
theorem Reading.head {s : List Char} {f : Formula} (h : Reading s f) :
    ∃ c t, s = c :: t ∧ (c = '\'' ∨ c = '\x7b' ∨ isNameChar c = true) := by
  cases h with
  | literal quoted => exact ⟨_, _, rfl, .inl rfl⟩
  | field closed => exact ⟨_, _, rfl, .inr (.inl rfl)⟩
  | test closed left relation right operand => exact ⟨_, _, rfl, .inr (.inl rfl)⟩
  | call named spaces arguments | bare named spaces empty =>
    obtain ⟨c, t, eq, letter⟩ := named.head
    exact ⟨c, t, eq, .inr (.inr letter)⟩

/-- A formula begins with neither white space nor one of the marks around it. -/
theorem Reading.head_ne {s r : List Char} {f : Formula} {c : Char} (h : Reading s f)
    (mark : c ∈ [')', ',', ' ', '\t', '\r', '\n']) : (s ++ r).head? ≠ some c := by
  obtain ⟨d, t, rfl, first⟩ := h.head
  simp only [List.cons_append, List.head?_cons, ne_eq, Option.some.injEq]
  rintro rfl
  simp only [List.mem_cons, List.not_mem_nil, or_false] at mark
  rcases mark with rfl | rfl | rfl | rfl | rfl | rfl <;> revert first <;> decide

theorem Reading.head_solid {s r : List Char} {f : Formula} (h : Reading s f) (c : Char)
    (first : (s ++ r).head? = some c) : c.isWhitespace = false := by
  cases blank : c.isWhitespace with
  | false => rfl
  | true =>
    simp only [Char.isWhitespace, Bool.or_eq_true, decide_eq_true_eq] at blank
    refine absurd first (h.head_ne ?_)
    simp only [List.mem_cons, List.not_mem_nil]
    tauto

theorem OperandReading.head_solid {s r : List Char} {o : Operand} (h : OperandReading s o)
    (c : Char) (first : (s ++ r).head? = some c) : c.isWhitespace = false := by
  cases h with
  | literal quoted =>
    simp only [List.cons_append, List.head?_cons, Option.some.injEq] at first
    subst first
    decide
  | numeral number =>
    cases s with
    | nil => exact absurd rfl number.ne_nil
    | cons d s =>
      simp only [List.cons_append, List.head?_cons, Option.some.injEq] at first
      subst first
      have numeral := number.isNumeralChar d (List.mem_cons_self ..)
      cases blank : d.isWhitespace with
      | false => rfl
      | true =>
        simp only [Char.isWhitespace, Bool.or_eq_true, decide_eq_true_eq] at blank
        rcases blank with ((rfl | rfl) | rfl) | rfl <;> revert numeral <;> decide

theorem relation_head_solid (relation : Relation) (r : List Char) (c : Char)
    (first : (relation.chars ++ r).head? = some c) : c.isWhitespace = false := by
  cases relation <;>
    simp only [Relation.chars, List.cons_append, List.head?_cons, Option.some.injEq] at first <;>
    subst first <;> decide

/-- No relation is the beginning of another one. -/
theorem relation_unique {relation relation' : Relation} {r r' : List Char}
    (same : relation.chars ++ r = relation'.chars ++ r') : relation = relation' ∧ r = r' := by
  cases relation <;> cases relation' <;> simp_all [Relation.chars]

/-- What follows a relation is no end of a formula. -/
theorem not_stops_relation {before r : List Char} {relation : Relation} (spaces : Spaces before) :
    ¬ Stops (before ++ (relation.chars ++ r)) := by
  intro stops
  cases relation <;>
    simp [Stops, Relation.chars, List.dropWhile_append_of_pos spaces] at stops

theorem name_unique {name name' s s' : List Char} (closed : '\x7d' ∉ name)
    (closed' : '\x7d' ∉ name') (same : name ++ '\x7d' :: s = name' ++ '\x7d' :: s') :
    name = name' ∧ s = s' := by
  have other : ∀ {a : List Char}, '\x7d' ∉ a → ∀ c ∈ a, (c != '\x7d') = true := by
    intro a closed c mem
    simpa using ne_of_mem_of_not_mem mem closed
  obtain ⟨first, rest⟩ := run_unique (other closed) (other closed') (by simp) (by simp) same
  exact ⟨first, (List.cons.inj rest).2⟩

/-- White space ends at the first mark. -/
theorem spaces_unique {a a' x x' : List Char} {c c' : Char} (spaces : Spaces a)
    (spaces' : Spaces a') (solid : c.isWhitespace = false) (solid' : c'.isWhitespace = false)
    (same : a ++ c :: x = a' ++ c' :: x') : a = a' ∧ c = c' ∧ x = x' := by
  obtain ⟨first, rest⟩ := run_unique spaces spaces' (by simpa using solid) (by simpa using solid')
    same
  exact ⟨first, List.cons.inj rest⟩

theorem Name.cons_ne {name r s : List Char} {c : Char} (h : Name name)
    (other : isNameChar c = false) : c :: s ≠ name ++ r := by
  obtain ⟨d, t, eq, letter⟩ := h.head (r := r)
  rw [eq]
  intro same
  rw [(List.cons.inj same).1, letter] at other
  cases other

/-- The name of a call and the white space behind it end where the parentheses begin. -/
theorem call_unique {name name' between between' s s' : List Char} (named : Name name)
    (named' : Name name') (spaces : Spaces between) (spaces' : Spaces between')
    (same : name ++ (between ++ '(' :: s) = name' ++ (between' ++ '(' :: s')) :
    name = name' ∧ between = between' ∧ s = s' := by
  have stop : ∀ {a x : List Char}, Spaces a → ∀ c, (a ++ '(' :: x).head? = some c →
      isNameChar c = false := by
    intro a x blank c first
    cases a with
    | nil =>
      simp only [List.nil_append, List.head?_cons, Option.some.injEq] at first
      exact isNameChar_eq_false (by simp [← first])
    | cons d a =>
      simp only [List.cons_append, List.head?_cons, Option.some.injEq] at first
      subst first
      exact isNameChar_of_isWhitespace (blank _ (List.mem_cons_self ..))
  obtain ⟨rfl, rest⟩ := run_unique named.2 named'.2 (stop spaces) (stop spaces') same
  obtain ⟨rfl, -, inside⟩ := spaces_unique spaces spaces' (by decide) (by decide) rest
  exact ⟨rfl, rfl, inside⟩

/-- Arguments are never white space alone. -/
theorem Readings.ne_spaces {s b r r' : List Char} {fs : List Formula} (h : Readings s fs)
    (spaces : Spaces b) : s ++ ')' :: r ≠ b ++ ')' :: r' := by
  intro same
  have closing : ∀ c, (')' :: r').head? = some c → c.isWhitespace = false := by
    intro c first
    simp only [List.head?_cons, Option.some.injEq] at first
    subst first
    decide
  cases h with
  | last left reading right | more left reading right others =>
    simp only [List.append_assoc] at same
    obtain ⟨-, rest⟩ := run_unique left spaces reading.head_solid closing same
    exact reading.head_ne (c := ')') (by decide) (congrArg List.head? rest)

mutual

/-- A formula ends at one place and is read in one way. -/
theorem Reading.unique {s s' r r' : List Char} {f f' : Formula} (h : Reading s f)
    (h' : Reading s' f') (stop : Stops r) (stop' : Stops r') (same : s ++ r = s' ++ r') :
    s = s' ∧ f = f' := by
  cases h with
  | literal quoted =>
    cases h' with
    | literal quoted' =>
      simp only [List.cons_append, List.append_assoc, List.nil_append, List.cons.injEq,
        true_and] at same
      obtain ⟨rfl, rfl⟩ := quoted.unique quoted' (stop.head_ne (by decide))
        (stop'.head_ne (by decide)) same
      exact ⟨rfl, rfl⟩
    | field closed' | test closed' left' relation' right' operand' => simp at same
    | call named' spaces' arguments' | bare named' spaces' empty' =>
      simp only [List.cons_append, List.append_assoc] at same
      exact absurd same (named'.cons_ne (by decide))
  | field closed =>
    cases h' with
    | literal quoted' => simp at same
    | field closed' =>
      simp only [List.cons_append, List.append_assoc, List.nil_append, List.cons.injEq,
        true_and] at same
      obtain ⟨rfl, -⟩ := name_unique closed closed' same
      exact ⟨rfl, rfl⟩
    | test closed' left' relation' right' operand' =>
      simp only [List.cons_append, List.append_assoc, List.nil_append, List.cons.injEq,
        true_and] at same
      obtain ⟨-, rfl⟩ := name_unique closed closed' same
      exact absurd stop (not_stops_relation left')
    | call named' spaces' arguments' | bare named' spaces' empty' =>
      simp only [List.cons_append, List.append_assoc] at same
      exact absurd same (named'.cons_ne (by decide))
  | test closed left relation right operand =>
    cases h' with
    | literal quoted' => simp at same
    | field closed' =>
      simp only [List.cons_append, List.append_assoc, List.nil_append, List.cons.injEq,
        true_and] at same
      obtain ⟨-, rfl⟩ := name_unique closed closed' same
      exact absurd stop' (not_stops_relation left)
    | test closed' left' relation' right' operand' =>
      simp only [List.cons_append, List.append_assoc, List.cons.injEq, true_and] at same
      obtain ⟨rfl, behindName⟩ := name_unique closed closed' same
      obtain ⟨rfl, atRelation⟩ := run_unique left left' (relation_head_solid _ _)
        (relation_head_solid _ _) behindName
      obtain ⟨rfl, behindRelation⟩ := relation_unique atRelation
      obtain ⟨rfl, atOperand⟩ := run_unique right right' operand.head_solid operand'.head_solid
        behindRelation
      obtain ⟨rfl, rfl⟩ := operand.unique operand' stop stop' atOperand
      exact ⟨rfl, rfl⟩
    | call named' spaces' arguments' | bare named' spaces' empty' =>
      simp only [List.cons_append, List.append_assoc] at same
      exact absurd same (named'.cons_ne (by decide))
  | call named spaces arguments =>
    cases h' with
    | literal quoted' | field closed' | test closed' left' relation' right' operand' =>
      simp only [List.cons_append, List.append_assoc] at same
      exact absurd same.symm (named.cons_ne (by decide))
    | call named' spaces' arguments' =>
      simp only [List.append_assoc, List.cons_append, List.nil_append] at same
      obtain ⟨rfl, rfl, inside⟩ := call_unique named named' spaces spaces' same
      obtain ⟨rfl, rfl⟩ := arguments.unique arguments' inside
      exact ⟨rfl, rfl⟩
    | bare named' spaces' empty' =>
      simp only [List.append_assoc, List.cons_append, List.nil_append] at same
      obtain ⟨-, -, inside⟩ := call_unique named named' spaces spaces' same
      exact absurd inside (arguments.ne_spaces empty')
  | bare named spaces empty =>
    cases h' with
    | literal quoted' | field closed' | test closed' left' relation' right' operand' =>
      simp only [List.cons_append, List.append_assoc] at same
      exact absurd same.symm (named.cons_ne (by decide))
    | call named' spaces' arguments' =>
      simp only [List.append_assoc, List.cons_append, List.nil_append] at same
      obtain ⟨-, -, inside⟩ := call_unique named named' spaces spaces' same
      exact absurd inside.symm (arguments'.ne_spaces empty)
    | bare named' spaces' empty' =>
      simp only [List.append_assoc, List.cons_append, List.nil_append] at same
      obtain ⟨rfl, rfl, inside⟩ := call_unique named named' spaces spaces' same
      obtain ⟨rfl, -⟩ := spaces_unique empty empty' (by decide) (by decide) inside
      exact ⟨rfl, rfl⟩

/-- The arguments of a call end at one place and are read in one way. -/
theorem Readings.unique {s s' r r' : List Char} {fs fs' : List Formula} (h : Readings s fs)
    (h' : Readings s' fs') (same : s ++ ')' :: r = s' ++ ')' :: r') : s = s' ∧ fs = fs' := by
  cases h with
  | last left reading right =>
    cases h' with
    | last left' reading' right' =>
      simp only [List.append_assoc] at same
      obtain ⟨rfl, rest⟩ := run_unique left left' reading.head_solid reading'.head_solid same
      obtain ⟨rfl, rfl⟩ := reading.unique reading' (.of_spaces right (.inr rfl))
        (.of_spaces right' (.inr rfl)) rest
      obtain ⟨rfl, -⟩ := spaces_unique right right' (by decide) (by decide)
        (List.append_cancel_left rest)
      exact ⟨rfl, rfl⟩
    | more left' reading' right' others' =>
      simp only [List.append_assoc, List.cons_append] at same
      obtain ⟨rfl, rest⟩ := run_unique left left' reading.head_solid reading'.head_solid same
      obtain ⟨rfl, rfl⟩ := reading.unique reading' (.of_spaces right (.inr rfl))
        (.of_spaces right' (.inl rfl)) rest
      obtain ⟨-, mark, -⟩ := spaces_unique right right' (by decide) (by decide)
        (List.append_cancel_left rest)
      exact absurd mark (by decide)
  | more left reading right others =>
    cases h' with
    | last left' reading' right' =>
      simp only [List.append_assoc, List.cons_append] at same
      obtain ⟨rfl, rest⟩ := run_unique left left' reading.head_solid reading'.head_solid same
      obtain ⟨rfl, rfl⟩ := reading.unique reading' (.of_spaces right (.inl rfl))
        (.of_spaces right' (.inr rfl)) rest
      obtain ⟨-, mark, -⟩ := spaces_unique right right' (by decide) (by decide)
        (List.append_cancel_left rest)
      exact absurd mark (by decide)
    | more left' reading' right' others' =>
      simp only [List.append_assoc, List.cons_append] at same
      obtain ⟨rfl, rest⟩ := run_unique left left' reading.head_solid reading'.head_solid same
      obtain ⟨rfl, rfl⟩ := reading.unique reading' (.of_spaces right (.inl rfl))
        (.of_spaces right' (.inl rfl)) rest
      obtain ⟨rfl, -, inside⟩ := spaces_unique right right' (by decide) (by decide)
        (List.append_cancel_left rest)
      obtain ⟨rfl, rfl⟩ := others.unique others' inside
      exact ⟨rfl, rfl⟩

end

/-- A whole text has at most one reading. -/
theorem Reading.eq {s : List Char} {f f' : Formula} (h : Reading s f) (h' : Reading s f') :
    f = f' :=
  (h.unique h' .nil .nil rfl).2

end BaseGateway.Grammar
