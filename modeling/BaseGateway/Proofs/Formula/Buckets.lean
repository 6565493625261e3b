import BaseGateway.Formula.Age
import BaseGateway.Proofs.Decimal.Digits
import BaseGateway.Proofs.Decimal.Finite
import BaseGateway.Proofs.Run

/-!
# Age buckets by the ages in them

A label spells a bucket: a numeral, a hyphen and another numeral for the ages from one to the other,
or a numeral and a plus sign for all ages from one on. What a query finds is told here by the ages
themselves and not by how bounds compare.

* a numeral is read as its number, whatever stands behind it that is no digit
  (`leadingInt?_append`), so a label is read as the bucket that it spells
  (`AgeSpan.Spelled.ofLabel`);
* where the ends of a bucket and of a query are in order, comparing ends decides whether they have
  an age in common (`AgeSpan.overlaps_bucket`);
* the labels that a query finds are those of the buckets with an age in it, and the formula of the
  query tests its field for them (`AgeSpan.query_tests_overlapping_labels`).
-/

namespace BaseGateway

open Decimal

/-- The digits stand for a number, and are no more than a reader takes. -/
structure IsNumeral (n : Nat) (digits : List Char) : Prop where
  value : digitsValue digits = n
  digit : ∀ c ∈ digits, c.isDigit = true
  nonempty : digits ≠ []
  short : digits.length ≤ maxDigits

/-- The digits that a number is written with are a numeral. -/
theorem isNumeral_natChars {n : Nat} (h : n < 10 ^ maxDigits) : IsNumeral n (natChars n) where
  value := digitsValue_natChars n
  digit := isDigit_of_mem_natChars
  nonempty := Nat.toDigits_ne_nil
  short := length_natChars_le h

namespace IsNumeral

variable {n : Nat} {digits : List Char}

theorem not_mem {c : Char} (h : IsNumeral n digits) (other : c.isDigit = false) : c ∉ digits := by
  intro mem
  rw [h.digit c mem] at other
  cases other

end IsNumeral

theorem isAsciiBlank_of_isDigit {c : Char} (h : c.isDigit = true) :
    Text.isAsciiBlank c = false := by
  have noSpace : c ≠ ' ' := by
    rintro rfl
    cases h
  simp only [Char.isDigit, Bool.and_eq_true, decide_eq_true_eq] at h
  have low : 48 ≤ c.toNat := h.1
  simp only [Text.isAsciiBlank, Bool.or_eq_false_iff, beq_eq_false_iff_ne, Bool.and_eq_false_iff,
    decide_eq_false_iff_not]
  exact ⟨noSpace, .inr (by omega)⟩

theorem splitSign_of_isDigit {c : Char} (h : c.isDigit = true) (s : List Char) :
    splitSign (c :: s) = (false, c :: s) := by
  unfold splitSign
  split
  · next same =>
    obtain ⟨rfl, -⟩ := List.cons_eq_cons.mp same
    cases h
  · next same =>
    obtain ⟨rfl, -⟩ := List.cons_eq_cons.mp same
    cases h
  · rfl

/-- A numeral is read as its number, up to the first character that is no digit. -/
theorem leadingInt?_append {n : Nat} {digits rest : List Char} (numeral : IsNumeral n digits)
    (stops : ∀ c ∈ rest.head?, c.isDigit = false) :
    leadingInt? (digits ++ rest) = .ok (some n) := by
  obtain ⟨d, ds, rfl⟩ := List.exists_cons_of_ne_nil numeral.nonempty
  have first := numeral.digit d List.mem_cons_self
  have none : rest.takeWhile Char.isDigit = [] := by
    cases rest with
    | nil => rfl
    | cons c rest => simp [stops c rfl]
  have whole : (d :: (ds ++ rest)).takeWhile Char.isDigit = d :: ds := by
    rw [← List.cons_append, List.takeWhile_append_of_pos numeral.digit, none, List.append_nil]
  have few := numeral.short
  unfold leadingInt?
  rw [List.cons_append, List.dropWhile_cons_of_neg (by simp [isAsciiBlank_of_isDigit first]),
    splitSign_of_isDigit first]
  dsimp only
  rw [whole, if_neg (by simp), if_neg (by omega), numeral.value]
  rfl

theorem IsNumeral.leadingInt? {n : Nat} {digits : List Char} (numeral : IsNumeral n digits) :
    leadingInt? digits = .ok (some n) := by
  have stops : ∀ c ∈ ([] : List Char).head?, c.isDigit = false := fun _ mem => nomatch mem
  have read := leadingInt?_append numeral stops
  rwa [List.append_nil] at read

/-- The ages of a bucket: those from the first on, and up to the last where there is one. -/
structure AgeSpan where
  first : Nat
  last : Option Nat
  deriving DecidableEq, Repr

namespace AgeSpan

/-- Is an age in the bucket? -/
def Has (b : AgeSpan) (age : Int) : Prop := b.first ≤ age ∧ ∀ n ∈ b.last, age ≤ n

/-- Is some age of the bucket between two bounds? -/
def Meets (lowest highest : Int) (b : AgeSpan) : Prop :=
  ∃ age, b.Has age ∧ lowest ≤ age ∧ age ≤ highest

/-- The label of a bucket. -/
inductive Spelled : AgeSpan → String → Prop
  | closed {first last : Nat} {low high : List Char} (ordered : first ≤ last)
      (lower : IsNumeral first low) (upper : IsNumeral last high) :
      Spelled ⟨first, some last⟩ (String.ofList (low ++ '-' :: high))
  | onward {first : Nat} {low : List Char} (lower : IsNumeral first low) :
      Spelled ⟨first, none⟩ (String.ofList (low ++ ['+']))

/-- The upper end of the bucket. -/
def ceiling (b : AgeSpan) : Ceiling :=
  match b.last with
  | none => .unbounded
  | some n => .last (some n)

/-- The ends of the bucket are in order. -/
def Ordered (b : AgeSpan) : Prop := ∀ n ∈ b.last, b.first ≤ n

/-- The ends of the bucket are within the range of floats. -/
def Near (b : AgeSpan) : Prop := b.first < 10 ^ 300 ∧ ∀ n ∈ b.last, n < 10 ^ 300

/-- The first age that the bucket can have in common with a query decides. -/
theorem meets_iff {lowest highest : Int} {b : AgeSpan} :
    b.Meets lowest highest ↔
      max (b.first : Int) lowest ≤ highest ∧
        b.last.all (fun n : Nat => max (b.first : Int) lowest ≤ n) = true := by
  obtain ⟨first, last⟩ := b
  simp only [Meets, Has]
  constructor
  · rintro ⟨age, ⟨from_, upTo⟩, low, high⟩
    refine ⟨by omega, ?_⟩
    cases last with
    | none => rfl
    | some n =>
      have below := upTo n rfl
      rw [Option.all_some, decide_eq_true_eq]
      omega
  · rintro ⟨within, upTo⟩
    refine ⟨max first lowest, ⟨by omega, ?_⟩, by omega, within⟩
    rintro n rfl
    simpa using upTo

instance (lowest highest : Int) (b : AgeSpan) : Decidable (b.Meets lowest highest) :=
  decidable_of_iff _ meets_iff.symm

namespace Spelled

variable {b : AgeSpan} {label : String}

theorem ordered (h : b.Spelled label) : b.Ordered := by
  cases h with
  | closed ordered =>
    rintro n ⟨⟩
    exact ordered
  | onward => rintro n ⟨⟩

/-- A label is read as the bucket that it spells. -/
theorem ofLabel (h : b.Spelled label) :
    AgeBucket.ofLabel label = .ok ⟨label, some b.first, b.ceiling⟩ := by
  cases h with
  | @closed first last low high _ lower upper =>
    have plus : '+' ∉ low ++ '-' :: high := by
      simp [lower.not_mem (c := '+') rfl, upper.not_mem (c := '+') rfl]
    have pieces : Text.splitChars '-' (low ++ '-' :: high) = [low, high] := by
      rw [Text.splitChars_append (lower.not_mem rfl),
        Text.splitChars_of_not_mem (upper.not_mem rfl)]
    unfold AgeBucket.ofLabel
    dsimp only
    rw [String.toList_ofList, if_neg (by simpa using plus), pieces]
    dsimp only
    rw [lower.leadingInt?, upper.leadingInt?]
    rfl
  | @onward first low lower =>
    have erased : (low ++ ['+']).erase '+' = low := by
      rw [List.erase_append_right _ (lower.not_mem rfl)]
      exact List.append_nil low
    unfold AgeBucket.ofLabel
    dsimp only
    rw [String.toList_ofList, if_pos (by simp), erased, lower.leadingInt?]
    rfl

/-- There is nothing to escape in a label. -/
theorem quote_not_mem (h : b.Spelled label) : '\'' ∉ label.toList := by
  cases h with
  | closed _ lower upper =>
    simp [lower.not_mem (c := '\'') rfl, upper.not_mem (c := '\'') rfl]
  | onward lower => simp [lower.not_mem (c := '\'') rfl]

end Spelled

/-- A bucket whose ends are near lacks none of them. -/
theorem isMalformed_bucket {b : AgeSpan} (near : b.Near) (label : String) :
    AgeBucket.isMalformed ⟨label, some b.first, b.ceiling⟩ = .ok false := by
  obtain ⟨first, last⟩ := b
  have bounded (n : Nat) (h : n < 10 ^ 300) : AgeBucket.isMissing (some n) = .ok false := by
    unfold AgeBucket.isMissing
    dsimp only
    rw [Int.natAbs_natCast, if_pos (lt_beyondDoubles h)]
  unfold AgeBucket.isMalformed
  simp only [bounded first near.1, bind, Except.bind, Bool.false_eq_true, if_false]
  cases last with
  | none => rfl
  | some n => simp only [ceiling, bounded n (near.2 n rfl)]

theorem le_whole (a b : Int) : AgeBucket.le (.whole a) (.whole b) = decide (a ≤ b) := by
  unfold AgeBucket.le Number.compare?
  dsimp only
  cases order : compare a b with
  | lt => simp [Int.le_of_lt (Int.compare_eq_lt.mp order)]
  | eq => simp [Int.compare_eq_eq.mp order]
  | gt => simp [Int.compare_eq_gt.mp order]

/-- Comparing the ends of a bucket with those of a query decides whether they have an age in
common. -/
theorem overlaps_bucket {b : AgeSpan} (ordered : b.Ordered) {lowest highest : Int}
    (query : lowest ≤ highest) (label : String) :
    AgeBucket.overlaps ⟨label, some b.first, b.ceiling⟩ (.whole lowest) (.whole highest) =
      decide (b.Meets lowest highest) := by
  obtain ⟨first, last⟩ := b
  rw [Bool.eq_iff_iff, decide_eq_true_eq, meets_iff]
  cases last with
  | none =>
    simp only [AgeBucket.overlaps, ceiling, le_whole, decide_eq_true_eq, Option.all_none, and_true]
    omega
  | some n =>
    have inOrder : first ≤ n := ordered n rfl
    simp only [AgeBucket.overlaps, ceiling, le_whole, Bool.and_eq_true, decide_eq_true_eq,
      Option.all_some]
    omega

end AgeSpan

/-- The labels of buckets with an age between two bounds, in their order. -/
def labelsMeeting (lowest highest : Int) (buckets : List (AgeSpan × String)) : List String :=
  (buckets.filter (·.1.Meets lowest highest)).map Prod.snd

/-- The labels that a query finds are those of the buckets with an age in it. -/
theorem overlappingLabels_buckets {lowest highest : Int} (query : lowest ≤ highest)
    {buckets : List (AgeSpan × String)} (spelled : ∀ b ∈ buckets, b.1.Spelled b.2 ∧ b.1.Near)
    (j : Journal) :
    (overlappingLabels (.whole lowest) (.whole highest) (buckets.map Prod.snd)).run.run j =
      (.ok (labelsMeeting lowest highest buckets), j) := by
  induction buckets with
  | nil => rfl
  | cons b buckets ih =>
    obtain ⟨⟨written, near⟩, others⟩ := List.forall_mem_cons.mp spelled
    have listed : labelsMeeting lowest highest (b :: buckets) =
        if b.1.Meets lowest highest then b.2 :: labelsMeeting lowest highest buckets
        else labelsMeeting lowest highest buckets := by
      unfold labelsMeeting
      rw [List.filter_cons]
      split <;> simp_all
    unfold overlappingLabels
    rw [List.map_cons, run_bind, Logged.run_ofFault, written.ofLabel, orFault_ok]
    dsimp only
    rw [run_bind, Logged.run_ofFault, AgeSpan.isMalformed_bucket near, orFault_ok]
    dsimp only
    rw [if_neg (by simp), run_bind, ih others]
    dsimp only
    rw [run_pure, AgeSpan.overlaps_bucket written.ordered query, listed]
    simp only [decide_eq_true_eq]

/-- A field tested for a label. -/
def equalityChars (name : List Char) (label : String) : List Char :=
  '\x7b' :: name ++ '\x7d' :: ' ' :: '=' :: ' ' :: '\'' :: label.toList ++ ['\'']

/-- A field tested for each of several labels. -/
def equalitiesChars (name : List Char) : List String → List Char
  | [] => "FALSE()".toList
  | [label] => equalityChars name label
  | labels => "OR(".toList ++ [',', ' '].intercalate (labels.map (equalityChars name)) ++ [')']

theorem Formula.argumentChars_eq (fs : List Formula) :
    argumentChars fs = [',', ' '].intercalate (fs.map chars) := by
  match fs with
  | [] => rfl
  | [f] => simp [argumentChars, List.intercalate]
  | f :: g :: rest =>
    change f.chars ++ ',' :: ' ' :: argumentChars (g :: rest) = _
    rw [argumentChars_eq (g :: rest)]
    simp [List.intercalate]

theorem Formula.test_chars {name : List Char} {label : String} (plain : '\'' ∉ label.toList) :
    (Formula.test name .equal (.literal label.toList)).chars = equalityChars name label := by
  simp [chars, fieldChars, Relation.chars, Operand.chars, literalChars, escapeQuotes,
    Text.replaceChars_of_not_mem plain, equalityChars]

/-- The formula for labels without quotes, as it is written. -/
theorem Formula.oneOf_chars (name : List Char) {labels : List String}
    (plain : ∀ label ∈ labels, '\'' ∉ label.toList) :
    (Formula.oneOf (labels.map fun label => .test name .equal (.literal label.toList))).chars =
      equalitiesChars name labels := by
  have each : (labels.map fun label => Formula.test name .equal (.literal label.toList)).map
      Formula.chars = labels.map (equalityChars name) := by
    rw [List.map_map]
    exact List.map_congr_left fun label mem => test_chars (plain label mem)
  match labels, plain, each with
  | [], _, _ => rfl
  | [label], plain, _ => exact test_chars (plain label List.mem_cons_self)
  | first :: second :: rest, _, each =>
    change "OR".toList ++ '(' :: argumentChars ((first :: second :: rest).map fun label =>
      .test name .equal (.literal label.toList)) ++ [')'] = _
    rw [argumentChars_eq, each]
    rfl

theorem requireFinite_near {n : Int} (role : String) (near : n.natAbs < 10 ^ 300) :
    requireFinite (.int n) role = .ok (.whole n) := by
  unfold requireFinite
  dsimp only
  rw [if_pos (lt_beyondDoubles near)]

/-- A query for an interval of ages finds the labels of the buckets that have an age in it, and the
formula tests the field for them, in their order. -/
theorem AgeSpan.query_tests_overlapping_labels {lowest highest : Int} (query : lowest ≤ highest)
    (near : lowest.natAbs < 10 ^ 300 ∧ highest.natAbs < 10 ^ 300)
    {buckets : List (AgeSpan × String)} (spelled : ∀ b ∈ buckets, b.1.Spelled b.2 ∧ b.1.Near)
    {field : Value} {name : FieldName} (named : FieldName.ofValue field = .ok name) (j : Journal) :
    (overlappingLabels (.whole lowest) (.whole highest) (buckets.map Prod.snd)).run.run j =
        (.ok (labelsMeeting lowest highest buckets), j) ∧
      ∃ f, (Formula.ofAges field (.int lowest) (.int highest)
          ⟨buckets.map Prod.snd, none⟩).run.run j = (.ok f, j) ∧
        f.text.toList = equalitiesChars name.chars (labelsMeeting lowest highest buckets) := by
  have found := overlappingLabels_buckets query spelled j
  have plain : ∀ label ∈ labelsMeeting lowest highest buckets, '\'' ∉ label.toList := by
    unfold labelsMeeting
    rw [List.forall_mem_map]
    exact fun b mem => (spelled b (List.mem_of_mem_filter mem)).1.quote_not_mem
  refine ⟨found, .oneOf ((labelsMeeting lowest highest buckets).map fun label =>
    .test name.chars .equal (.literal label.toList)), ?_, ?_⟩
  · unfold Formula.ofAges AgeLabels.overlapping
    simp only [run_bind, Logged.run_ofRefusal, Logged.run_ofExcept, orRefused_eq_ok.mpr named,
      requireFinite_near _ near.1, requireFinite_near _ near.2, found, run_pure]
  · rw [Formula.text, String.toList_ofList, Formula.oneOf_chars name.chars plain]

/-- From the last age of one bucket to the first of another. -/
theorem AgeSpan.query_tests_overlapping_labels_ends :
    (overlappingLabels (.whole 34) (.whole 65) ["18-24", "25-34", "65+", "25-34"]).run.run
        ⟨.info, []⟩ = (.ok ["25-34", "65+", "25-34"], ⟨.info, []⟩) ∧
      ∃ f, (Formula.ofAges (.text "Age") (.int 34) (.int 65)
          ⟨["18-24", "25-34", "65+", "25-34"], none⟩).run.run ⟨.info, []⟩ =
            (.ok f, ⟨.info, []⟩) ∧
        f.text.toList = equalitiesChars "Age".toList ["25-34", "65+", "25-34"] := by
  have less {n k : Nat} (two : n < 10 ^ 2) (more : 2 ≤ k) : n < 10 ^ k :=
    Nat.lt_of_lt_of_le two (Nat.pow_le_pow_right (by decide) more)
  have numeral (n : Nat) (two : n < 10 ^ 2) : IsNumeral n (natChars n) :=
    isNumeral_natChars (less two (by decide))
  have young : Spelled ⟨18, some 24⟩ "18-24" ∧ Near ⟨18, some 24⟩ :=
    ⟨.closed (by decide) (numeral 18 (by decide)) (numeral 24 (by decide)),
      less (by decide) (by decide), by rintro n ⟨⟩; exact less (by decide) (by decide)⟩
  have grown : Spelled ⟨25, some 34⟩ "25-34" ∧ Near ⟨25, some 34⟩ :=
    ⟨.closed (by decide) (numeral 25 (by decide)) (numeral 34 (by decide)),
      less (by decide) (by decide), by rintro n ⟨⟩; exact less (by decide) (by decide)⟩
  have old : Spelled ⟨65, none⟩ "65+" ∧ Near ⟨65, none⟩ :=
    ⟨.onward (numeral 65 (by decide)), less (by decide) (by decide), by rintro n ⟨⟩⟩
  have spelled : ∀ b ∈ [((⟨18, some 24⟩ : AgeSpan), "18-24"), (⟨25, some 34⟩, "25-34"),
      (⟨65, none⟩, "65+"), (⟨25, some 34⟩, "25-34")], b.1.Spelled b.2 ∧ b.1.Near :=
    List.forall_mem_cons.mpr ⟨young, List.forall_mem_cons.mpr ⟨grown,
      List.forall_mem_cons.mpr ⟨old, List.forall_mem_singleton.mpr grown⟩⟩⟩
  have query : (34 : Int) ≤ 65 := by decide
  have near : (34 : Int).natAbs < 10 ^ 300 ∧ (65 : Int).natAbs < 10 ^ 300 :=
    ⟨less (by decide) (by decide), less (by decide) (by decide)⟩
  exact @query_tests_overlapping_labels 34 65 query near _ spelled (.text "Age") _ rfl ⟨.info, []⟩

end BaseGateway
