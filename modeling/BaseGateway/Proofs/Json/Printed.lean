import BaseGateway.Proofs.Json.RoundTrip
import BaseGateway.Text.Search

/-!
# The characters of a document

A document is written with the characters from the space to the tilde and with line feeds alone
(`printed_document`), so that a reader who takes every line end for a line feed reads what was
written (`plainLineEnds_document`).
-/

namespace BaseGateway.Json

open Value

/-- A line feed, or a character that ASCII has a sign for. -/
def isPrinted (c : Char) : Bool := c == '\n' || (' ' ≤ c && c ≤ '~')

/-- Are all the characters printed? -/
def Printed (s : List Char) : Prop := ∀ c ∈ s, isPrinted c = true

theorem printed_append {s t : List Char} : Printed (s ++ t) ↔ Printed s ∧ Printed t :=
  List.forall_mem_append

theorem printed_cons {c : Char} {s : List Char} :
    Printed (c :: s) ↔ isPrinted c = true ∧ Printed s :=
  List.forall_mem_cons

theorem printed_nil : Printed [] := List.forall_mem_nil _

instance (s : List Char) : Decidable (Printed s) := List.decidableBAll _ s

/-! ## Strings and numbers -/

theorem printed_unitChars (n : Nat) : Printed (unitChars n) := by
  have digit : ∀ d : Fin 16, isPrinted (Nat.digitChar d.val) = true := by decide
  have all : ∀ m, isPrinted (Nat.digitChar (m % 16)) = true :=
    fun m => digit ⟨m % 16, Nat.mod_lt m (by decide)⟩
  rw [unitChars, hexDigits_four]
  simp only [printed_cons, all, true_and]
  decide

theorem printed_escapeChar (c : Char) : Printed (escapeChar c) := by
  unfold escapeChar
  split
  · next letter short =>
    unfold shortEscape? at short
    split at short <;> cases short <;> decide
  · split
    · next shown =>
      simp [Printed, isPrinted, shown]
    · split
      · exact printed_unitChars _
      · exact printed_append.mpr ⟨printed_unitChars _, printed_unitChars _⟩

theorem printed_stringChars (s : List Char) : Printed (stringChars s) := by
  have inside : Printed (s.flatMap escapeChar) := by
    intro c mem
    obtain ⟨d, _, mem⟩ := List.mem_flatMap.mp mem
    exact printed_escapeChar d c mem
  rw [stringChars, List.cons_append, printed_cons, printed_append]
  exact ⟨by decide, inside, by decide⟩

theorem isPrinted_numeralChar {c : Char} (h : Grammar.isNumeralChar c = true) :
    isPrinted c = true := by
  unfold Grammar.isNumeralChar at h
  rw [Bool.or_eq_true] at h
  rcases h with digit | mark
  · simp only [Char.isDigit, Bool.and_eq_true, decide_eq_true_eq] at digit
    have low : ' ' ≤ c := Char.le_trans (by decide : ' ' ≤ '0') digit.1
    have high : c ≤ '~' := Char.le_trans digit.2 (by decide : '9' ≤ '~')
    simp [isPrinted, low, high]
  · simp only [List.contains_cons, List.contains_nil, Bool.or_false, Bool.or_eq_true,
      beq_iff_eq] at mark
    rcases mark with rfl | rfl | rfl | rfl <;> decide

theorem printed_floatChars (x : Float) : Printed (floatChars x) := by
  unfold floatChars
  cases reading : Decimal.Reading.ofFloat x with
  | nan => exact (by decide : Printed "NaN".toList)
  | infinite negative =>
    have names : Printed "-Infinity".toList ∧ Printed "Infinity".toList := by decide
    cases negative with
    | true => exact names.1
    | false => exact names.2
  | finite negative b =>
    exact fun c mem =>
      isPrinted_numeralChar ((Decimal.numeral_floatChars reading).isNumeralChar c mem)

theorem printed_intChars (n : Int) : Printed (Decimal.intChars n) :=
  fun c mem => isPrinted_numeralChar ((Decimal.numeral_intChars n).isNumeralChar c mem)

/-! ## Documents -/

theorem printed_newline (style : Style) (level : Nat) : Printed (style.newline level) := by
  unfold Style.newline
  split
  · exact printed_nil
  · refine printed_cons.mpr ⟨by decide, fun c mem => ?_⟩
    rw [List.eq_of_mem_replicate mem]
    decide

theorem printed_comma (style : Style) (level : Nat) : Printed (style.comma level) := by
  unfold Style.comma
  split
  · decide
  · exact printed_cons.mpr ⟨by decide, printed_newline style level⟩

mutual

theorem printed_write (style : Style) (level : Nat) : ∀ {v : Value}, v.IsJson →
    Printed (write style level v).chars
  | .null, _ => (by decide : Printed "null".toList)
  | .bool b, _ => (by cases b <;> decide : Printed (boolChars b))
  | .float x, _ => printed_floatChars x
  | .text s, _ => printed_stringChars s.toList
  | .int n, h => by
    rw [write_int_chars style level h]
    exact printed_intChars n
  | .list [], _ => (by decide : Printed "[]".toList)
  | .list (v :: rest), h => by
    rw [write_list_chars style level h.1 h.2]
    simp only [printed_cons, printed_append]
    exact ⟨by decide, printed_newline style _, printed_write style _ h.1, printed_items style _ h.2,
      printed_newline style _, by decide⟩
  | .dictionary [], _ => (by decide : Printed "\x7b\x7d".toList)
  | .dictionary ((key, v) :: rest), h => by
    obtain ⟨⟨s, rfl⟩, first, others⟩ := h
    rw [write_dictionary_chars style level s first others]
    simp only [printed_cons, printed_append]
    exact ⟨by decide, printed_newline style _, printed_stringChars _, by decide, by decide,
      printed_write style _ first, printed_entries style _ others, printed_newline style _,
      by decide⟩

theorem printed_items (style : Style) (level : Nat) : ∀ {items : List Value}, AllJson items →
    Printed (writeItems style level items).chars
  | [], _ => printed_nil
  | v :: rest, h => by
    rw [writeItems_chars style level h.1]
    simp only [printed_append]
    exact ⟨printed_comma style _, printed_write style _ h.1, printed_items style _ h.2⟩

theorem printed_entries (style : Style) (level : Nat) : ∀ {entries : List (Value × Value)},
    EntriesJson entries → Printed (writeEntries style level entries).chars
  | [], _ => printed_nil
  | (key, v) :: rest, h => by
    obtain ⟨⟨s, rfl⟩, first, others⟩ := h
    rw [writeEntries_chars style level s first]
    simp only [printed_cons, printed_append]
    exact ⟨printed_comma style _, printed_stringChars _, by decide, by decide,
      printed_write style _ first, printed_entries style _ others⟩

end

/-- JSON data is written in ASCII, without control characters but line feeds. -/
theorem printed_document (style : Style) {v : Value} (h : v.IsJson) :
    Printed (document style v).chars :=
  printed_write style 0 h

theorem plainLineEnds_document (style : Style) {v : Value} (h : v.IsJson) :
    Text.plainLineEnds (document style v).chars = (document style v).chars := by
  refine Text.plainLineEnds_eq fun mem => ?_
  have wrong := printed_document style h _ mem
  cases wrong

end BaseGateway.Json
