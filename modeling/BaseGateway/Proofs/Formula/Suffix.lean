import BaseGateway.Proofs.Formula.Buckets

/-!
# Labels with a suffix

People add words to the label of an age bucket. Of a label that begins with two numerals and a
hyphen in between, the numerals are read and the words behind them are not, with one exception: a
plus sign anywhere among them takes away the upper end of the bucket (`AgeBucket.ofLabel_numerals`).

* behind a numeral, a piece of the label goes on with what is no digit
  (`splitChars_numerals`), so each numeral is read as its number;
* a suffix with a plus sign makes a bucket that is found far above its upper numeral
  (`AgeBucket.ofLabel_plus_suffix`).
-/

namespace BaseGateway

/-- The pieces of a label between its hyphens: a numeral, and another with the words behind it up to
the next hyphen. -/
theorem splitChars_numerals {first last : Nat} {low high : List Char} (lower : IsNumeral first low)
    (upper : IsNumeral last high) (suffix : List Char) :
    ∃ pieces, Text.splitChars '-' (low ++ '-' :: (high ++ suffix)) =
      low :: (high ++ suffix.takeWhile (· != '-')) :: pieces := by
  obtain ⟨pieces, begins⟩ := Text.splitChars_begins '-' (high ++ suffix)
  have digits : ∀ c ∈ high, (c != '-') = true := by
    intro c mem
    rw [bne_iff_ne]
    rintro rfl
    exact upper.not_mem rfl mem
  rw [List.takeWhile_append_of_pos digits] at begins
  exact ⟨pieces, by rw [Text.splitChars_append (lower.not_mem rfl), begins]⟩

/-- A label of two numerals is read as the bucket between them, whatever words stand behind it, and
as a bucket without an upper end where a plus sign is among these. -/
theorem AgeBucket.ofLabel_numerals {first last : Nat} {low high : List Char}
    (lower : IsNumeral first low) (upper : IsNumeral last high) {suffix : List Char}
    (stops : ∀ c ∈ suffix.head?, c.isDigit = false) :
    let label := String.ofList (low ++ '-' :: (high ++ suffix))
    AgeBucket.ofLabel label =
      .ok ⟨label, some first, if '+' ∈ suffix then .unbounded else .last (some last)⟩ := by
  intro label
  have plus : '+' ∈ low ++ '-' :: (high ++ suffix) ↔ '+' ∈ suffix := by
    simp [lower.not_mem (c := '+') rfl, upper.not_mem (c := '+') rfl]
  unfold ofLabel
  dsimp only
  rw [String.toList_ofList]
  by_cases given : '+' ∈ suffix
  · -- The sign is taken out behind the first numeral, which still ends at the hyphen.
    have erased : (low ++ '-' :: (high ++ suffix)).erase '+' =
        low ++ ('-' :: (high ++ suffix)).erase '+' :=
      List.erase_append_right _ (lower.not_mem rfl)
    have hyphen : ∀ c ∈ (('-' :: (high ++ suffix)).erase '+').head?, c.isDigit = false := by
      rw [List.erase_cons_tail (by decide)]
      rintro c ⟨⟩
      rfl
    rw [if_pos (by simpa using plus.mpr given), if_pos given, erased,
      leadingInt?_append lower hyphen]
    rfl
  · obtain ⟨pieces, split⟩ := splitChars_numerals lower upper suffix
    have words : ∀ c ∈ (suffix.takeWhile (· != '-')).head?, c.isDigit = false := by
      intro c head
      refine stops c ?_
      cases suffix with
      | nil => cases head
      | cons d rest =>
        rw [List.takeWhile_cons] at head
        split at head
        · exact head
        · cases head
    rw [if_neg (by simpa using given ∘ plus.mp), if_neg given, split]
    dsimp only
    rw [lower.leadingInt?, leadingInt?_append upper words]
    rfl

/-- Words with a quote and a hyphen do not count. -/
theorem AgeBucket.ofLabel_numerals_quoted :
    AgeBucket.ofLabel "25-34'; DELETE-65" = .ok ⟨"25-34'; DELETE-65", some 25, .last (some 34)⟩ := by
  have numeral (n : Nat) (two : n < 10 ^ 2) : IsNumeral n (Decimal.natChars n) :=
    isNumeral_natChars (Nat.lt_of_lt_of_le two (Nat.pow_le_pow_right (by decide) (by decide)))
  have stops : ∀ c ∈ "'; DELETE-65".toList.head?, c.isDigit = false := by
    rintro c ⟨⟩
    rfl
  exact AgeBucket.ofLabel_numerals (numeral 25 (by decide)) (numeral 34 (by decide)) stops

/-- A bucket from 25 to 34 whose label has a plus sign behind it has no upper end, and is found for
ages from 70 on. -/
theorem AgeBucket.ofLabel_plus_suffix :
    AgeBucket.ofLabel "25-34 (A+)" = .ok ⟨"25-34 (A+)", some 25, .unbounded⟩ ∧
      AgeBucket.ofLabel "25-34 (A+)" ≠ .ok ⟨"25-34 (A+)", some 25, .last (some 34)⟩ ∧
      (overlappingLabels (.whole 70) (.whole 80) ["25-34 (A+)"]).run.run {} =
        (.ok ["25-34 (A+)"], {}) := by
  have read : AgeBucket.ofLabel "25-34 (A+)" = .ok ⟨"25-34 (A+)", some 25, .unbounded⟩ := rfl
  have few {k : Nat} (two : 2 ≤ k) : 25 < 10 ^ k :=
    Nat.lt_of_lt_of_le (by decide : 25 < 10 ^ 2) (Nat.pow_le_pow_right (by decide) two)
  have near : AgeSpan.Near ⟨25, none⟩ := ⟨few (by decide), by rintro n ⟨⟩⟩
  have whole : AgeBucket.isMalformed ⟨"25-34 (A+)", some 25, .unbounded⟩ = .ok false :=
    AgeSpan.isMalformed_bucket near "25-34 (A+)"
  refine ⟨read, ?_, ?_⟩
  · rw [read]
    intro same
    cases same
  · unfold overlappingLabels
    rw [run_bind, Logged.run_ofFault, read, orFault_ok]
    dsimp only
    rw [run_bind, Logged.run_ofFault, whole]
    rfl

end BaseGateway
