import BaseGateway.Proofs.IdKind
import BaseGateway.Proofs.Json.RoundTrip

/-!
# IDs in a document

A document shows an ID exactly where one of its strings does as it is written
(`Json.shows_document`). A letter or digit is written as itself, so that a string that shows an ID
shows it when it is written, too. The converse fails for characters whose escape ends in the first
letter of a kind, since it goes on with what stands behind it (`Json.isGluing`).
-/

namespace BaseGateway

open Text

mutual

/-- The strings of a document, keys included. -/
def Value.texts : Value → List String
  | .text s => [s]
  | .list items => itemTexts items
  | .dictionary entries => entryTexts entries
  | _ => []

def itemTexts : List Value → List String
  | [] => []
  | v :: rest => v.texts ++ itemTexts rest

def entryTexts : List (Value × Value) → List String
  | [] => []
  | (key, v) :: rest => key.texts ++ (v.texts ++ entryTexts rest)

end

namespace Json

open Value

/-- The characters of a string as they are written. -/
def escaped (s : List Char) : List Char := s.flatMap escapeChar

variable {k : IdKind} (plain : k.IsPlain)
include plain

theorem shows_gap {gap : List Char} (blank : ∀ c ∈ gap, isSpace c = true) (s : List Char) :
    k.shows (gap ++ s) = k.shows s := by
  induction gap with
  | nil => rfl
  | cons c gap ih =>
    obtain ⟨first, others⟩ := List.forall_mem_cons.mp blank
    have stops : isFoldedAlnum c = false := by
      simp only [isSpace, Bool.or_eq_true, beq_iff_eq] at first
      rcases first with ((rfl | rfl) | rfl) | rfl <;> decide
    rw [List.cons_append, plain.shows_cons_stop stops, ih others]

theorem shows_string (s rest : List Char) :
    k.shows (stringChars s ++ rest) = (k.shows (escaped s) || k.shows rest) := by
  have quoted : stringChars s ++ rest = '"' :: (escaped s ++ '"' :: rest) := by
    simp [stringChars, escaped]
  rw [quoted, plain.shows_cons_stop (by decide), plain.shows_append_stop (by decide)]

/-- A text that ends, or goes on with what stops an ID. -/
def Stops (next : List Char) : Prop := ∀ c ∈ next.head?, isFoldedAlnum c = false

theorem shows_append_stops {next : List Char} (stops : Stops next) (letters : List Char) :
    k.shows (letters ++ next) = (k.shows letters || k.shows next) := by
  cases next with
  | nil => rw [List.append_nil, IdKind.shows, Bool.or_false]
  | cons c next =>
    have stop : isFoldedAlnum c = false := stops c rfl
    rw [plain.shows_append_stop stop, plain.shows_cons_stop stop]

theorem shows_intChars (n : Int) : k.shows (Decimal.intChars n) = false := by
  have digits := plain.shows_digits (Decimal.isDigit_of_mem_natChars (n := n.natAbs))
  unfold Decimal.intChars
  split
  · rw [plain.shows_cons_stop (by decide), digits]
  · exact digits

omit plain in
theorem stops_newline (style : Style) (level : Nat) {next : List Char} (stops : Stops next) :
    Stops (style.newline level ++ next) := by
  unfold Style.newline
  split
  · exact stops
  · intro c mem
    obtain rfl := Option.some.inj mem
    decide

omit plain in
theorem stops_comma (style : Style) (level : Nat) (next : List Char) :
    Stops (style.comma level ++ next) := by
  obtain ⟨gap, comma, -⟩ := comma_eq style level
  rw [comma]
  intro c mem
  obtain rfl := Option.some.inj mem
  decide

theorem shows_comma (style : Style) (level : Nat) (next : List Char) :
    k.shows (style.comma level ++ next) = k.shows next := by
  obtain ⟨gap, comma, blank⟩ := comma_eq style level
  rw [comma, List.cons_append, plain.shows_cons_stop (by decide), shows_gap plain blank]

omit plain in
theorem stops_items (style : Style) (level : Nat) {items : List Value} (h : AllExact items)
    {next : List Char} (stops : Stops next) :
    Stops ((writeItems style level items).chars ++ next) := by
  cases items with
  | nil => exact stops
  | cons v items =>
    rw [writeItems_chars style level h.1.isJson, List.append_assoc]
    exact stops_comma style level _

omit plain in
theorem stops_entries (style : Style) (level : Nat) {entries : List (Value × Value)}
    (h : EntriesExact entries) {next : List Char} (stops : Stops next) :
    Stops ((writeEntries style level entries).chars ++ next) := by
  cases entries with
  | nil => exact stops
  | cons entry entries =>
    obtain ⟨key, v⟩ := entry
    obtain ⟨⟨name, rfl⟩, first, -⟩ := h
    rw [writeEntries_chars style level name first.isJson, List.append_assoc]
    exact stops_comma style level _

/-- A key, the colon and the blank behind it. -/
theorem shows_key (name : String) (next : List Char) :
    k.shows (stringChars name.toList ++ ':' :: ' ' :: next) =
      (k.shows (escaped name.toList) || k.shows next) := by
  rw [shows_string plain, plain.shows_cons_stop (by decide), plain.shows_cons_stop (by decide)]

mutual

/-- A value shows what its strings show, and what follows shows itself. -/
theorem shows_write (style : Style) (level : Nat) : ∀ {v : Value}, IsExact v →
    ∀ {next : List Char}, Stops next → k.shows ((write style level v).chars ++ next) =
      (v.texts.any (fun s => k.shows (escaped s.toList)) || k.shows next)
  | .null, _, next, stops => by
    have short : k.shows (write style level .null).chars = false :=
      IdKind.shows_short (by change "null".toList.length < 14; decide)
    rw [shows_append_stops plain stops, short]
    rfl
  | .bool b, _, next, stops => by
    have short : k.shows (write style level (.bool b)).chars = false :=
      IdKind.shows_short (by change (boolChars b).length < 14; cases b <;> decide)
    rw [shows_append_stops plain stops, short]
    rfl
  | .text s, _, next, _ => by
    change k.shows (stringChars s.toList ++ next) = _
    rw [shows_string plain]
    simp [Value.texts]
  | .int n, h, next, stops => by
    rw [write_int_chars style level h, shows_append_stops plain stops, shows_intChars plain]
    rfl
  | .list [], _, next, _ => by
    have empty : (write style level (.list [])).chars ++ next = '[' :: ']' :: next := rfl
    rw [empty, plain.shows_cons_stop (by decide), plain.shows_cons_stop (by decide)]
    rfl
  | .list (v :: items), h, next, _ => by
    -- The first item ends at the next comma or at the bracket, and no ID reaches over these.
    have closed : Stops (']' :: next) := by
      rintro c ⟨⟩
      decide
    have behind := stops_items style (level + 1) h.2 (stops_newline style level closed)
    rw [write_list_chars style level h.1.isJson h.2.allJson]
    simp only [List.cons_append, List.append_assoc, List.nil_append]
    rw [plain.shows_cons_stop (by decide), shows_gap plain (newline_blank style (level + 1)),
      shows_write style (level + 1) h.1 behind,
      shows_items style (level + 1) h.2 (stops_newline style level closed),
      shows_gap plain (newline_blank style level), plain.shows_cons_stop (by decide),
      Value.texts, itemTexts, List.any_append, Bool.or_assoc]
  | .dictionary [], _, next, _ => by
    have empty : (write style level (.dictionary [])).chars ++ next =
        '\x7b' :: '\x7d' :: next := rfl
    rw [empty, plain.shows_cons_stop (by decide), plain.shows_cons_stop (by decide)]
    rfl
  | .dictionary ((key, v) :: entries), h, next, _ => by
    obtain ⟨-, ⟨name, rfl⟩, first, others⟩ := h
    have closed : Stops ('\x7d' :: next) := by
      rintro c ⟨⟩
      decide
    have behind := stops_entries style (level + 1) others (stops_newline style level closed)
    rw [write_dictionary_chars style level name first.isJson others.entriesJson]
    simp only [List.cons_append, List.append_assoc, List.nil_append]
    rw [plain.shows_cons_stop (by decide), shows_gap plain (newline_blank style (level + 1)),
      shows_key plain, shows_write style (level + 1) first behind,
      shows_entries style (level + 1) others (stops_newline style level closed),
      shows_gap plain (newline_blank style level), plain.shows_cons_stop (by decide)]
    simp [Value.texts, entryTexts, Bool.or_assoc]
  | .float _, h, _, _ | .date _, h, _, _ | .dateTime _, h, _, _ => h.elim

theorem shows_items (style : Style) (level : Nat) : ∀ {items : List Value}, AllExact items →
    ∀ {next : List Char}, Stops next → k.shows ((writeItems style level items).chars ++ next) =
      ((itemTexts items).any (fun s => k.shows (escaped s.toList)) || k.shows next)
  | [], _, _, _ => rfl
  | v :: items, h, next, stops => by
    rw [writeItems_chars style level h.1.isJson, List.append_assoc, List.append_assoc,
      shows_comma plain, shows_write style level h.1 (stops_items style level h.2 stops),
      shows_items style level h.2 stops, itemTexts, List.any_append, Bool.or_assoc]

theorem shows_entries (style : Style) (level : Nat) : ∀ {entries : List (Value × Value)},
    EntriesExact entries → ∀ {next : List Char}, Stops next →
      k.shows ((writeEntries style level entries).chars ++ next) =
        ((entryTexts entries).any (fun s => k.shows (escaped s.toList)) || k.shows next)
  | [], _, _, _ => rfl
  | (key, v) :: entries, h, next, stops => by
    obtain ⟨⟨name, rfl⟩, first, others⟩ := h
    rw [writeEntries_chars style level name first.isJson]
    simp only [List.cons_append, List.append_assoc]
    rw [shows_comma plain, shows_key plain,
      shows_write style level first (stops_entries style level others stops),
      shows_entries style level others stops]
    simp [Value.texts, entryTexts, Bool.or_assoc]

end

/-- A document shows an ID exactly where one of its strings does as it is written. -/
theorem shows_document (style : Style) {v : Value} (h : IsExact v) :
    k.shows (document style v).chars = v.texts.any fun s => k.shows (escaped s.toList) := by
  have none : Stops [] := by
    rintro c ⟨⟩
  have whole := shows_write plain style 0 h none
  rwa [List.append_nil, IdKind.shows, Bool.or_false] at whole

omit plain

theorem escapeChar_alnum {c : Char} (h : c.isAlphanum = true) : escapeChar c = [c] :=
  forall_isAlphanum (p := fun c => escapeChar c = [c]) (by decide) h

/-- A character is written as itself, or with a backslash first. -/
theorem escapeChar_cases (c : Char) :
    escapeChar c = [c] ∨ ∃ letters, escapeChar c = '\\' :: letters := by
  unfold escapeChar
  split
  · next letter short => exact .inr ⟨[letter], rfl⟩
  · split
    · exact .inl rfl
    · split
      · exact .inr ⟨_, rfl⟩
      · exact .inr ⟨_, rfl⟩

theorem escaped_cons (c : Char) (s : List Char) : escaped (c :: s) = escapeChar c ++ escaped s :=
  List.flatMap_cons

section

variable (ascii : k.IsAscii)
include ascii

theorem run_escaped (s : List Char) : k.run (escaped s) = k.run s := by
  induction s with
  | nil => rfl
  | cons c s ih =>
    rw [escaped_cons]
    by_cases follows : k.tail c = true
    · rw [escapeChar_alnum (ascii.behind c follows), List.singleton_append, IdKind.run_cons,
        IdKind.run_cons, ih]
    · have none : k.run (c :: s) = 0 := by rw [IdKind.run_cons, if_neg follows]
      rcases escapeChar_cases c with itself | ⟨letters, escape⟩
      · rw [itself, List.singleton_append, IdKind.run_cons, if_neg follows, none]
      · rw [escape, List.cons_append, IdKind.run_cons, ascii.tail_stop (by decide), none]
        rfl

/-- What is written goes on as an ID exactly where the text does. -/
theorem goesOn_escaped {word : List Char} (part : word ⊆ k.word) (s : List Char) :
    k.goesOn word (escaped s) = k.goesOn word s := by
  induction word generalizing s with
  | nil => rw [IdKind.goesOn, IdKind.goesOn, run_escaped ascii]
  | cons w word ih =>
    obtain ⟨first, others⟩ := List.cons_subset.mp part
    cases s with
    | nil => rfl
    | cons c s =>
      rw [escaped_cons]
      rcases escapeChar_cases c with itself | ⟨letters, escape⟩
      · rw [itself, List.singleton_append, IdKind.goesOn, IdKind.goesOn, ih others]
      · -- A character that is escaped is no letter, so the word does not go on with it either.
        have other : (k.fold c == w) = false := by
          rw [beq_eq_false_iff_ne]
          rintro rfl
          have itself := escapeChar_alnum (ascii.letter c first)
          rw [escape] at itself
          obtain ⟨rfl, -⟩ := List.cons_eq_cons.mp itself
          have letter := ascii.letter '\\' first
          cases letter
        have stop : isFoldedAlnum '\\' = false := by decide
        have stops := ascii.goesOn_append_stop stop part [] (letters ++ escaped s)
        rw [escape, List.cons_append, ← List.nil_append ('\\' :: _), stops, IdKind.goesOn,
          IdKind.goesOn, other, Bool.false_and]

/-- What a text shows, it shows as it is written, too. -/
theorem shows_escaped {s : List Char} (h : k.shows s = true) : k.shows (escaped s) = true := by
  induction s with
  | nil => exact h
  | cons c s ih =>
    have whole : k.goesOn k.word (escaped (c :: s)) = k.goesOn k.word (c :: s) :=
      goesOn_escaped ascii (List.Subset.refl _) (c :: s)
    rw [IdKind.shows, Bool.or_eq_true] at h
    rw [escaped_cons] at whole ⊢
    rcases h with here | later
    · rw [← whole] at here
      exact IdKind.shows_of_goesOn here ascii.named
    · exact IdKind.shows_append_right (ih later) _

end

/-- Does the escape of a character end in the first letter of a base or a record? Then an ID can
come about with what stands behind it. -/
def isGluing (c : Char) : Bool :=
  escapeChar c != [c] &&
    ((escapeChar c).getLast? == some 'a' || (escapeChar c).getLast? == some 'r')

theorem clear_of_all {s : List Char} (h : s.all (!isGluing ·) = true) :
    ∀ c ∈ s, isGluing c = false := by
  simpa only [List.all_eq_true, Bool.not_eq_true'] using h

theorem digitChar_ne (n : Nat) : Nat.digitChar (n % 16) ≠ 'p' ∧ Nat.digitChar (n % 16) ≠ 'r' := by
  have all : ∀ d : Fin 16, Nat.digitChar d ≠ 'p' ∧ Nat.digitChar d ≠ 'r' := by decide
  exact all ⟨n % 16, Nat.mod_lt n (by decide)⟩

section

variable (kinds : k ∈ idKinds)
include kinds

/-- No ID begins with two letters of an escape. -/
theorem shows_inside {l d : Char} (first : l ≠ 'p' ∧ l ≠ 'r') (second : d ≠ 'p')
    (rest : List Char) : k.shows (l :: d :: rest) = k.shows (d :: rest) := by
  have none : k.goesOn k.word (l :: d :: rest) = false := by
    refine forall_idKinds (p := fun k => k.goesOn k.word (l :: d :: rest) = false) ?_ ?_ ?_ k kinds
    · simp [exactKind, IdKind.goesOn, first.1]
    · simp [exactKind, IdKind.goesOn, second]
    · simp [exactKind, IdKind.goesOn, first.2]
  rw [IdKind.shows, none, Bool.false_or]

theorem shows_last {l : Char} (h : l ≠ 'p' ∧ l ≠ 'r') (noA : l ≠ 'a') (rest : List Char) :
    k.shows (l :: rest) = k.shows rest := by
  have none : k.goesOn k.word (l :: rest) = false := by
    refine forall_idKinds (p := fun k => k.goesOn k.word (l :: rest) = false) ?_ ?_ ?_ k kinds
    · simp [exactKind, IdKind.goesOn, h.1]
    · simp [exactKind, IdKind.goesOn, noA]
    · simp [exactKind, IdKind.goesOn, h.2]
  rw [IdKind.shows, none, Bool.false_or]

/-- A unit shows nothing with what stands behind it unless it ends in the first letter of a base. -/
theorem shows_unit {n : Nat} (noA : Nat.digitChar (n % 16) ≠ 'a') (rest : List Char) :
    k.shows (unitChars n ++ rest) = k.shows rest := by
  have plain := idKinds_isPlain k kinds
  have written : unitChars n ++ rest = '\\' :: 'u' :: (hexDigits 4 n ++ rest) := rfl
  rw [written, hexDigits_four]
  simp only [List.cons_append, List.nil_append]
  rw [plain.shows_cons_stop (by decide), shows_inside kinds (by decide) (digitChar_ne _).1,
    shows_inside kinds (digitChar_ne _) (digitChar_ne _).1,
    shows_inside kinds (digitChar_ne _) (digitChar_ne _).1,
    shows_inside kinds (digitChar_ne _) (digitChar_ne _).1, shows_last kinds (digitChar_ne _) noA]

/-- The first unit of a pair may end in any letter: a backslash follows. -/
theorem shows_units (n : Nat) {m : Nat} (noA : Nat.digitChar (m % 16) ≠ 'a') (rest : List Char) :
    k.shows (unitChars n ++ unitChars m ++ rest) = k.shows rest := by
  have plain := idKinds_isPlain k kinds
  have short : k.shows (unitChars n) = false :=
    IdKind.shows_short (by simp [unitChars, hexDigits_four])
  have second := shows_unit kinds noA rest
  rw [unitChars, List.cons_append, plain.shows_cons_stop (by decide)] at second
  rw [List.append_assoc, unitChars.eq_def m, List.cons_append,
    plain.shows_append_stop (by decide), short, Bool.false_or, second]

/-- An escape that does not go on with what stands behind it. -/
theorem shows_escape {c : Char} (escape : escapeChar c ≠ [c]) (clear : isGluing c = false)
    (rest : List Char) : k.shows (escapeChar c ++ rest) = k.shows rest := by
  have plain := idKinds_isPlain k kinds
  have last : (escapeChar c).getLast? ≠ some 'a' ∧ (escapeChar c).getLast? ≠ some 'r' := by
    simpa [isGluing, escape] using clear
  -- One case for each form of an escape; only a carriage return ends in the letter of a record.
  revert escape last
  unfold escapeChar
  split
  · next letter short =>
    intro _ last
    have noP : letter ≠ 'p' ∧ letter ≠ 'a' := by
      unfold shortEscape? at short
      split at short <;> cases short <;> decide
    have noR : letter ≠ 'r' := by simpa using last.2
    simp only [List.cons_append, List.nil_append]
    rw [plain.shows_cons_stop (by decide), shows_last kinds ⟨noP.1, noR⟩ noP.2]
  · split
    · exact fun escape => absurd rfl escape
    · split
      · intro _ last
        exact shows_unit kinds (by simpa [unitChars, hexDigits_four] using last.1) rest
      · intro _ last
        exact shows_units kinds _ (by simpa [unitChars, hexDigits_four] using last.1) rest

/-- A text without such characters shows what it shows as it is written. -/
theorem shows_escaped_clear {s : List Char} (clear : ∀ c ∈ s, isGluing c = false) :
    k.shows (escaped s) = k.shows s := by
  have ascii := idKinds_isAscii k kinds
  induction s with
  | nil => rfl
  | cons c s ih =>
    obtain ⟨first, others⟩ := List.forall_mem_cons.mp clear
    have whole := goesOn_escaped ascii (List.Subset.refl _) (c :: s)
    rw [escaped_cons] at whole ⊢
    by_cases itself : escapeChar c = [c]
    · rw [itself, List.singleton_append] at whole ⊢
      rw [IdKind.shows, IdKind.shows, whole, ih others]
    · obtain ⟨letters, escape⟩ := (escapeChar_cases c).resolve_left itself
      have none : k.goesOn k.word (c :: s) = false := by
        rw [← whole, escape, List.cons_append, ascii.goesOn_stop (by decide)]
      rw [shows_escape kinds itself first, ih others, IdKind.shows, none, Bool.false_or]

end

end Json

end BaseGateway
