import BaseGateway.Proofs.Json.Floats

/-!
# What is written reads back

A document in which the keys of a dictionary differ is read back from its text as it was, on one
line or on many (`read_document`).

* what the writer gives for a list or a dictionary is told by its parts (`write_list_chars`,
  `write_dictionary_chars`);
* a number, a list and a dictionary are read where their parts are (`readValue_int`,
  `readValue_float`, `readValue_list`, `readValue_dictionary`);
* one entry is read back with what follows it (`readEntry_last`, `readEntry_more`);
* lists and dictionaries are read back part by part, white space in between (`readValue_write`,
  `readItems_write`, `readEntries_write`).
-/

namespace BaseGateway.Json

open Value

mutual

/-- A document that is told by its text: no float stands in it, and the keys of a dictionary
differ. -/
def IsExact : Value → Prop
  | .null | .bool _ | .text _ => True
  | .int n => Decimal.IsShort n
  | .list items => AllExact items
  | .dictionary entries =>
    entries.Pairwise (fun a b => a.1.sameKey b.1 = false) ∧ EntriesExact entries
  | .float _ | .date _ | .dateTime _ => False

def AllExact : List Value → Prop
  | [] => True
  | v :: rest => IsExact v ∧ AllExact rest

def EntriesExact : List (Value × Value) → Prop
  | [] => True
  | (key, v) :: rest => (∃ s, key = .text s) ∧ IsExact v ∧ EntriesExact rest

end

mutual

theorem IsExact.isDocument : ∀ {v : Value}, IsExact v → IsDocument v
  | .null, _ | .bool _, _ | .text _, _ => trivial
  | .int _, h => h
  | .list _, h => AllExact.allDocuments h
  | .dictionary _, h => ⟨h.1, EntriesExact.entriesDocuments h.2⟩

theorem AllExact.allDocuments : ∀ {items : List Value}, AllExact items → AllDocuments items
  | [], _ => trivial
  | _ :: _, h => ⟨h.1.isDocument, AllExact.allDocuments h.2⟩

theorem EntriesExact.entriesDocuments : ∀ {entries : List (Value × Value)},
    EntriesExact entries → EntriesDocuments entries
  | [], _ => trivial
  | (_, _) :: _, h => ⟨h.1, h.2.1.isDocument, EntriesExact.entriesDocuments h.2.2⟩

end

theorem IsExact.isJson {v : Value} (h : IsExact v) : v.IsJson := h.isDocument.isJson

theorem AllExact.allJson {items : List Value} (h : AllExact items) : AllJson items :=
  h.allDocuments.allJson

theorem EntriesExact.entriesJson {entries : List (Value × Value)} (h : EntriesExact entries) :
    EntriesJson entries :=
  h.entriesDocuments.entriesJson

theorem entriesExact_map {fields : List (String × Value)} (h : ∀ field ∈ fields, IsExact field.2) :
    EntriesExact (fields.map fun (key, v) => (.text key, v)) := by
  induction fields with
  | nil => trivial
  | cons field rest ih =>
    rw [List.forall_mem_cons] at h
    exact ⟨⟨field.1, rfl⟩, h.1, ih h.2⟩

/-- A record is told by its text where its keys differ. -/
theorem isExact_record {fields : List (String × Value)} (differ : (fields.map Prod.fst).Nodup)
    (h : fields.Forall fun field => IsExact field.2) : IsExact (record fields) := by
  refine ⟨?_, entriesExact_map (List.forall_iff_forall_mem.mp h)⟩
  rw [List.Nodup, List.pairwise_map] at differ
  rw [List.pairwise_map]
  refine differ.imp fun other => ?_
  simpa [sameKey] using other

theorem append_chars {a b : Written} (first : a.fault = none) :
    (a ++ b).chars = a.chars ++ b.chars := by
  change (Written.append a b).chars = _
  rw [Written.append, first]

/-- White space is skipped up to the first character that is none. -/
theorem skipSpace_gap {gap : List Char} (blank : ∀ c ∈ gap, isSpace c = true) {c : Char}
    (solid : isSpace c = false) (s : List Char) : skipSpace (gap ++ c :: s) = c :: s := by
  rw [skipSpace, List.dropWhile_append_of_pos blank, List.dropWhile_cons_of_neg (by simp [solid])]

theorem newline_blank (style : Style) (level : Nat) :
    ∀ c ∈ style.newline level, isSpace c = true := by
  unfold Style.newline
  split
  · simp
  · intro c mem
    rcases List.mem_cons.mp mem with rfl | mem
    · rfl
    · rw [List.eq_of_mem_replicate mem]
      rfl

/-- A comma and white space. -/
theorem comma_eq (style : Style) (level : Nat) :
    ∃ gap, style.comma level = ',' :: gap ∧ ∀ c ∈ gap, isSpace c = true := by
  unfold Style.comma
  split
  · exact ⟨[' '], rfl, by simp [isSpace]⟩
  · exact ⟨_, rfl, newline_blank style level⟩

theorem writeBefore_chars (before : List Char) {v : Value} (h : v.IsJson) :
    (writeBefore before v).chars = before := by
  cases v with
  | int n => rw [writeBefore, intText?_isSome h, Option.isSome_some, if_pos rfl]
  | _ => rfl

theorem write_list_chars (style : Style) (level : Nat) {v : Value} (first : v.IsJson)
    {items : List Value} (others : AllJson items) :
    (write style level (.list (v :: items))).chars =
      '[' :: (style.newline (level + 1) ++ ((write style (level + 1) v).chars ++
        ((writeItems style (level + 1) items).chars ++ (style.newline level ++ [']'])))) := by
  have begun := writeBefore_fault ('[' :: style.newline (level + 1)) first
  have written := append_fault begun (write_fault style (level + 1) first)
  have more := append_fault written (writeItems_fault style (level + 1) others)
  rw [write, append_chars more, append_chars written, append_chars begun, writeBefore_chars _ first]
  simp

theorem writeItems_chars (style : Style) (level : Nat) {v : Value} (first : v.IsJson)
    (items : List Value) :
    (writeItems style level (v :: items)).chars = style.comma level ++
      ((write style level v).chars ++ (writeItems style level items).chars) := by
  have begun := writeBefore_fault (style.comma level) first
  have written := append_fault begun (write_fault style level first)
  rw [writeItems, append_chars written, append_chars begun, writeBefore_chars _ first,
    List.append_assoc]

theorem writeKey_chars (before : List Char) (key : String) :
    (writeKey before (.text key)).chars = before ++ stringChars key.toList ++ [':', ' '] := rfl

theorem write_dictionary_chars (style : Style) (level : Nat) (key : String) {v : Value}
    (first : v.IsJson) {entries : List (Value × Value)} (others : EntriesJson entries) :
    (write style level (.dictionary ((.text key, v) :: entries))).chars =
      '\x7b' :: (style.newline (level + 1) ++ (stringChars key.toList ++ (':' :: ' ' ::
        ((write style (level + 1) v).chars ++ ((writeEntries style (level + 1) entries).chars ++
          (style.newline level ++ ['\x7d'])))))) := by
  have begun : (⟨'\x7b' :: style.newline (level + 1), none⟩ : Written).fault = none := rfl
  have named : ∃ s, Value.text key = .text s := ⟨key, rfl⟩
  have keyed := append_fault begun (writeKey_fault [] named)
  have written := append_fault keyed (write_fault style (level + 1) first)
  have more := append_fault written (writeEntries_fault style (level + 1) others)
  rw [write, append_chars more, append_chars written, append_chars keyed, append_chars begun,
    writeKey_chars]
  simp

theorem writeEntries_chars (style : Style) (level : Nat) (key : String) {v : Value}
    (first : v.IsJson) (entries : List (Value × Value)) :
    (writeEntries style level ((.text key, v) :: entries)).chars =
      style.comma level ++ (stringChars key.toList ++ (':' :: ' ' ::
        ((write style level v).chars ++ (writeEntries style level entries).chars))) := by
  have named : ∃ s, Value.text key = .text s := ⟨key, rfl⟩
  have begun := writeKey_fault (style.comma level) named
  have written := append_fault begun (write_fault style level first)
  rw [writeEntries, append_chars written, append_chars begun, writeKey_chars]
  simp

theorem write_int_chars (style : Style) (level : Nat) {n : Int} (h : IsJson (.int n)) :
    (write style level (.int n)).chars = Decimal.intChars n := by
  change ((scalar? style (.int n)).getD (.ofString "")).chars = _
  rw [scalar?_int style h, Option.getD_some, Written.ofString, String.toList_ofList]

/-- The characters that numbers begin with, the names of floats without digits included. -/
def IsNumberStart (c : Char) : Prop := c = '-' ∨ c = 'N' ∨ c = 'I' ∨ c.isDigit = true

instance (c : Char) : Decidable (IsNumberStart c) := inferInstanceAs (Decidable (_ ∨ _))

theorem IsNumberStart.ne {c d : Char} (h : IsNumberStart c) (other : ¬IsNumberStart d) : c ≠ d := by
  rintro rfl
  exact other h

theorem IsNumberStart.solid {c : Char} (h : IsNumberStart c) : isSpace c = false := by
  simp only [isSpace, Bool.or_eq_false_iff, beq_eq_false_iff_ne]
  exact ⟨⟨⟨h.ne (by decide), h.ne (by decide)⟩, h.ne (by decide)⟩, h.ne (by decide)⟩

theorem intChars_head (n : Int) : ∃ c t, Decimal.intChars n = c :: t ∧ IsNumberStart c := by
  unfold Decimal.intChars
  split
  · exact ⟨'-', _, rfl, by decide⟩
  · have nonempty : Decimal.natChars n.natAbs ≠ [] := Nat.toDigits_ne_nil
    obtain ⟨d, digits, begins⟩ := List.exists_cons_of_ne_nil nonempty
    exact ⟨d, digits, begins,
      .inr (.inr (.inr (Decimal.isDigit_of_mem_natChars d (begins ▸ List.mem_cons_self))))⟩

theorem floatChars_head (x : Float) : ∃ c t, floatChars x = c :: t ∧ IsNumberStart c := by
  unfold floatChars
  cases reading : Decimal.Reading.ofFloat x with
  | nan => exact ⟨'N', _, rfl, by decide⟩
  | infinite negative => cases negative <;> exact ⟨_, _, rfl, by decide⟩
  | finite negative b =>
    obtain ⟨s, float, chars, _⟩ := Decimal.exists_spelling_of_finite reading
    obtain ⟨d, t, begins, digit⟩ := spelling_head float
    dsimp only
    rw [Decimal.floatChars, reading]
    dsimp only
    rw [chars, begins]
    cases negative with
    | true => exact ⟨'-', _, rfl, by decide⟩
    | false => exact ⟨d, t, rfl, .inr (.inr (.inr digit))⟩

/-- No value begins with white space, the bracket that ends a list, or the mark of an encoding. -/
theorem write_head (style : Style) (level : Nat) {v : Value} (h : IsDocument v) :
    ∃ c t, (write style level v).chars = c :: t ∧
      isSpace c = false ∧ c ≠ ']' ∧ c ≠ '\uFEFF' := by
  have json := h.isJson
  cases v with
  | null => exact ⟨'n', _, rfl, rfl, by decide, by decide⟩
  | bool b => cases b <;> exact ⟨_, _, rfl, rfl, by decide, by decide⟩
  | text s => exact ⟨'"', _, rfl, rfl, by decide, by decide⟩
  | int n =>
    obtain ⟨c, t, begins, start⟩ := intChars_head n
    exact ⟨c, t, (write_int_chars style level json).trans begins, start.solid,
      start.ne (by decide), start.ne (by decide)⟩
  | float x =>
    obtain ⟨c, t, begins, start⟩ := floatChars_head x
    exact ⟨c, t, begins, start.solid, start.ne (by decide), start.ne (by decide)⟩
  | list items =>
    cases items with
    | nil => exact ⟨'[', _, rfl, rfl, by decide, by decide⟩
    | cons w rest =>
      exact ⟨'[', _, write_list_chars style level json.1 json.2, rfl, by decide, by decide⟩
  | dictionary entries =>
    match entries, json with
    | [], _ => exact ⟨'\x7b', _, rfl, rfl, by decide, by decide⟩
    | (key, w) :: rest, ⟨⟨s, named⟩, first, others⟩ =>
      subst named
      exact ⟨'\x7b', _, write_dictionary_chars style level s first others, rfl, by decide,
        by decide⟩
  | date _ | dateTime _ => exact h.elim

theorem ends_newline (style : Style) (level : Nat) {c : Char} (close : c = ']' ∨ c = '\x7d')
    (rest : List Char) : Ends (style.newline level ++ c :: rest) := by
  unfold Style.newline
  split
  · intro d head
    obtain rfl := Option.some.inj head
    rcases close with rfl | rfl <;> decide
  · intro d head
    obtain rfl := Option.some.inj head
    decide

theorem ends_comma (style : Style) (level : Nat) (rest : List Char) :
    Ends (style.comma level ++ rest) := by
  obtain ⟨gap, comma, _⟩ := comma_eq style level
  rw [comma]
  intro c head
  obtain rfl := Option.some.inj head
  decide

/-- What begins neither a string nor a list nor a dictionary is a name or a number. -/
theorem readValue_plain (fuel : Nat) {s : List Char} (h : ∀ c, s.head? = some c →
    c ≠ '"' ∧ c ≠ '[' ∧ c ≠ '\x7b') : readValue (fuel + 1) s = readPlain s := by
  unfold readValue
  split
  · exact absurd rfl (h '"' rfl).1
  · exact absurd rfl (h '[' rfl).2.1
  · exact absurd rfl (h '\x7b' rfl).2.2
  · rfl

/-- A string is read back with its quotes. -/
theorem readValue_string (s : String) {fuel : Nat} (room : s.length + 1 < fuel) (rest : List Char) :
    readValue fuel (stringChars s.toList ++ rest) = .ok (.text s, rest) := by
  obtain ⟨fuel, rfl⟩ : ∃ more, fuel = more + 1 := ⟨fuel - 1, by omega⟩
  have enough : s.toList.length < fuel := by
    rw [String.length_toList]
    omega
  have quoted : stringChars s.toList ++ rest =
      '"' :: (s.toList.flatMap escapeChar ++ '"' :: rest) := by
    simp [stringChars]
  rw [quoted, readValue, readString_escape _ s.toList enough]
  change Except.ok (Value.text (String.ofList s.toList), rest) = _
  rw [String.ofList_toList]

/-- What begins as a number does is a name or a number. -/
theorem readValue_start (fuel : Nat) {c : Char} (start : IsNumberStart c) (s : List Char) :
    readValue (fuel + 1) (c :: s) = readPlain (c :: s) := by
  refine readValue_plain fuel fun d head => ?_
  obtain rfl := Option.some.inj head
  exact ⟨start.ne (by decide), start.ne (by decide), start.ne (by decide)⟩

/-- An integer is read back with what follows it. -/
theorem readValue_int (fuel : Nat) {n : Int} (short : Decimal.IsShort n) {rest : List Char}
    (ends : Ends rest) :
    readValue (fuel + 1) (Decimal.intChars n ++ rest) = .ok (.int n, rest) := by
  obtain ⟨c, t, begins, start⟩ := intChars_head n
  have read := readPlain_int short ends
  rw [begins, List.cons_append] at read ⊢
  rw [readValue_start fuel start, read]

/-- A float is read back with what follows it. -/
theorem readValue_float (fuel : Nat) (x : Float) {rest : List Char} (ends : Ends rest) :
    readValue (fuel + 1) (floatChars x ++ rest) = .ok (.float x, rest) := by
  obtain ⟨c, t, begins, start⟩ := floatChars_head x
  have read := readPlain_float x ends
  rw [begins, List.cons_append] at read ⊢
  rw [readValue_start fuel start, read]

/-- A list is read where its items are. -/
theorem readValue_list {fuel : Nat} {s t rest : List Char} {c : Char} {items : List Value}
    (inside : skipSpace s = c :: t) (opens : c ≠ ']')
    (read : readItems fuel (c :: t) = .ok (items, rest)) :
    readValue (fuel + 1) ('[' :: s) = .ok (.list items, rest) := by
  rw [readValue, inside]
  split
  · next wrong => exact absurd (List.cons.inj wrong).1 opens
  · rw [read]
    rfl

/-- A dictionary is read where its entries are, as they are where their keys differ. -/
theorem readValue_dictionary {fuel : Nat} {s t rest : List Char} {c : Char} {entries : Entries}
    (inside : skipSpace s = c :: t) (opens : c ≠ '\x7d')
    (differ : entries.Differ) (read : readEntries fuel (c :: t) = .ok (entries, rest)) :
    readValue (fuel + 1) ('\x7b' :: s) = .ok (.dictionary entries, rest) := by
  rw [readValue, inside]
  split
  · next wrong => exact absurd (List.cons.inj wrong).1 opens
  · rw [read]
    change Except.ok (Value.dictionary (Entries.ofList entries), rest) = _
    rw [Entries.ofList_eq differ]

/-- A character takes at least one. -/
theorem length_flatMap_escapeChar (s : List Char) : s.length ≤ (s.flatMap escapeChar).length := by
  induction s with
  | nil => exact Nat.le_refl _
  | cons c rest ih =>
    have some : 1 ≤ (escapeChar c).length := by
      unfold escapeChar
      split
      · simp
      · split
        · simp
        · split <;> simp [unitChars]
    rw [List.flatMap_cons, List.length_append, List.length_cons]
    omega

theorem length_stringChars (s : List Char) : s.length + 2 ≤ (stringChars s).length := by
  have long := length_flatMap_escapeChar s
  simp only [stringChars, List.cons_append, List.length_cons, List.length_append, List.length_nil]
  omega

theorem readItems_last {fuel : Nat} {s behind rest : List Char} {v : Value}
    (first : readValue fuel s = .ok (v, behind)) (closed : skipSpace behind = ']' :: rest) :
    readItems (fuel + 1) s = .ok ([v], rest) := by
  rw [readItems, first]
  dsimp only [bind, Except.bind]
  rw [closed]
  rfl

theorem readItems_more {fuel : Nat} {s behind more rest : List Char} {v : Value}
    {items : List Value} (first : readValue fuel s = .ok (v, behind))
    (comma : skipSpace behind = ',' :: more)
    (others : readItems fuel (skipSpace more) = .ok (items, rest)) :
    readItems (fuel + 1) s = .ok (v :: items, rest) := by
  rw [readItems, first]
  dsimp only [bind, Except.bind]
  rw [comma]
  simp only [others]
  rfl

theorem readEntries_last {fuel : Nat} {r behind more behind' rest : List Char} {key : List Char}
    {v : Value} (keyed : readString (r.length + 1) fuel r = .ok (key, behind))
    (colon : skipSpace behind = ':' :: more)
    (value : readValue fuel (skipSpace more) = .ok (v, behind'))
    (closed : skipSpace behind' = '\x7d' :: rest) :
    readEntries (fuel + 1) ('"' :: r) = .ok ([(.text (String.ofList key), v)], rest) := by
  rw [readEntries, List.length_cons, keyed]
  dsimp only [bind, Except.bind]
  rw [colon]
  simp only [value, closed]
  rfl

theorem readEntries_more {fuel : Nat} {r behind more behind' more' rest : List Char}
    {key : List Char} {v : Value} {entries : List (Value × Value)}
    (keyed : readString (r.length + 1) fuel r = .ok (key, behind))
    (colon : skipSpace behind = ':' :: more)
    (value : readValue fuel (skipSpace more) = .ok (v, behind'))
    (comma : skipSpace behind' = ',' :: more')
    (others : readEntries fuel (skipSpace more') = .ok (entries, rest)) :
    readEntries (fuel + 1) ('"' :: r) = .ok ((.text (String.ofList key), v) :: entries, rest) := by
  rw [readEntries, List.length_cons, keyed]
  dsimp only [bind, Except.bind]
  rw [colon]
  simp only [value, comma, others]
  rfl

/-- White space and then a value, the gap skipped. -/
theorem skipSpace_write (style : Style) (level : Nat) {v : Value} (h : IsDocument v)
    {gap : List Char} (blank : ∀ c ∈ gap, isSpace c = true) (s : List Char) :
    skipSpace (gap ++ ((write style level v).chars ++ s)) = (write style level v).chars ++ s := by
  obtain ⟨c, t, begins, solid, _⟩ := write_head style level h
  rw [begins, List.cons_append]
  exact skipSpace_gap blank solid (t ++ s)

theorem skipSpace_comma (style : Style) (level : Nat) (s : List Char) :
    ∃ gap, skipSpace (style.comma level ++ s) = ',' :: (gap ++ s) ∧
      ∀ c ∈ gap, isSpace c = true := by
  obtain ⟨gap, comma, blank⟩ := comma_eq style level
  refine ⟨gap, ?_, blank⟩
  rw [comma]
  rfl

theorem skipSpace_string (name : String) {gap : List Char} (blank : ∀ c ∈ gap, isSpace c = true)
    (s : List Char) :
    skipSpace (gap ++ (stringChars name.toList ++ s)) = stringChars name.toList ++ s := by
  simp only [stringChars, List.cons_append]
  exact skipSpace_gap blank rfl _

theorem readString_key (name : String) {fuel : Nat} (room : name.length < fuel) (s : List Char) :
    ∃ r, stringChars name.toList ++ s = '"' :: r ∧
      readString (r.length + 1) fuel r = .ok (name.toList, s) := by
  refine ⟨name.toList.flatMap escapeChar ++ '"' :: s, by simp [stringChars], ?_⟩
  exact readString_escape _ name.toList (by rwa [String.length_toList])

section

variable (style : Style) (level : Nat) (name : String) {fuel : Nat} {v : Value} {s : List Char}

/-- An entry with the closing brace behind it. -/
theorem readEntry_last (h : IsDocument v) (room : name.length < fuel)
    (read : readValue fuel ((write style level v).chars ++ s) = .ok (v, s)) {rest : List Char}
    (closed : skipSpace s = '\x7d' :: rest) :
    readEntries (fuel + 1) (stringChars name.toList ++
      (':' :: ' ' :: ((write style level v).chars ++ s))) = .ok ([(.text name, v)], rest) := by
  have gap : ∀ c ∈ [' '], isSpace c = true := by simp [isSpace]
  obtain ⟨r, quoted, keyed⟩ := readString_key name room
    (':' :: ' ' :: ((write style level v).chars ++ s))
  have value := (skipSpace_write style level h gap s).symm ▸ read
  have last := readEntries_last keyed rfl value closed
  rwa [String.ofList_toList, ← quoted] at last

/-- An entry with a comma and more entries behind it. -/
theorem readEntry_more (h : IsDocument v) (room : name.length < fuel)
    (read : readValue fuel ((write style level v).chars ++ s) = .ok (v, s))
    {more rest : List Char} {entries : List (Value × Value)} (comma : skipSpace s = ',' :: more)
    (others : readEntries fuel (skipSpace more) = .ok (entries, rest)) :
    readEntries (fuel + 1) (stringChars name.toList ++
      (':' :: ' ' :: ((write style level v).chars ++ s))) =
        .ok ((.text name, v) :: entries, rest) := by
  have gap : ∀ c ∈ [' '], isSpace c = true := by simp [isSpace]
  obtain ⟨r, quoted, keyed⟩ := readString_key name room
    (':' :: ' ' :: ((write style level v).chars ++ s))
  have value := (skipSpace_write style level h gap s).symm ▸ read
  have whole := readEntries_more keyed rfl value comma others
  rwa [String.ofList_toList, ← quoted] at whole

end

mutual

/-- A value that is written is read back, whatever follows that could not go on with it. -/
theorem readValue_write (style : Style) (level : Nat) {fuel : Nat} {v : Value} (h : IsDocument v)
    {rest : List Char} (ends : Ends rest)
    (room : 2 * (write style level v).chars.length ≤ fuel) :
    readValue fuel ((write style level v).chars ++ rest) = .ok (v, rest) := by
  have json := h.isJson
  obtain ⟨c, t, begins, _, _⟩ := write_head style level h
  obtain ⟨fuel, rfl⟩ : ∃ more, fuel = more + 1 :=
    ⟨fuel - 1, by rw [begins, List.length_cons] at room; omega⟩
  cases v with
  | null => rfl
  | bool b => cases b <;> rfl
  | text s =>
    have long := length_stringChars s.toList
    rw [String.length_toList] at long
    change 2 * (stringChars s.toList).length ≤ _ at room
    exact readValue_string s (by omega) rest
  | int n =>
    rw [write_int_chars style level json]
    exact readValue_int fuel json ends
  | float x => exact readValue_float fuel x ends
  | list items =>
    cases items with
    | nil => rfl
    | cons v items =>
      obtain ⟨c, t, begins, solid, opens, _⟩ := write_head style (level + 1) h.1
      rw [write_list_chars style level json.1 json.2] at room ⊢
      simp only [List.length_cons, List.length_append, List.length_nil] at room
      have read := @readItems_write style (level + 1) fuel v h.1 items h.2 (style.newline level)
        (newline_blank style level) (fun r => ends_newline style level (.inl rfl) r) rest
        (by simp only [List.length_append, List.length_cons, List.length_nil]; omega)
      have inside := fun s =>
        skipSpace_write style (level + 1) h.1 (newline_blank style (level + 1)) s
      simp only [begins, List.cons_append, List.append_assoc, List.nil_append] at read inside ⊢
      exact readValue_list (inside _) opens read
  | dictionary entries =>
    match entries with
    | [] => rfl
    | (key, v) :: entries =>
      obtain ⟨differ, ⟨name, named⟩, first, others⟩ := h
      obtain ⟨_, json, json'⟩ := json
      subst named
      rw [write_dictionary_chars style level name json json'] at room ⊢
      simp only [List.length_cons, List.length_append, List.length_nil] at room
      have read := @readEntries_write style (level + 1) fuel name v first entries others
        (style.newline level) (newline_blank style level)
        (fun r => ends_newline style level (.inr rfl) r) rest
        (by simp only [List.length_append, List.length_cons, List.length_nil]; omega)
      have inside := fun s => skipSpace_string name (newline_blank style (level + 1)) s
      simp only [stringChars, List.cons_append, List.append_assoc, List.nil_append] at read inside ⊢
      exact readValue_dictionary (inside _) (by decide) differ read
  | date _ | dateTime _ => exact h.elim
termination_by fuel

theorem readItems_write (style : Style) (level : Nat) {fuel : Nat} {v : Value}
    (first : IsDocument v) {items : List Value} (others : AllDocuments items) {close : List Char}
    (blank : ∀ c ∈ close, isSpace c = true) (ends : ∀ r, Ends (close ++ ']' :: r))
    {rest : List Char}
    (room : 2 * ((write style level v).chars ++ ((writeItems style level items).chars ++
      (close ++ [']']))).length ≤ fuel) :
    readItems fuel ((write style level v).chars ++ ((writeItems style level items).chars ++
      (close ++ ']' :: rest))) = .ok (v :: items, rest) := by
  simp only [List.length_append, List.length_cons, List.length_nil] at room
  obtain ⟨fuel, rfl⟩ : ∃ more, fuel = more + 1 := ⟨fuel - 1, by omega⟩
  cases items with
  | nil =>
    have read := @readValue_write style level fuel v first _ (ends rest) (by omega)
    exact readItems_last read (skipSpace_gap blank rfl rest)
  | cons w items =>
    rw [writeItems_chars style level others.1.isJson] at room ⊢
    simp only [List.append_assoc, List.length_append] at room ⊢
    have long : 1 ≤ (style.comma level).length := by
      obtain ⟨gap, comma, _⟩ := comma_eq style level
      rw [comma, List.length_cons]
      omega
    have read := fun s =>
      @readValue_write style level fuel v first _ (ends_comma style level s) (by omega)
    obtain ⟨gap, comma, free⟩ := skipSpace_comma style level ((write style level w).chars ++
      ((writeItems style level items).chars ++ (close ++ ']' :: rest)))
    have tail := @readItems_write style level fuel w others.1 items others.2 close blank ends rest
      (by simp only [List.length_append, List.length_cons, List.length_nil]; omega)
    refine readItems_more (read _) comma ?_
    rw [skipSpace_write style level others.1 free]
    exact tail
termination_by fuel

theorem readEntries_write (style : Style) (level : Nat) {fuel : Nat} (name : String) {v : Value}
    (first : IsDocument v) {entries : List (Value × Value)} (others : EntriesDocuments entries)
    {close : List Char} (blank : ∀ c ∈ close, isSpace c = true)
    (ends : ∀ r, Ends (close ++ '\x7d' :: r)) {rest : List Char}
    (room : 2 * (stringChars name.toList ++ (':' :: ' ' :: ((write style level v).chars ++
      ((writeEntries style level entries).chars ++ (close ++ ['\x7d']))))).length ≤ fuel) :
    readEntries fuel (stringChars name.toList ++ (':' :: ' ' :: ((write style level v).chars ++
      ((writeEntries style level entries).chars ++ (close ++ '\x7d' :: rest))))) =
        .ok ((.text name, v) :: entries, rest) := by
  have long := length_stringChars name.toList
  rw [String.length_toList] at long
  simp only [List.length_append, List.length_cons, List.length_nil] at room
  obtain ⟨fuel, rfl⟩ : ∃ more, fuel = more + 1 := ⟨fuel - 1, by omega⟩
  match entries with
  | [] =>
    have read := @readValue_write style level fuel v first _ (ends rest) (by omega)
    exact readEntry_last style level name first (by omega) read (skipSpace_gap blank rfl rest)
  | (key, w) :: entries =>
    obtain ⟨⟨name', named⟩, second, others⟩ := others
    subst named
    rw [writeEntries_chars style level name' second.isJson] at room ⊢
    simp only [List.append_assoc, List.cons_append, List.length_append, List.length_cons] at room ⊢
    have read := fun s =>
      @readValue_write style level fuel v first _ (ends_comma style level s) (by omega)
    have tail := @readEntries_write style level fuel name' w second entries others close blank ends
      rest (by simp only [List.length_append, List.length_cons, List.length_nil]; omega)
    obtain ⟨gap, comma, free⟩ := skipSpace_comma style level (stringChars name'.toList ++
      (':' :: ' ' :: ((write style level w).chars ++ ((writeEntries style level entries).chars ++
        (close ++ '\x7d' :: rest)))))
    refine readEntry_more style level name first (by omega) (read _) comma ?_
    rw [skipSpace_string name' free]
    exact tail
termination_by fuel

end

/-- A text without a mark in front is a document if a value is read and nothing is left. -/
theorem readDocument_eq {s : List Char} {v : Value} (mark : (s.head? == some '\uFEFF') = false)
    (value : readValue (2 * s.length + 1) (skipSpace s) = .ok (v, [])) :
    readDocument s = .ok v := by
  unfold readDocument
  rw [if_neg (by simp [mark]), value]
  rfl

/-- A document is read back from its text. -/
theorem read_document (style : Style) {v : Value} (h : IsDocument v) :
    read (String.ofList (document style v).chars) = .ok v := by
  obtain ⟨c, t, begins, _, _, mark⟩ := write_head style 0 h
  have unmarked : ((document style v).chars.head? == some '\uFEFF') = false := by
    rw [document, begins, List.head?_cons]
    simpa using mark
  have whole := @readValue_write style 0 (2 * (document style v).chars.length + 1) v h []
    (by simp [Ends]) (by rw [document]; omega)
  have skip := skipSpace_write style 0 h (List.forall_mem_nil _) []
  rw [List.append_nil] at whole skip
  rw [List.nil_append] at skip
  have run : readDocument (document style v).chars = .ok v := by
    refine readDocument_eq unmarked ?_
    rw [document] at whole ⊢
    rw [skip, whole]
  unfold read
  rw [String.toList_ofList]
  dsimp only
  rw [run]

end BaseGateway.Json
