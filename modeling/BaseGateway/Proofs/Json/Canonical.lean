import Mathlib.Data.List.Nodup
import Mathlib.Data.List.Perm.Basic
import BaseGateway.Proofs.Json.Writing
import BaseGateway.Proofs.Json.RoundTrip

/-!
# One text for equal arguments

Arguments are hashed by their canonical text. Two documents have the same one if and only if they
are the same up to the order of the entries of their dictionaries, on every level
(`canonicalText_eq_iff`, `argumentsHash_alike`).

* entries whose keys differ are sorted one way, whatever order they come in (`sortEntries_congr`);
* documents become the same when they are sorted if they are the same but for the order of entries
  (`reordered_sortKeys`), and not otherwise (`reordered_of_sortKeys`);
* a sorted document is a document (`sortKeys_isDocument`), so that it is read back from its text;
* a float is told by its text (`Decimal.floatText_inj`).
-/

namespace BaseGateway

/-- The name of a float in a document, by its text. -/
theorem Json.floatChars_renamed (x : Float) : floatChars x =
    if Decimal.floatChars x = "nan".toList then "NaN".toList
    else if Decimal.floatChars x = "inf".toList then "Infinity".toList
    else if Decimal.floatChars x = "-inf".toList then "-Infinity".toList
    else Decimal.floatChars x := by
  cases reading : Decimal.Reading.ofFloat x with
  | nan => rw [floatChars, Decimal.floatChars, reading]; rfl
  | infinite negative => rw [floatChars, Decimal.floatChars, reading]; cases negative <;> rfl
  | finite negative b =>
    -- the letter of the three names is none that a number is written with
    have numeral := (Decimal.numeral_floatChars reading).isNumeralChar
    have other (name : List Char) (letter : 'n' ∈ name) : Decimal.floatChars x ≠ name := by
      rintro rfl
      cases numeral 'n' letter
    rw [if_neg (other _ (by decide)), if_neg (other _ (by decide)), if_neg (other _ (by decide)),
      floatChars, reading]

/-- Floats of one text are one float. -/
theorem Decimal.floatText_inj {x y : Float} (alike : floatText x = floatText y) : x = y := by
  have chars : floatChars x = floatChars y := String.ofList_injective alike
  have written : Json.floatChars x = Json.floatChars y := by
    rw [Json.floatChars_renamed, Json.floatChars_renamed, chars]
  have ends : Json.Ends [] := by simp [Json.Ends]
  have left := Json.readPlain_float x ends
  have right := Json.readPlain_float y ends
  rw [written, right] at left
  cases left
  rfl

namespace Value

mutual

/-- The same value up to the order of the entries of its dictionaries, on every level. Floats are
the same where their texts are. -/
inductive Reordered : Value → Value → Prop
  | same (v : Value) : Reordered v v
  | float {x y : Float} (alike : Decimal.floatText x = Decimal.floatText y) :
      Reordered (.float x) (.float y)
  | list {items others : List Value} (each : AllReordered items others) :
      Reordered (.list items) (.list others)
  | dictionary {entries arranged others : List (Value × Value)}
      (each : EntriesReordered entries arranged) (order : arranged.Perm others) :
      Reordered (.dictionary entries) (.dictionary others)

inductive AllReordered : List Value → List Value → Prop
  | nil : AllReordered [] []
  | cons {v w : Value} {items others : List Value} (first : Reordered v w)
      (rest : AllReordered items others) : AllReordered (v :: items) (w :: others)

inductive EntriesReordered : List (Value × Value) → List (Value × Value) → Prop
  | nil : EntriesReordered [] []
  | cons {key v w : Value} {entries others : List (Value × Value)} (first : Reordered v w)
      (rest : EntriesReordered entries others) :
      EntriesReordered ((key, v) :: entries) ((key, w) :: others)

end

theorem EntriesDocuments.texts {entries : Entries} (h : EntriesDocuments entries) :
    ∀ entry ∈ entries, ∃ s, entry.1 = .text s :=
  fun entry mem => ((entriesDocuments_iff entries).mp h entry mem).1

end Value

namespace Entries

/-- Texts differ as keys where they are not the same text. -/
theorem differ_iff {entries : Entries} (texts : ∀ entry ∈ entries, ∃ s, entry.1 = .text s) :
    entries.Differ ↔ (entries.map (·.1)).Nodup := by
  unfold Differ List.Nodup
  rw [List.pairwise_map]
  refine List.Pairwise.iff_of_mem fun {a b} left right => ?_
  obtain ⟨s, named⟩ := texts a left
  obtain ⟨t, named'⟩ := texts b right
  rw [named, named']
  simp [Value.sameKey]

/-- Whether keys differ is told by the keys alone, in any order. -/
theorem differ_of_keys {entries others : Entries}
    (texts : ∀ entry ∈ entries, ∃ s, entry.1 = .text s)
    (keys : (entries.map (·.1)).Perm (others.map (·.1))) (differ : entries.Differ) :
    others.Differ := by
  have texts' : ∀ entry ∈ others, ∃ s, entry.1 = .text s := by
    intro entry mem
    obtain ⟨own, inside, same⟩ := List.mem_map.mp (keys.mem_iff.mpr (List.mem_map_of_mem mem))
    exact same ▸ texts own inside
  rw [differ_iff texts', ← keys.nodup_iff, ← differ_iff texts]
  exact differ

end Entries

namespace Json

open Value

section

variable {entries others sorted : Entries}

theorem sortKeys_list {items : List Value} {w : Value} (run : sortKeys (.list items) = .ok w) :
    ∃ sorted, sortItems items = .ok sorted ∧ w = .list sorted := by
  obtain ⟨sorted, run, last⟩ := Except.bind_ok run
  exact ⟨sorted, run, (Except.ok.inj last).symm⟩

theorem sortKeys_dictionary {w : Value} (run : sortKeys (.dictionary entries) = .ok w) :
    ∃ each sorted, sortEach entries = .ok each ∧ sortEntries each = .ok sorted ∧
      w = .dictionary sorted := by
  obtain ⟨each, run, last⟩ := Except.bind_ok run
  obtain ⟨sorted, order, last⟩ := Except.bind_ok last
  exact ⟨each, sorted, run, order, (Except.ok.inj last).symm⟩

/-- What was sorted, told by the outcome. -/
theorem sortKeys_told {v w : Value} (run : sortKeys v = .ok w) :
    match w with
    | .list sorted => ∃ items, v = .list items ∧ sortItems items = .ok sorted
    | .dictionary sorted => ∃ entries each, v = .dictionary entries ∧
        sortEach entries = .ok each ∧ sortEntries each = .ok sorted
    | w => v = w := by
  cases v with
  | list items =>
    obtain ⟨sorted, each, rfl⟩ := sortKeys_list run
    exact ⟨items, rfl, each⟩
  | dictionary entries =>
    obtain ⟨each, sorted, run', order, rfl⟩ := sortKeys_dictionary run
    exact ⟨entries, each, rfl, run', order⟩
  | _ =>
    obtain rfl := Except.ok.inj run
    rfl

theorem sortItems_cons {v : Value} {items sorted : List Value}
    (run : sortItems (v :: items) = .ok sorted) :
    ∃ w rest, sortKeys v = .ok w ∧ sortItems items = .ok rest ∧ sorted = w :: rest := by
  obtain ⟨w, first, run⟩ := Except.bind_ok run
  obtain ⟨rest, others, last⟩ := Except.bind_ok run
  exact ⟨w, rest, first, others, (Except.ok.inj last).symm⟩

theorem sortEach_cons {entry : Value × Value} (run : sortEach (entry :: entries) = .ok sorted) :
    ∃ w rest, sortKeys entry.2 = .ok w ∧ sortEach entries = .ok rest ∧
      sorted = (entry.1, w) :: rest := by
  obtain ⟨w, first, run⟩ := Except.bind_ok run
  obtain ⟨rest, others, last⟩ := Except.bind_ok run
  exact ⟨w, rest, first, others, (Except.ok.inj last).symm⟩

/-- An entry with its value sorted. -/
def SortsTo (entry sorted : Value × Value) : Prop :=
  entry.1 = sorted.1 ∧ sortKeys entry.2 = .ok sorted.2

/-- Sorting the values of entries is told entry by entry. -/
theorem sortEach_iff : sortEach entries = .ok sorted ↔ List.Forall₂ SortsTo entries sorted := by
  constructor
  · intro h
    induction entries generalizing sorted with
    | nil =>
      cases h
      exact .nil
    | cons entry rest ih =>
      obtain ⟨w, tail, first, others, rfl⟩ := sortEach_cons h
      exact .cons ⟨rfl, first⟩ (ih others)
  · intro each
    induction each with
    | nil => rfl
    | @cons entry other rest tail first _ ih =>
      rw [sortEach, first.2, ih, first.1]
      rfl

theorem sortEach_perm (order : entries.Perm others) (h : sortEach entries = .ok sorted) :
    ∃ sorted', sortEach others = .ok sorted' ∧ sorted.Perm sorted' := by
  obtain ⟨sorted', each, order'⟩ := List.perm_comp_forall₂ order.symm (sortEach_iff.mp h)
  exact ⟨sorted', sortEach_iff.mpr each, order'.symm⟩

/-- Sorted entries are the same entries. -/
theorem sortEntries_perm (h : sortEntries entries = .ok sorted) : sorted.Perm entries := by
  unfold sortEntries at h
  split at h
  · cases h
    exact .refl _
  · cases h
    exact .refl _
  · split at h
    · obtain rfl := Except.ok.inj h
      exact List.mergeSort_perm ..
    · cases h

/-- The order of entries by the texts of their keys. -/
def nameLe (a b : Value × Value) : Bool := decide (a.1.asText?.getD "" ≤ b.1.asText?.getD "")

theorem sortEntries_texts (texts : ∀ entry ∈ entries, ∃ s, entry.1 = .text s) :
    sortEntries entries = .ok (entries.mergeSort nameLe) := by
  have order : ∀ a ∈ entries, ∀ b ∈ entries, keyLe? a.1 b.1 = some (nameLe a b) := by
    intro a left b right
    obtain ⟨s, named⟩ := texts a left
    obtain ⟨t, named'⟩ := texts b right
    rw [nameLe, named, named']
    rfl
  unfold sortEntries
  split
  · rw [List.mergeSort_nil]
  · rw [List.mergeSort_singleton]
  · next first rest _ =>
    have comparable :
        ((first :: rest).all fun entry => (keyLe? first.1 entry.1).isSome) = true := by
      rw [List.all_eq_true]
      intro entry mem
      rw [order first List.mem_cons_self entry mem]
      rfl
    have agree : ∀ a ∈ first :: rest, ∀ b ∈ first :: rest,
        (keyLe? a.1 b.1).getD true = nameLe (id a) (id b) := by
      intro a left b right
      rw [order a left b right]
      rfl
    have sorted := List.map_mergeSort agree
    rw [List.map_id, List.map_id] at sorted
    rw [if_pos comparable, sorted]

/-- Entries whose keys are texts that differ are sorted one way. -/
theorem sortEntries_congr (texts : ∀ entry ∈ entries, ∃ s, entry.1 = .text s)
    (differ : entries.Differ) (order : entries.Perm others) :
    sortEntries entries = sortEntries others := by
  have sorted (entries : Entries) :
      (entries.mergeSort nameLe).Pairwise fun a b => nameLe a b = true := by
    refine List.pairwise_mergeSort ?_ ?_ entries
    · simpa [nameLe] using fun a b c => String.le_trans
    · simpa [nameLe] using fun (a b : Value) =>
        String.le_total (a.asText?.getD "") (b.asText?.getD "")
  rw [sortEntries_texts texts,
    sortEntries_texts fun entry mem => texts entry (order.mem_iff.mpr mem)]
  refine congrArg Except.ok (List.Perm.eq_of_pairwise ?_ (sorted entries) (sorted others) ?_)
  · intro a b left right le ge
    have left' : a ∈ entries := List.mem_mergeSort.mp left
    have right' : b ∈ entries := order.mem_iff.mpr (List.mem_mergeSort.mp right)
    have key : a.1 = b.1 := by
      obtain ⟨s, named⟩ := texts a left'
      obtain ⟨t, named'⟩ := texts b right'
      rw [nameLe, named, named', decide_eq_true_eq] at le ge
      rw [named, named']
      exact congrArg Value.text (String.le_antisymm le ge)
    exact List.inj_on_of_nodup_map ((Entries.differ_iff texts).mp differ) left' right' key
  · exact (List.mergeSort_perm ..).trans (order.trans (List.mergeSort_perm ..).symm)

/-- Sorted entries are those of a document where the entries were. -/
theorem sortEntries_isDocument (h : IsDocument (.dictionary entries))
    (run : sortEntries entries = .ok sorted) : IsDocument (.dictionary sorted) := by
  have order := sortEntries_perm run
  have documents : EntriesDocuments sorted := (entriesDocuments_iff sorted).mpr fun entry mem =>
    (entriesDocuments_iff entries).mp h.2 entry (order.mem_iff.mp mem)
  exact ⟨Entries.differ_of_keys h.2.texts (order.symm.map _) h.1, documents⟩

theorem sortEach_keys (run : sortEach entries = .ok sorted) :
    entries.map (·.1) = sorted.map (·.1) := by
  have each := sortEach_iff.mp run
  clear run
  induction each with
  | nil => rfl
  | cons first _ ih => rw [List.map_cons, List.map_cons, first.1, ih]

end

mutual

/-- A sorted document is a document. -/
theorem sortKeys_isDocument : ∀ {v w : Value}, IsDocument v → sortKeys v = .ok w → IsDocument w
  | .null, _, h, run | .bool _, _, h, run | .text _, _, h, run | .float _, _, h, run
  | .int _, _, h, run => Except.ok.inj run ▸ h
  | .list items, _, h, run => by
    obtain ⟨sorted, each, rfl⟩ := sortKeys_list run
    exact sortItems_allDocuments h each
  | .dictionary entries, _, h, run => by
    obtain ⟨each, sorted, run', order, rfl⟩ := sortKeys_dictionary run
    have differ := Entries.differ_of_keys h.2.texts (.of_eq (sortEach_keys run')) h.1
    exact sortEntries_isDocument ⟨differ, sortEach_entriesDocuments h.2 run'⟩ order

theorem sortItems_allDocuments : ∀ {items sorted : List Value}, AllDocuments items →
    sortItems items = .ok sorted → AllDocuments sorted
  | [], _, h, run => Except.ok.inj run ▸ h
  | v :: rest, _, h, run => by
    obtain ⟨w, tail, first, others, rfl⟩ := sortItems_cons run
    exact ⟨sortKeys_isDocument h.1 first, sortItems_allDocuments h.2 others⟩

theorem sortEach_entriesDocuments : ∀ {entries sorted : List (Value × Value)},
    EntriesDocuments entries → sortEach entries = .ok sorted → EntriesDocuments sorted
  | [], _, h, run => Except.ok.inj run ▸ h
  | (key, v) :: rest, _, h, run => by
    obtain ⟨w, tail, first, others, rfl⟩ := sortEach_cons run
    exact ⟨h.1, sortKeys_isDocument h.2.1 first, sortEach_entriesDocuments h.2.2 others⟩

end

mutual

/-- The order of entries does not show when they are sorted. -/
theorem reordered_sortKeys : ∀ {v w : Value}, IsDocument v → Reordered v w →
    sortKeys v = sortKeys w
  | _, _, _, .same v => rfl
  | _, _, _, .float alike => by rw [Decimal.floatText_inj alike]
  | .list items, .list others, h, .list each => by
    rw [sortKeys, sortKeys, allReordered_sortItems h each]
  | .dictionary entries, .dictionary others, h, @Reordered.dictionary _ arranged _ each order => by
    obtain ⟨sorted, run, _⟩ := sortEach_ok h.isJson
    have arranged := entriesReordered_sortEach h.2 each
    rw [run] at arranged
    obtain ⟨sorted', run', order'⟩ := sortEach_perm order arranged.symm
    have documents := sortEach_entriesDocuments h.2 run
    have differ := Entries.differ_of_keys h.2.texts (.of_eq (sortEach_keys run)) h.1
    rw [sortKeys, sortKeys, run, run']
    change (do return dictionary (← sortEntries sorted)) = _
    rw [sortEntries_congr documents.texts differ order']
    rfl

theorem allReordered_sortItems : ∀ {items others : List Value}, AllDocuments items →
    AllReordered items others → sortItems items = sortItems others
  | _, _, _, .nil => rfl
  | _, _, h, .cons first rest => by
    rw [sortItems, sortItems, reordered_sortKeys h.1 first, allReordered_sortItems h.2 rest]

theorem entriesReordered_sortEach : ∀ {entries others : List (Value × Value)},
    EntriesDocuments entries → EntriesReordered entries others → sortEach entries = sortEach others
  | _, _, _, .nil => rfl
  | _, _, h, .cons first rest => by
    rw [sortEach, sortEach, reordered_sortKeys h.2.1 first, entriesReordered_sortEach h.2.2 rest]

end

mutual

/-- Values that are the same when they are sorted were the same but for the order of entries. -/
theorem reordered_of_sortKeys : ∀ {v w x : Value}, sortKeys v = .ok x → sortKeys w = .ok x →
    Reordered v w
  | .list items, w, _, left, right => by
    obtain ⟨sorted, run, rfl⟩ := sortKeys_list left
    obtain ⟨others, rfl, run'⟩ := sortKeys_told right
    exact .list (allReordered_of_sortItems run run')
  | .dictionary entries, w, _, left, right => by
    obtain ⟨each, sorted, run, order, rfl⟩ := sortKeys_dictionary left
    obtain ⟨others, each', rfl, run', order'⟩ := sortKeys_told right
    -- both sorted to the same entries, so the values behind them are the same in some arrangement
    have same : each'.Perm each := (sortEntries_perm order').symm.trans (sortEntries_perm order)
    obtain ⟨arranged, sorts, arrangement⟩ :=
      List.perm_comp_forall₂ same.symm (sortEach_iff.mp run').flip
    have sorts' := sortEach_iff.mpr sorts.flip
    exact .dictionary (entriesReordered_of_sortEach run sorts') arrangement
  | .null, _, _, left, right | .bool _, _, _, left, right | .int _, _, _, left, right
  | .float _, _, _, left, right | .text _, _, _, left, right | .date _, _, _, left, right
  | .dateTime _, _, _, left, right => by
    cases left
    cases sortKeys_told right
    exact .same _

theorem allReordered_of_sortItems : ∀ {items others sorted : List Value},
    sortItems items = .ok sorted → sortItems others = .ok sorted → AllReordered items others
  | [], others, _, left, right => by
    obtain rfl := Except.ok.inj left
    cases others with
    | nil => exact .nil
    | cons w others =>
      obtain ⟨_, _, _, _, wrong⟩ := sortItems_cons right
      cases wrong
  | v :: items, others, _, left, right => by
    obtain ⟨w, rest, first, run, rfl⟩ := sortItems_cons left
    cases others with
    | nil => cases right
    | cons w others =>
      obtain ⟨_, _, first', run', same⟩ := sortItems_cons right
      obtain ⟨rfl, rfl⟩ := List.cons.inj same
      exact .cons (reordered_of_sortKeys first first') (allReordered_of_sortItems run run')

theorem entriesReordered_of_sortEach : ∀ {entries others sorted : List (Value × Value)},
    sortEach entries = .ok sorted → sortEach others = .ok sorted → EntriesReordered entries others
  | [], others, _, left, right => by
    obtain rfl := Except.ok.inj left
    cases others with
    | nil => exact .nil
    | cons w others =>
      obtain ⟨_, _, _, _, wrong⟩ := sortEach_cons right
      cases wrong
  | (key, v) :: entries, others, _, left, right => by
    obtain ⟨w, rest, first, run, rfl⟩ := sortEach_cons left
    cases others with
    | nil => cases right
    | cons other others =>
      obtain ⟨_, _, first', run', same⟩ := sortEach_cons right
      obtain ⟨entry, rfl⟩ := List.cons.inj same
      obtain ⟨rfl, rfl⟩ := Prod.mk.inj entry
      exact .cons (reordered_of_sortKeys first first') (entriesReordered_of_sortEach run run')

end

/-- Documents have one canonical text where they are the same but for the order of entries. -/
theorem canonicalText_eq_iff {v w : Value} (hv : IsDocument v) (hw : IsDocument w) :
    canonicalText v = canonicalText w ↔ Reordered v w := by
  obtain ⟨x, sorted, json⟩ := sortKeys_ok hv.isJson
  obtain ⟨y, sorted', json'⟩ := sortKeys_ok hw.isJson
  have left := sortKeys_isDocument hv sorted
  have right := sortKeys_isDocument hw sorted'
  have text : canonicalText v = .ok (String.ofList (document .line x).chars) := by
    rw [canonicalText, sorted]
    exact document_ok .line json
  have text' : canonicalText w = .ok (String.ofList (document .line y).chars) := by
    rw [canonicalText, sorted']
    exact document_ok .line json'
  constructor
  · intro alike
    rw [text, text'] at alike
    have read : Json.read (String.ofList (document .line x).chars) = .ok y := by
      rw [Except.ok.inj alike, read_document .line right]
    rw [read_document .line left] at read
    cases read
    exact reordered_of_sortKeys sorted sorted'
  · intro reordered
    unfold canonicalText
    rw [reordered_sortKeys hv reordered]

end Json

open Value

theorem argumentsHash_dictionary (entries : Entries) : argumentsHash (.dictionary entries) =
    (Json.canonicalText (.dictionary entries)).map Digest.sha256Text := by
  have whole : (if (dictionary entries).isGiven then dictionary entries else .dictionary []) =
      .dictionary entries := by
    cases entries <;> rfl
  unfold argumentsHash
  rw [whole]
  cases Json.canonicalText (.dictionary entries) <;> rfl

/-- The texts that the arguments of two calls are hashed by are the same if and only if the
arguments are, up to the order of their names on every level. -/
theorem argumentsHash_alike {a b : Entries} (ha : IsDocument (.dictionary a))
    (hb : IsDocument (.dictionary b)) : ∃ s t, Json.canonicalText (.dictionary a) = .ok s ∧
      Json.canonicalText (.dictionary b) = .ok t ∧
      argumentsHash (.dictionary a) = .ok (Digest.sha256Text s) ∧
      argumentsHash (.dictionary b) = .ok (Digest.sha256Text t) ∧
      (s = t ↔ Reordered (.dictionary a) (.dictionary b)) := by
  obtain ⟨s, first⟩ := Json.canonicalText_ok ha.isJson
  obtain ⟨t, second⟩ := Json.canonicalText_ok hb.isJson
  refine ⟨s, t, first, second, ?_, ?_, ?_⟩
  · rw [argumentsHash_dictionary, first]
    rfl
  · rw [argumentsHash_dictionary, second]
    rfl
  · rw [← Json.canonicalText_eq_iff ha hb, first, second, Except.ok.injEq]

/-- Names in another order, on two levels, give one text. -/
theorem argumentsHash_alike_nested :
    let a : Entries := [(.text "table", .text "Roster"),
      (.text "fields", .record [("Name", .text "Ada"), ("Age", .int 36)])]
    let b : Entries := [(.text "fields", .record [("Age", .int 36), ("Name", .text "Ada")]),
      (.text "table", .text "Roster")]
    ∃ s t, Json.canonicalText (.dictionary a) = .ok s ∧
      Json.canonicalText (.dictionary b) = .ok t ∧
      argumentsHash (.dictionary a) = .ok (Digest.sha256Text s) ∧
      argumentsHash (.dictionary b) = .ok (Digest.sha256Text t) ∧ s = t := by
  intro a b
  have age : IsDocument (.int 36) := isJson_count (n := 36) (by decide)
  have fields : IsDocument (.record [("Name", .text "Ada"), ("Age", .int 36)]) :=
    ⟨by simp [Entries.Differ, sameKey], ⟨_, rfl⟩, trivial, ⟨_, rfl⟩, age, trivial⟩
  have fields' : IsDocument (.record [("Age", .int 36), ("Name", .text "Ada")]) :=
    ⟨by simp [Entries.Differ, sameKey], ⟨_, rfl⟩, age, ⟨_, rfl⟩, trivial, trivial⟩
  have ha : IsDocument (.dictionary a) :=
    ⟨by simp [a, Entries.Differ, sameKey], ⟨_, rfl⟩, trivial, ⟨_, rfl⟩, fields, trivial⟩
  have hb : IsDocument (.dictionary b) :=
    ⟨by simp [b, Entries.Differ, sameKey], ⟨_, rfl⟩, fields', ⟨_, rfl⟩, trivial, trivial⟩
  have inner : Reordered (.record [("Name", .text "Ada"), ("Age", .int 36)])
      (.record [("Age", .int 36), ("Name", .text "Ada")]) :=
    .dictionary (.cons (.same _) (.cons (.same _) .nil)) (.swap ..)
  have outer : Reordered (.dictionary a) (.dictionary b) :=
    .dictionary (.cons (.same _) (.cons inner .nil)) (.swap ..)
  obtain ⟨s, t, first, second, hash, hash', alike⟩ := argumentsHash_alike ha hb
  exact ⟨s, t, first, second, hash, hash', alike.mpr outer⟩

end BaseGateway
