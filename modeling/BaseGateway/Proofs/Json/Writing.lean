import BaseGateway.Audit
import BaseGateway.Proofs.Value.Json

/-!
# JSON data is always written

The writer stops at dates, at integers of too many digits and at keys that are no texts. Values that
JSON has a form for hold none of these, so they are written in every style (`write_fault`), and so
is the canonical text that arguments are hashed by (`argumentsHash_ok`).
-/

namespace BaseGateway.Json

open Value

theorem append_fault {a b : Written} (first : a.fault = none) (second : b.fault = none) :
    (a ++ b).fault = none := by
  change (Written.append a b).fault = none
  rw [Written.append, first]
  exact second

theorem intText?_isSome {n : Int} (h : IsJson (.int n)) :
    Decimal.intText? n = some (String.ofList (Decimal.intChars n)) := by
  rw [Decimal.intText?, Nat.pow_eq, if_pos (Decimal.IsShort.bound h)]

theorem scalar?_int (style : Style) {n : Int} (h : IsJson (.int n)) :
    scalar? style (.int n) = some (.ofString (String.ofList (Decimal.intChars n))) := by
  unfold scalar?
  dsimp only
  rw [intText?_isSome h]

theorem writeBefore_fault (before : List Char) {v : Value} (h : v.IsJson) :
    (writeBefore before v).fault = none := by
  cases v with
  | int n => rw [writeBefore, intText?_isSome h, Option.isSome_some, if_pos rfl]
  | _ => rfl

theorem writeKey_fault (before : List Char) {key : Value} (h : ∃ s, key = .text s) :
    (writeKey before key).fault = none := by
  obtain ⟨s, rfl⟩ := h
  rfl

mutual

/-- JSON data is written to its end in every style. -/
theorem write_fault (style : Style) : ∀ (level : Nat) {v : Value}, v.IsJson →
    (write style level v).fault = none
  | _, .null, _ => rfl
  | _, .bool _, _ => rfl
  | _, .float _, _ => rfl
  | _, .text _, _ => rfl
  | _, .int n, h => by
    change ((scalar? style (.int n)).getD (.ofString "")).fault = none
    rw [scalar?_int style h]
    rfl
  | _, .list [], _ => rfl
  | level, .list (v :: rest), h => by
    obtain ⟨first, others⟩ := h
    rw [write]
    exact append_fault (append_fault (append_fault (writeBefore_fault _ first)
      (write_fault style (level + 1) first)) (writeItems_fault style (level + 1) others)) rfl
  | _, .dictionary [], _ => rfl
  | level, .dictionary ((key, v) :: rest), h => by
    obtain ⟨text, first, others⟩ := h
    rw [write]
    exact append_fault (append_fault (append_fault (append_fault rfl (writeKey_fault [] text))
      (write_fault style (level + 1) first)) (writeEntries_fault style (level + 1) others)) rfl

theorem writeItems_fault (style : Style) : ∀ (level : Nat) {items : List Value}, AllJson items →
    (writeItems style level items).fault = none
  | _, [], _ => rfl
  | level, v :: rest, h => by
    obtain ⟨first, others⟩ := h
    rw [writeItems]
    exact append_fault (append_fault (writeBefore_fault _ first) (write_fault style level first))
      (writeItems_fault style level others)

theorem writeEntries_fault (style : Style) : ∀ (level : Nat) {entries : List (Value × Value)},
    EntriesJson entries → (writeEntries style level entries).fault = none
  | _, [], _ => rfl
  | level, (key, v) :: rest, h => by
    obtain ⟨text, first, others⟩ := h
    rw [writeEntries]
    exact append_fault (append_fault (writeKey_fault _ text) (write_fault style level first))
      (writeEntries_fault style level others)

end

theorem document_ok (style : Style) {v : Value} (h : v.IsJson) :
    (document style v).toExcept = .ok (String.ofList (document style v).chars) := by
  rw [Written.toExcept, document, write_fault style 0 h]

/-- Texts have an order among each other. -/
theorem sortEntries_ok {entries : Entries} (h : (dictionary entries).IsJson) :
    ∃ sorted, sortEntries entries = .ok sorted ∧ (dictionary sorted).IsJson := by
  unfold sortEntries
  split
  · exact ⟨_, rfl, h⟩
  · exact ⟨_, rfl, h⟩
  · next first rest _ =>
    rw [isJson_dictionary_iff] at h
    have comparable :
        ((first :: rest).all fun entry => (keyLe? first.1 entry.1).isSome) = true := by
      rw [List.all_eq_true]
      intro entry mem
      obtain ⟨s, left⟩ := (h first List.mem_cons_self).1
      obtain ⟨t, right⟩ := (h entry mem).1
      rw [left, right]
      rfl
    rw [if_pos comparable]
    refine ⟨_, rfl, ?_⟩
    rw [isJson_dictionary_iff]
    exact fun entry mem => h entry (List.mem_mergeSort.mp mem)

mutual

theorem sortKeys_ok : ∀ {v : Value}, v.IsJson → ∃ w, sortKeys v = .ok w ∧ w.IsJson
  | .null, h | .bool _, h | .int _, h | .float _, h | .text _, h => ⟨_, rfl, h⟩
  | .list items, h => by
    obtain ⟨sorted, run, json⟩ := sortItems_ok h
    refine ⟨.list sorted, ?_, json⟩
    rw [sortKeys, run]
    rfl
  | .dictionary entries, h => by
    obtain ⟨each, run, json⟩ := sortEach_ok h
    obtain ⟨sorted, order, json'⟩ := sortEntries_ok json
    refine ⟨.dictionary sorted, ?_, json'⟩
    rw [sortKeys, run]
    change (do return dictionary (← sortEntries each)) = _
    rw [order]
    rfl

theorem sortItems_ok : ∀ {items : List Value}, AllJson items →
    ∃ sorted, sortItems items = .ok sorted ∧ AllJson sorted
  | [], _ => ⟨[], rfl, trivial⟩
  | v :: rest, h => by
    obtain ⟨w, first, json⟩ := sortKeys_ok h.1
    obtain ⟨sorted, others, json'⟩ := sortItems_ok h.2
    refine ⟨w :: sorted, ?_, json, json'⟩
    rw [sortItems, first, others]
    rfl

theorem sortEach_ok : ∀ {entries : List (Value × Value)}, EntriesJson entries →
    ∃ sorted, sortEach entries = .ok sorted ∧ EntriesJson sorted
  | [], _ => ⟨[], rfl, trivial⟩
  | (key, v) :: rest, h => by
    obtain ⟨w, first, json⟩ := sortKeys_ok h.2.1
    obtain ⟨sorted, others, json'⟩ := sortEach_ok h.2.2
    refine ⟨(key, w) :: sorted, ?_, h.1, json, json'⟩
    rw [sortEach, first, others]
    rfl

end

theorem canonicalText_ok {v : Value} (h : v.IsJson) : ∃ s, canonicalText v = .ok s := by
  obtain ⟨w, sorted, json⟩ := sortKeys_ok h
  unfold canonicalText
  rw [sorted]
  exact ⟨_, document_ok .line json⟩

end BaseGateway.Json

namespace BaseGateway

/-- JSON arguments always have a hash. -/
theorem argumentsHash_ok {arguments : Value} (h : arguments.IsJson) :
    ∃ hash, argumentsHash arguments = .ok hash := by
  have json : (if arguments.isGiven then arguments else .dictionary []).IsJson := by
    split
    · exact h
    · trivial
  obtain ⟨text, written⟩ := Json.canonicalText_ok json
  unfold argumentsHash
  rw [written]
  exact ⟨_, rfl⟩

end BaseGateway
