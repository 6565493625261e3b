import BaseGateway.Proofs.Value.Json

/-!
# Documents

A document is a value that JSON has a form for and in which the keys of every dictionary differ
(`Value.IsDocument`). Entries that are set one after the other have keys that differ
(`Entries.override_differ`), so that every dictionary that comes about in this way is a document
where its values are (`Entries.override_isDocument`).

* a key that is there keeps its place, and one that is new comes at the end
  (`Entries.insert_cases`);
* entries over those they already begin with stand for themselves (`Entries.override_eq`);
* entries are left out by their keys before others are set or after it (`Entries.filter_override`).
-/

namespace BaseGateway

namespace Entries

open Value

/-- No key is there twice. -/
def Differ (entries : Entries) : Prop := entries.Pairwise fun a b => a.1.sameKey b.1 = false

section

variable {key v : Value} {entries new : Entries}

/-- A key is set where it is, or at the end. -/
theorem insert_cases (key v : Value) (entries : Entries) :
    (∃ before old after, entries = before ++ old :: after ∧ old.1.sameKey key = true ∧
      insert key v entries = before ++ (old.1, v) :: after) ∨
    (∀ entry ∈ entries, entry.1.sameKey key = false) ∧
      insert key v entries = entries ++ [(key, v)] := by
  induction entries with
  | nil => exact .inr ⟨by simp, rfl⟩
  | cons entry rest ih =>
    cases same : entry.1.sameKey key with
    | true =>
      refine .inl ⟨[], entry, rest, rfl, same, ?_⟩
      rw [insert, if_pos same, List.nil_append]
    | false =>
      have passed : insert key v (entry :: rest) = entry :: insert key v rest := by
        rw [insert, same, if_neg Bool.false_ne_true]
      rw [passed]
      rcases ih with ⟨before, old, after, rfl, found, set⟩ | ⟨away, set⟩
      · exact .inl ⟨entry :: before, old, after, rfl, found, congrArg (entry :: ·) set⟩
      · exact .inr ⟨List.forall_mem_cons.mpr ⟨same, away⟩, congrArg (entry :: ·) set⟩

/-- The keys that are there stay, in their order. -/
theorem keys_insert (key v : Value) (entries : Entries) :
    entries.map (·.1) <+: (insert key v entries).map (·.1) := by
  rcases insert_cases key v entries with ⟨before, old, after, rfl, _, set⟩ | ⟨_, set⟩
  · rw [set]
    simp
  · rw [set, List.map_append]
    exact List.prefix_append ..

theorem keys_override (entries new : Entries) :
    entries.map (·.1) <+: (override entries new).map (·.1) := by
  induction new generalizing entries with
  | nil => exact List.prefix_refl _
  | cons entry rest ih => exact (keys_insert entry.1 entry.2 entries).trans (ih _)

/-- A key that is there has a value. -/
theorem isSome_find? (same : key.sameKey key = true) (mem : key ∈ entries.map (·.1)) :
    (find? entries key).isSome = true := by
  obtain ⟨entry, inside, rfl⟩ := List.mem_map.mp mem
  rw [find?, Option.isSome_map, List.find?_isSome]
  exact ⟨entry, inside, same⟩

theorem insert_differ (h : entries.Differ) (key v : Value) : (insert key v entries).Differ := by
  rcases insert_cases key v entries with ⟨before, old, after, rfl, _, set⟩ | ⟨away, set⟩
  · rw [set]
    unfold Differ at h ⊢
    simpa [List.pairwise_append] using h
  · rw [set]
    refine List.pairwise_append.mpr ⟨h, List.pairwise_singleton _ _, ?_⟩
    intro entry mem other last
    rw [List.mem_singleton.mp last]
    exact away entry mem

/-- Keys that are set one after the other differ. -/
theorem override_differ (h : entries.Differ) (new : Entries) : (override entries new).Differ := by
  induction new generalizing entries with
  | nil => exact h
  | cons entry rest ih => exact ih (insert_differ h entry.1 entry.2)

/-- An entry whose key is not set stays in front. -/
theorem override_cons {entry : Value × Value}
    (other : ∀ e ∈ new, entry.1.sameKey e.1 = false) (entries : Entries) :
    override (entry :: entries) new = entry :: override entries new := by
  induction new generalizing entries with
  | nil => rfl
  | cons e rest ih =>
    rw [List.forall_mem_cons] at other
    have passed : insert e.1 e.2 (entry :: entries) = entry :: insert e.1 e.2 entries := by
      rw [insert, other.1, if_neg Bool.false_ne_true]
    change override (insert e.1 e.2 (entry :: entries)) rest = _
    rw [passed, ih other.2]
    rfl

/-- Entries whose keys differ stay as they are. -/
theorem ofList_eq (h : entries.Differ) : ofList entries = entries := by
  induction entries with
  | nil => rfl
  | cons entry rest ih =>
    obtain ⟨other, differ⟩ := List.pairwise_cons.mp h
    change override [entry] rest = _
    rw [override_cons other]
    exact congrArg (entry :: ·) (ih differ)

/-- Entries that begin with the keys they are set over stand for themselves. -/
theorem override_eq (same : ∀ entry ∈ entries, entry.1.sameKey entry.1 = true)
    (keys : entries.map (·.1) <+: new.map (·.1)) (differ : new.Differ) :
    override entries new = new := by
  induction entries generalizing new with
  | nil => exact ofList_eq differ
  | cons entry rest ih =>
    rw [List.forall_mem_cons] at same
    cases new with
    | nil => simp at keys
    | cons first more =>
      obtain ⟨begins, keys⟩ := List.cons_prefix_cons.mp keys
      have key : entry.1 = first.1 := begins
      obtain ⟨other, differ⟩ := List.pairwise_cons.mp differ
      have same' : entry.1.sameKey first.1 = true := key ▸ same.1
      have set : insert first.1 first.2 (entry :: rest) = first :: rest := by
        rw [insert, if_pos same', key]
      change override (insert first.1 first.2 (entry :: rest)) more = _
      rw [set, override_cons other, ih same.2 keys differ]

section

variable {p : Value → Bool} (alike : ∀ old key, old.sameKey key = true → p old = p key)

include alike

theorem filter_insert (kept : p key = true) (v : Value) (entries : Entries) :
    (insert key v entries).filter (fun entry => p entry.1) =
      insert key v (entries.filter fun entry => p entry.1) := by
  induction entries with
  | nil => simp [insert, kept]
  | cons first rest ih =>
    rw [insert]
    split
    · next found =>
      have kept' : p first.1 = true := (alike _ _ found).trans kept
      simp only [List.filter_cons, kept', if_true, insert, found]
    · next away =>
      simp only [List.filter_cons, ih]
      split
      · rw [insert, if_neg away]
      · rfl

/-- Entries are left out by their keys, and others set, in either order. -/
theorem filter_override (kept : ∀ entry ∈ new, p entry.1 = true) (entries : Entries) :
    (override entries new).filter (fun entry => p entry.1) =
      override (entries.filter fun entry => p entry.1) new := by
  induction new generalizing entries with
  | nil => rfl
  | cons entry rest ih =>
    rw [List.forall_mem_cons] at kept
    change (override (insert entry.1 entry.2 entries) rest).filter _ = _
    rw [ih kept.2, filter_insert alike kept.1]
    rfl

end

end

end Entries

namespace Value

mutual

/-- A document: a value that JSON has a form for, in which the keys of a dictionary differ. -/
def IsDocument : Value → Prop
  | .null | .bool _ | .text _ | .float _ => True
  | .int n => Decimal.IsShort n
  | .list items => AllDocuments items
  | .dictionary entries => Entries.Differ entries ∧ EntriesDocuments entries
  | .date _ | .dateTime _ => False

def AllDocuments : List Value → Prop
  | [] => True
  | v :: rest => IsDocument v ∧ AllDocuments rest

def EntriesDocuments : List (Value × Value) → Prop
  | [] => True
  | (key, v) :: rest => (∃ s, key = .text s) ∧ IsDocument v ∧ EntriesDocuments rest

end

mutual

theorem IsDocument.isJson : ∀ {v : Value}, IsDocument v → v.IsJson
  | .null, _ | .bool _, _ | .text _, _ | .float _, _ => trivial
  | .int _, h => h
  | .list _, h => AllDocuments.allJson h
  | .dictionary _, h => EntriesDocuments.entriesJson h.2

theorem AllDocuments.allJson : ∀ {items : List Value}, AllDocuments items → AllJson items
  | [], _ => trivial
  | _ :: _, h => ⟨h.1.isJson, AllDocuments.allJson h.2⟩

theorem EntriesDocuments.entriesJson : ∀ {entries : List (Value × Value)},
    EntriesDocuments entries → EntriesJson entries
  | [], _ => trivial
  | (_, _) :: _, h => ⟨h.1, h.2.1.isJson, EntriesDocuments.entriesJson h.2.2⟩

end

theorem isDocument_list_iff (items : List Value) :
    IsDocument (.list items) ↔ ∀ v ∈ items, v.IsDocument := by
  rw [IsDocument]
  induction items with
  | nil => simp [AllDocuments]
  | cons v rest ih => rw [AllDocuments, ih, List.forall_mem_cons]

theorem isDocument_empty : IsDocument (.dictionary []) := ⟨.nil, trivial⟩

theorem entriesDocuments_iff (entries : Entries) : EntriesDocuments entries ↔
    ∀ entry ∈ entries, (∃ s, entry.1 = .text s) ∧ entry.2.IsDocument := by
  induction entries with
  | nil => simp [EntriesDocuments]
  | cons entry rest ih => rw [EntriesDocuments, ih, List.forall_mem_cons, and_assoc]

theorem isDocument_dictionary_iff (entries : Entries) : IsDocument (.dictionary entries) ↔
    entries.Differ ∧ ∀ entry ∈ entries, (∃ s, entry.1 = .text s) ∧ entry.2.IsDocument := by
  rw [IsDocument, entriesDocuments_iff]

/-- A document without some of its entries. -/
theorem IsDocument.filter {entries : Entries} (h : IsDocument (.dictionary entries))
    (p : Value × Value → Bool) : IsDocument (.dictionary (entries.filter p)) := by
  rw [isDocument_dictionary_iff] at h ⊢
  exact ⟨h.1.filter p, fun entry mem => h.2 entry (List.mem_filter.mp mem).1⟩

end Value

namespace Entries

open Value

variable {key v : Value} {entries new : Entries}

theorem insert_documents (text : ∃ s, key = .text s) (document : v.IsDocument)
    (h : EntriesDocuments entries) : EntriesDocuments (insert key v entries) := by
  rw [entriesDocuments_iff] at h ⊢
  rcases insert_cases key v entries with ⟨before, old, after, rfl, _, set⟩ | ⟨_, set⟩
  · rw [set]
    rw [List.forall_mem_append, List.forall_mem_cons] at h ⊢
    exact ⟨h.1, ⟨h.2.1.1, document⟩, h.2.2⟩
  · rw [set]
    exact List.forall_mem_append.mpr ⟨h, List.forall_mem_singleton.mpr ⟨text, document⟩⟩

/-- Documents that are set one after the other in a document make a document. -/
theorem override_isDocument (h : EntriesDocuments new) (old : IsDocument (.dictionary entries)) :
    IsDocument (.dictionary (override entries new)) := by
  refine ⟨override_differ old.1 new, ?_⟩
  have documents := old.2
  clear old
  induction new generalizing entries with
  | nil => exact documents
  | cons entry rest ih =>
    obtain ⟨text, document, others⟩ := h
    exact ih others (insert_documents text document documents)

end Entries

end BaseGateway
