import BaseGateway.Proofs.Json.Reading
import BaseGateway.Proofs.Settings.InForce

/-!
# What a file of settings stands for

Loading the settings fails exactly where the file holds a document of the wrong kind, for which no
fault is passed over; otherwise every default is there, overridden by what the document gives
(`Settings.load_outcome`).

* a document gives settings (`Gives`), is of the wrong kind (`Stops`), or has a content that is
  passed over; its entries are read accordingly (`entriesOf_gives`, `entriesOf_stops`,
  `entriesOf_other`);
* so are the settings of a file (`inForce_gives`, `inForce_stops`, `inForce_other`);
* whatever is in force can be written in a document (`inForce_documents`).
-/

namespace BaseGateway

namespace Value

theorem parts_isDocument {v : Value} {items : List Value} (document : v.IsDocument)
    (got : v.parts = .ok items) : ∀ item ∈ items, item.IsDocument := by
  refine parts_each (fun _ => trivial) ?_ ?_ got
  · rintro own rfl
    exact (isDocument_list_iff own).mp document
  · rintro own rfl entry mem
    exact (((isDocument_dictionary_iff own).mp document).2 entry mem).1

end Value

namespace Settings

open Value

theorem pairEntry_isDocument {index : Nat} {v : Value} {entry : Value × Value}
    (document : v.IsDocument) (h : pairEntry index v = .ok entry) : entry.2.IsDocument := by
  unfold pairEntry at h
  split at h
  · cases h
  · next key w parts =>
    obtain ⟨_, _, h⟩ := Except.bind_ok h
    obtain rfl := Except.ok.inj h
    exact parts_isDocument document parts w (List.mem_cons_of_mem _ List.mem_cons_self)
  · cases h

theorem entriesOf_documents {document : Value} {entries : Entries} (told : document.IsDocument)
    (h : entriesOf document = .ok entries) : ∀ entry ∈ entries, entry.2.IsDocument := by
  unfold entriesOf at h
  split at h
  · obtain rfl := Except.ok.inj h
    exact fun entry mem => (((isDocument_dictionary_iff _).mp told).2 entry mem).2
  · obtain ⟨parts, got, h⟩ := Except.bind_ok h
    have each := parts_isDocument told got
    refine Except.mapM_each (S := fun entry => entry.2.IsDocument) (fun part mem entry read => ?_) h
    exact pairEntry_isDocument (each part.1 (List.fst_mem_of_mem_zipIdx mem)) read

/-! ## What a document gives -/

/-- A value without parts. -/
def IsAtom : Value → Bool
  | .text _ | .list _ | .dictionary _ => false
  | _ => true

theorem isAtom_iff {v : Value} : IsAtom v = true ↔ ∃ f, v.parts = .error f := by
  cases v <;> simp [IsAtom, parts]

/-- A value is made of two, the first of which can be a key. -/
def IsPair (v : Value) (entry : Value × Value) : Prop :=
  v.parts = .ok [entry.1, entry.2] ∧ entry.1.isKey = true

/-- A document and the settings that it gives: a dictionary its entries, a list of pairs those of
the pairs. -/
inductive Gives : Value → Entries → Prop
  | dictionary (own : Entries) : Gives (.dictionary own) own
  | pairs {items : List Value} {own : Entries} (each : List.Forall₂ IsPair items own) :
      Gives (.list items) own
  | empty : Gives (.text "") []

/-- An item that cannot even be tried as a pair: it has no parts, or its two parts begin with one
that cannot be a key. -/
def Clashes (v : Value) : Prop :=
  IsAtom v = true ∨ ∃ key w, v.parts = .ok [key, w] ∧ key.isKey = false

/-- A document of the wrong kind: it has no parts, or it is a list in which such an item comes
before any other that is no pair. -/
inductive Stops : Value → Prop
  | atom {v : Value} (h : IsAtom v = true) : Stops v
  | item {before after : List Value} {v : Value} (pairs : ∀ u ∈ before, ∃ entry, IsPair u entry)
      (clash : Clashes v) : Stops (.list (before ++ v :: after))

/-- Faults with the kind of a value are not passed over. -/
theorem isSurvivable_of_wrongKind {f : Fault} (h : f.kind = .wrongKind) :
    isSurvivable f = false := by
  unfold isSurvivable
  rw [h]

section

variable {index : Nat} {v document : Value} {entry : Value × Value} {own : Entries}

theorem pairEntry_pair (h : IsPair v entry) : pairEntry index v = .ok entry := by
  obtain ⟨two, keyed⟩ := h
  unfold pairEntry
  rw [two]
  dsimp only
  rw [requireKey, if_pos keyed]
  rfl

theorem pairEntry_clash (index : Nat) (h : Clashes v) :
    ∃ f, pairEntry index v = .error f ∧ f.kind = .wrongKind := by
  unfold pairEntry
  rcases h with atom | ⟨key, w, two, keyed⟩
  · obtain ⟨f, none⟩ := isAtom_iff.mp atom
    rw [none]
    exact ⟨_, rfl, rfl⟩
  · rw [two]
    dsimp only
    rw [requireKey, keyed]
    exact ⟨_, rfl, rfl⟩

theorem pairEntry_other (index : Nat) (pair : ∀ entry, ¬IsPair v entry) (clash : ¬Clashes v) :
    ∃ f, pairEntry index v = .error f ∧ isSurvivable f = true := by
  unfold pairEntry
  split
  · next none => exact absurd (.inl (isAtom_iff.mpr ⟨_, none⟩)) clash
  · next key w two =>
    cases keyed : key.isKey with
    | true => exact absurd ⟨two, keyed⟩ (pair (key, w))
    | false => exact absurd (.inr ⟨key, w, two, keyed⟩) clash
  · exact ⟨_, rfl, rfl⟩

/-- A character by itself is no pair. -/
theorem pairEntry_char (index : Nat) (c : Char) :
    pairEntry index (.text c.toString) = .error (.pairLength index 1) := by
  have one : (Value.text c.toString).parts = .ok [.text c.toString] := by
    rw [parts, Char.toString_eq_singleton, String.toList_singleton]
    simp
  unfold pairEntry
  rw [one]
  rfl

theorem pairEntry_ok_iff : pairEntry index v = .ok entry ↔ IsPair v entry := by
  refine ⟨fun h => ?_, pairEntry_pair⟩
  by_contra other
  by_cases clash : Clashes v
  · obtain ⟨f, fails, _⟩ := pairEntry_clash index clash
    rw [fails] at h
    cases h
  · have pair : ∀ entry, ¬IsPair v entry := by
      intro entry' two
      rw [pairEntry_pair two] at h
      exact other (Except.ok.inj h ▸ two)
    obtain ⟨f, fails, _⟩ := pairEntry_other index pair clash
    rw [fails] at h
    cases h

theorem entriesOf_list (items : List Value) : entriesOf (.list items) =
    items.zipIdx.mapM fun part => pairEntry part.2 part.1 := rfl

/-- The items of a list with the entries that are read from them. -/
theorem forall₂_zipIdx {items : List Value} :
    List.Forall₂ (fun part entry => pairEntry part.2 part.1 = .ok entry) items.zipIdx own ↔
      List.Forall₂ IsPair items own := by
  have fst : items.zipIdx.map Prod.fst = items := List.zipIdx_map_fst ..
  conv_rhs => rw [← fst, List.forall₂_map_left_iff]
  simp only [pairEntry_ok_iff]

theorem entriesOf_gives (h : Gives document own) : entriesOf document = .ok own := by
  cases h with
  | dictionary => rfl
  | pairs each =>
    rw [entriesOf_list]
    exact Except.mapM_of_forall₂ (forall₂_zipIdx.mpr each)
  | empty => rfl

theorem entriesOf_stops (h : Stops document) :
    ∃ f, entriesOf document = .error f ∧ f.kind = .wrongKind := by
  cases h with
  | atom h =>
    cases document with
    | text | list | dictionary => cases h
    | _ => exact ⟨_, rfl, rfl⟩
  | @item before after v pairs clash =>
    obtain ⟨f, fails, kind⟩ := pairEntry_clash before.length clash
    refine ⟨f, ?_, kind⟩
    rw [entriesOf_list, Except.mapM_error_iff]
    refine ⟨before.zipIdx, (v, before.length), after.zipIdx (before.length + 1), ?_, ?_, fails⟩
    · rw [List.zipIdx_append, List.zipIdx_cons, Nat.zero_add]
    · intro part mem
      obtain ⟨entry, pair⟩ := pairs part.1 (List.fst_mem_of_mem_zipIdx mem)
      exact ⟨entry, pairEntry_pair pair⟩

theorem entriesOf_other (gives : ∀ own, ¬Gives document own) (stops : ¬Stops document) :
    ∃ f, entriesOf document = .error f ∧ isSurvivable f = true := by
  cases document with
  | dictionary own => exact absurd (.dictionary own) (gives own)
  | text s =>
    cases chars : s.toList with
    | nil =>
      rw [String.toList_eq_nil_iff] at chars
      exact absurd (chars ▸ .empty) (gives [])
    | cons c rest =>
      have run : entriesOf (.text s) = .error (.pairLength 0 1) := by
        change ((s.toList.map fun c => text c.toString).zipIdx.mapM fun part =>
          pairEntry part.2 part.1) = _
        rw [chars, Except.mapM_error_iff]
        exact ⟨[], (.text c.toString, 0), _, rfl, List.forall_mem_nil _, pairEntry_char 0 c⟩
      exact ⟨_, run, rfl⟩
  | list items =>
    rw [entriesOf_list]
    cases run : items.zipIdx.mapM fun part => pairEntry part.2 part.1 with
    | ok own => exact absurd (.pairs (forall₂_zipIdx.mp (Except.mapM_forall₂ run))) (gives own)
    | error f =>
      obtain ⟨before, part, after, split, passed, fails⟩ := Except.mapM_error_iff.mp run
      have items' : items = before.map Prod.fst ++ part.1 :: after.map Prod.fst := by
        rw [← List.zipIdx_map_fst 0 items, split]
        simp
      have pairs : ∀ u ∈ before.map Prod.fst, ∃ entry, IsPair u entry := by
        refine List.forall_mem_map.mpr fun part mem => ?_
        obtain ⟨entry, read⟩ := passed part mem
        exact ⟨entry, pairEntry_ok_iff.mp read⟩
      have clash : ¬Clashes part.1 := fun clash => stops (items' ▸ .item pairs clash)
      have pair : ∀ entry, ¬IsPair part.1 entry := by
        intro entry two
        rw [pairEntry_pair two] at fails
        cases fails
      obtain ⟨f', other, survivable⟩ := pairEntry_other part.2 pair clash
      obtain rfl := Except.error.inj (fails.symm.trans other)
      exact ⟨f, rfl, survivable⟩
  | _ => exact absurd (.atom rfl) stops

end

/-! ## What a file stands for -/

/-- The document that a file holds. -/
def document? (file : SettingsFile) : Option Value :=
  match file.content with
  | .text s => (Json.read (String.ofList (Text.plainLineEnds s.toList))).toOption
  | _ => none

section

variable {file : SettingsFile} {document : Value} {own entries : Entries}

theorem ofFile_document (found : document? file = some document) :
    ofFile file = (do return Entries.override defaults (← entriesOf document)) := by
  unfold document? at found
  unfold ofFile
  split at found
  · next s content =>
    rw [content]
    dsimp only
    rw [ofText]
    cases read : Json.read (String.ofList (Text.plainLineEnds s.toList)) with
    | error f =>
      rw [read] at found
      cases found
    | ok v =>
      rw [read] at found
      obtain rfl := Option.some.inj found
      rfl
  · cases found

/-- A text that is no document is passed over. -/
theorem isSurvivable_of_read {text : String} {f : Fault} (h : Json.read text = .error f) :
    isSurvivable f = true := by
  unfold Json.read at h
  dsimp only at h
  split at h <;> cases h <;> rfl

/-- A file without a document stands for the defaults, or has a fault that is passed over. -/
theorem inForce_none (none : document? file = none) : inForce file = .ok defaults := by
  unfold document? at none
  unfold inForce ofFile
  cases content : file.content with
  | missing => rfl
  | directory => rfl
  | text s =>
    rw [content] at none
    dsimp only at none ⊢
    rw [ofText]
    cases read : Json.read (String.ofList (Text.plainLineEnds s.toList)) with
    | ok v =>
      rw [read] at none
      cases none
    | error f =>
      dsimp only [bind, Except.bind]
      rw [isSurvivable_of_read read, if_pos rfl]

theorem inForce_gives (found : document? file = some document) (h : Gives document own) :
    inForce file = .ok (Entries.override defaults own) := by
  unfold inForce
  rw [ofFile_document found, entriesOf_gives h]
  rfl

theorem inForce_stops (found : document? file = some document) (h : Stops document) :
    ∃ f, inForce file = .error f ∧ f.kind = .wrongKind := by
  obtain ⟨f, fails, kind⟩ := entriesOf_stops h
  refine ⟨f, ?_, kind⟩
  unfold inForce
  rw [ofFile_document found, fails]
  dsimp only [bind, Except.bind]
  rw [isSurvivable_of_wrongKind kind, if_neg Bool.false_ne_true]

theorem inForce_other (found : document? file = some document) (gives : ∀ own, ¬Gives document own)
    (stops : ¬Stops document) : inForce file = .ok defaults := by
  obtain ⟨f, fails, survivable⟩ := entriesOf_other gives stops
  unfold inForce
  rw [ofFile_document found, fails]
  dsimp only [bind, Except.bind]
  rw [survivable, if_pos rfl]

/-- Only a document of the wrong kind keeps a file from standing for settings. -/
theorem stops_of_inForce {f : Fault} (h : inForce file = .error f) :
    ∃ document, document? file = some document ∧ Stops document := by
  cases found : document? file with
  | none =>
    rw [inForce_none found] at h
    cases h
  | some document =>
    refine ⟨document, rfl, ?_⟩
    by_contra stops
    by_cases gives : ∃ own, Gives document own
    · obtain ⟨own, gives⟩ := gives
      rw [inForce_gives found gives] at h
      cases h
    · rw [inForce_other found (not_exists.mp gives) stops] at h
      cases h

/-- The settings of a file are the defaults, overridden by those that its document gives. -/
theorem inForce_cases (h : inForce file = .ok entries) :
    ∃ own, entries = Entries.override defaults own ∧
      (own = [] ∨ ∃ document, document? file = some document ∧ Gives document own) := by
  cases found : document? file with
  | none =>
    rw [inForce_none found] at h
    exact ⟨[], (Except.ok.inj h).symm, .inl rfl⟩
  | some document =>
    by_cases gives : ∃ own, Gives document own
    · obtain ⟨own, gives⟩ := gives
      rw [inForce_gives found gives] at h
      exact ⟨own, (Except.ok.inj h).symm, .inr ⟨document, rfl, gives⟩⟩
    · by_cases stops : Stops document
      · obtain ⟨f, fails, _⟩ := inForce_stops found stops
        rw [fails] at h
        cases h
      · rw [inForce_other found (not_exists.mp gives) stops] at h
        exact ⟨[], (Except.ok.inj h).symm, .inl rfl⟩

theorem isDocument_of_document? (found : document? file = some document) : document.IsDocument := by
  unfold document? at found
  split at found
  · next s _ =>
    cases read : Json.read (String.ofList (Text.plainLineEnds s.toList)) with
    | error f =>
      rw [read] at found
      cases found
    | ok v =>
      rw [read] at found
      exact Option.some.inj found ▸ Json.read_isDocument read
  · cases found

theorem gives_documents (told : document.IsDocument) (h : Gives document own) :
    ∀ entry ∈ own, entry.2.IsDocument :=
  entriesOf_documents told (entriesOf_gives h)

theorem isDocument_defaults : IsDocument (.dictionary defaults) := by
  have thirty : IsDocument (.int 30) := isJson_count (n := 30) (by decide)
  have five : IsDocument (.int 5) := isJson_count (n := 5) (by decide)
  have ranges : IsDocument (.ofTexts defaultAgeRanges) :=
    (isDocument_list_iff _).mpr (List.forall_mem_map.mpr fun s _ => trivial)
  have differ : defaults.Differ := by
    unfold Entries.Differ
    decide
  exact ⟨differ, ⟨_, rfl⟩, trivial, ⟨_, rfl⟩, thirty, ⟨_, rfl⟩, five, ⟨_, rfl⟩, trivial,
    ⟨_, rfl⟩, trivial, ⟨_, rfl⟩, ranges, trivial⟩

/-- Whatever a file holds, the settings it stands for begin with the keys of the defaults; no key is
there twice, and the values can be written in a document. -/
theorem inForce_documents (h : inForce file = .ok entries) :
    entries.Differ ∧ defaults.map (·.1) <+: entries.map (·.1) ∧
      ∀ entry ∈ entries, entry.2.IsDocument := by
  obtain ⟨own, rfl, source⟩ := inForce_cases h
  have values : ∀ entry ∈ own, entry.2.IsDocument := by
    rcases source with rfl | ⟨document, found, gives⟩
    · exact List.forall_mem_nil _
    · exact gives_documents (isDocument_of_document? found) gives
  have old := ((isDocument_dictionary_iff _).mp isDocument_defaults)
  exact ⟨Entries.override_differ old.1 own, Entries.keys_override defaults own,
    Entries.override_values values fun entry mem => (old.2 entry mem).2⟩

end

/-- Loading the settings fails where the file holds a document of the wrong kind, and nowhere else.
Otherwise every default key is there; the settings are the defaults, overridden by those that the
document gives, and the mere defaults where the file gives none. -/
theorem load_outcome (file : SettingsFile) (j : Journal) :
    match ((load file).run.run j).1 with
    | .error e => (∃ f : Fault, e = .fault f ∧ f.kind = .wrongKind) ∧
        ∃ document, document? file = some document ∧ Stops document
    | .ok entries => (∀ document, document? file = some document → ¬Stops document) ∧
        (∀ key ∈ defaults.map (·.1), (Entries.find? entries key).isSome = true) ∧
        (∀ document own, document? file = some document → Gives document own →
          entries = Entries.override defaults own) ∧
        ((∀ document own, document? file = some document → ¬Gives document own) →
          entries = defaults) := by
  obtain ⟨j', run⟩ := load_settled file j
  rw [run]
  cases forced : inForce file with
  | error f =>
    obtain ⟨document, found, stops⟩ := stops_of_inForce forced
    obtain ⟨f', fails, kind⟩ := inForce_stops found stops
    obtain rfl := Except.error.inj (forced.symm.trans fails)
    exact ⟨⟨f, rfl, kind⟩, document, found, stops⟩
  | ok entries =>
    refine ⟨?_, ?_, ?_, ?_⟩
    · intro document found stops
      obtain ⟨f, fails, _⟩ := inForce_stops found stops
      rw [fails] at forced
      cases forced
    · have texts : ∀ key ∈ defaults.map (·.1), key.sameKey key = true := by decide
      have keys := (inForce_documents forced).2.1
      exact fun key mem => Entries.isSome_find? (texts key mem) (keys.subset mem)
    · intro document own found gives
      exact Except.ok.inj (forced.symm.trans (inForce_gives found gives))
    · intro none
      obtain ⟨own, rfl, rfl | ⟨document, found, gives⟩⟩ := inForce_cases forced
      · rfl
      · exact absurd gives (none document own found)

/-- A file that holds `null` stops the loading. -/
theorem load_null : ((load ⟨"config.json", .text "null"⟩).run.run {}).1 =
    .error (.fault (.notIterable "NoneType")) := rfl

end Settings

end BaseGateway
