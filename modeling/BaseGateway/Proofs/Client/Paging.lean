import Mathlib.Data.Rat.Defs
import Mathlib.Order.Bounds.Basic
import BaseGateway.Proofs.Client.Admitting
import BaseGateway.Proofs.Json.RoundTrip

/-!
# Listings over several pages

The service lists records page by page; each page but the last has the offset of the next one. A
listing that gets as far as asking for the first page gives the records of all pages in their order,
or the first of them up to the number that was asked for, and it asks for no more pages than it
needs for that, each by the parameters of the first and the offset of the page before it
(`Account.listRecords_pages`).

* from any page on, the pages that are asked for go up to the first one that makes the records
  enough, or to the last one (`Account.listFrom_pages`);
* what was left out behind that page would have been cut off (`Listing.cut_enough`).
-/

namespace BaseGateway

/-- A record of these entries as it is shown. -/
def shownEntries (record : Entries) : Value :=
  .record [("id", (record.get? "id").getD .null),
    ("fields", (record.get? "fields").getD (.dictionary [])),
    ("createdTime", (record.get? "createdTime").getD .null)]

/-- A successful reply that lists records. -/
structure Page where
  reply : Reply
  document : Entries
  records : List Entries
  read : reply.document = .ok (.dictionary document)
  listed : (Value.dictionary document).itemsUnder "records" = .ok (records.map .dictionary)

namespace Page

/-- Where the next page begins; nothing is given on the last one. -/
def offset (p : Page) : Value := (p.document.get? "offset").getD .null

def shown (p : Page) : List Value := p.records.map shownEntries

theorem recordsIn_document (p : Page) : recordsIn (.dictionary p.document) = .ok p.shown := by
  have each : ∀ records : List Entries,
      (records.map Value.dictionary).mapM shownRecord = .ok (records.map shownEntries) := by
    intro records
    induction records with
    | nil => rfl
    | cons record rest ih =>
      rw [List.map_cons, List.mapM_cons, ih]
      rfl
  unfold recordsIn
  rw [p.listed]
  exact each p.records

theorem get_offset (p : Page) : (Value.dictionary p.document).get "offset" = .ok p.offset := rfl

end Page

/-- The pages of a listing: each but the last has the offset of the next one. -/
inductive Listed : List Page → Prop where
  | last (p : Page) (ends : p.offset.isGiven = false) : Listed [p]
  | next (p : Page) (more : p.offset.isGiven = true) {rest : List Page} (others : Listed rest) :
    Listed (p :: rest)

/-- The records of pages in their order. -/
def shownOf (pages : List Page) : List Value := pages.flatMap Page.shown

namespace Listing

variable (l : Listing)

theorem isEnough_none (all : given l.maxRecords = none) (count : Nat) :
    l.isEnough count = false := by
  unfold isEnough
  rw [all]

theorem cut_none (all : given l.maxRecords = none) (records : List Value) :
    l.cut records = records := by
  unfold cut
  rw [all]

theorem isEnough_some {m : Int} (asked : given l.maxRecords = some m) (count : Nat) :
    l.isEnough count = decide (m ≤ count) := by
  unfold isEnough
  rw [asked]

end Listing

namespace Account

variable {τ : Type} [Add τ] [Sub τ] [OfNat τ 0] [LT τ] [DecidableLT τ] [Duration τ] (a : Account)

/-- Where the pages of a listing are asked for and with which parameters. -/
def pagesOf (table : String) (named : Option String) (l : Listing) :
    Operation τ (String × List (String × Value)) := do
  let base ← a.baseFor named
  let fields ← if l.fields.isEmpty then a.selectedFields table base l.exclusions
    else pure (l.fields.map .text)
  let parameters ← Operation.ofFault (l.parameters fields)
  return (tablePath base table, parameters)

/-- Asks for the pages of a listing. -/
def listThrough (path : String) (l : Listing) (parameters : List (String × Value)) :
    Operation τ (List Value) := do
  let pages := (← get).replies.length + 1
  return l.cut (← a.listFrom path l parameters pages 0 .null)

/-- A listing settles what to ask for before it asks for the first page. -/
theorem listRecords_split (table : String) (named : Option String) (l : Listing) :
    (a.listRecords table named l : Operation τ (List Value)) =
      a.pagesOf table named l >>= fun asked => a.listThrough asked.1 l asked.2 := by
  have rest (base : String) (fields : List Value) :
      (do
        let parameters ← Operation.ofFault (l.parameters fields)
        let pages := (← get).replies.length + 1
        return l.cut (← a.listFrom (tablePath base table) l parameters pages 0 .null) :
          Operation τ (List Value)) =
      (do
        let parameters ← Operation.ofFault (l.parameters fields)
        return (tablePath base table, parameters)) >>= fun asked =>
          a.listThrough asked.1 l asked.2 := by
    rw [bind_assoc]
    rfl
  unfold listRecords pagesOf
  rw [bind_assoc]
  congr 1
  funext base
  dsimp only
  split
  · rw [bind_assoc]
    congr 1
    funext fields
    exact rest base fields
  · exact rest base _

section Pages

variable (path : String) (l : Listing) (parameters : List (String × Value))

/-- The call for the page of an offset. -/
def pageCall (offset : Value) : Call := a.callTo "GET" path (pageQuery parameters offset) none

/-- A page is asked for and read, and the next one only where there is one and more is needed. -/
theorem listFrom_page (p : Page) {s : Session τ} (opened : 1 ≤ s.limiter.maximum)
    {later : List Reply} (stored : s.replies = p.reply :: later) (pages known : Nat)
    (offset : Value) :
    ∃ s', s'.outgoing = s.outgoing ++ [a.pageCall path parameters offset] ∧
      s'.replies = later ∧ s'.limiter.maximum = s.limiter.maximum ∧
      (a.listFrom path l parameters (pages + 1) known offset).run.run s =
        (if !p.offset.isGiven || l.isEnough (known + p.shown.length) then pure p.shown
        else do
          return p.shown ++ (← a.listFrom path l parameters pages (known + p.shown.length)
            p.offset) : Operation τ (List Value)).run.run s' := by
  obtain ⟨s', ran, sent, left, kept⟩ :=
    a.request_open "GET" path (pageQuery parameters offset) none opened stored
  refine ⟨s', sent, left, kept, ?_⟩
  rw [p.read] at ran
  unfold pageQuery at ran
  rw [listFrom]
  simp only [run_bind, ran, Operation.run_ofFault, p.recordsIn_document, p.get_offset, orFault_ok]

/-- From any page on the pages are asked for up to the first that makes the records enough, or to
the last one. -/
theorem listFrom_pages {pages : List Page} (listed : Listed pages) {s : Session τ}
    (opened : 1 ≤ s.limiter.maximum) {later : List Reply}
    (stored : s.replies = pages.map Page.reply ++ later) {fuel : Nat}
    (enough : pages.length ≤ fuel) (known : Nat) (offset : Value) :
    ∃ k s', 1 ≤ k ∧ k ≤ pages.length ∧
      (a.listFrom path l parameters fuel known offset).run.run s =
        (.ok (shownOf (pages.take k)), s') ∧
      s'.outgoing = s.outgoing ++
        (offset :: (pages.take (k - 1)).map Page.offset).map (a.pageCall path parameters) ∧
      (k = pages.length ∨ l.isEnough (known + (shownOf (pages.take k)).length) = true) ∧
      ∀ j, 1 ≤ j → j < k → l.isEnough (known + (shownOf (pages.take j)).length) = false := by
  induction listed generalizing s fuel known offset with
  | last p ends =>
    obtain ⟨fuel, rfl⟩ : ∃ n, fuel = n + 1 := Nat.exists_eq_add_one.mpr enough
    obtain ⟨s', sent, -, -, ran⟩ :=
      a.listFrom_page path l parameters p opened stored fuel known offset
    rw [ends, Bool.not_false, Bool.true_or, if_pos rfl, run_pure] at ran
    refine ⟨1, s', le_refl 1, le_refl 1, ?_, sent, .inl rfl, fun j _ _ => by omega⟩
    rw [ran, List.take_succ_cons, List.take_zero, shownOf, List.flatMap_singleton]
  | @next p further rest others ih =>
    rw [List.length_cons] at enough
    obtain ⟨fuel, rfl⟩ : ∃ n, fuel = n + 1 := Nat.exists_eq_add_one.mpr (by omega)
    obtain ⟨s', sent, left, kept, ran⟩ :=
      a.listFrom_page path l parameters p opened stored fuel known offset
    rw [further, Bool.not_true, Bool.false_or] at ran
    have ahead (j : Nat) : shownOf ((p :: rest).take (j + 1)) =
        p.shown ++ shownOf (rest.take j) := rfl
    have one : shownOf ((p :: rest).take 1) = p.shown := List.append_nil _
    cases full : l.isEnough (known + p.shown.length) with
    | true =>
      rw [full, if_pos rfl, run_pure] at ran
      exact ⟨1, s', le_refl 1, by simp, by rw [ran, one], sent, .inr (by rwa [one]),
        fun j _ _ => by omega⟩
    | false =>
      have room : rest.length ≤ fuel := by omega
      obtain ⟨k, last, some, few, went, out, stops, earlier⟩ :=
        ih (kept ▸ opened) left room (known + p.shown.length) p.offset
      rw [full, if_neg Bool.false_ne_true, run_bind, went] at ran
      refine ⟨k + 1, last, by omega, by simpa using few, by rw [ran, ahead]; rfl, ?_, ?_, ?_⟩
      · obtain ⟨k, rfl⟩ : ∃ n, k = n + 1 := Nat.exists_eq_add_one.mpr some
        rw [out, sent]
        simp
      · refine stops.imp (fun all => by rw [all, List.length_cons]) fun reached => ?_
        rwa [ahead, List.length_append, ← Nat.add_assoc]
      · intro j positive first
        obtain ⟨j, rfl⟩ := Nat.exists_eq_add_one.mpr positive
        rw [ahead, List.length_append, ← Nat.add_assoc]
        cases j with
        | zero => exact full
        | succ j => exact earlier (j + 1) (by omega) (by omega)

end Pages

/-- Settling what to ask for keeps a limiter coherent. -/
theorem pagesOf_coherent (table : String) (named : Option String) (l : Listing) :
    Keeps (fun s : Session τ => s.limiter.Coherent) (a.pagesOf table named l) := by
  have rest (base : String) (fields : List Value) :
      Keeps (fun s : Session τ => s.limiter.Coherent) (do
        let parameters ← Operation.ofFault (l.parameters fields)
        return (tablePath base table, parameters)) :=
    .bind (fun _ held => held) fun _ => .pure _
  refine .bind (fun _ held => held) fun base => ?_
  dsimp only
  split
  · have selected :=
      ((Session.coherent_lasting (τ := τ)).paired a).selectedFields table base l.exclusions
    exact .bind selected.keeps (rest base)
  · exact rest base _

end Account

theorem Listed.more {pages : List Page} (h : Listed pages) {j : Nat} {p : Page}
    (at' : pages[j]? = some p) (further : j + 1 < pages.length) : p.offset.isGiven = true := by
  induction h generalizing j with
  | last p ends => simp at further
  | next p more others ih =>
    cases j with
    | zero =>
      obtain rfl := Option.some.inj at'
      exact more
    | succ j => exact ih at' (by simpa using further)

/-- With enough records read, the rest would be cut off. -/
theorem Listing.cut_enough (l : Listing) {m : Int} (asked : given l.maxRecords = some m)
    (positive : 1 ≤ m) {pages : List Page} {k : Nat}
    (stops : k = pages.length ∨ m ≤ (shownOf (pages.take k)).length) :
    l.cut (shownOf (pages.take k)) = (shownOf pages).take m.toNat := by
  have whole : shownOf pages = shownOf (pages.take k) ++ shownOf (pages.drop k) := by
    unfold shownOf
    rw [← List.flatMap_append, List.take_append_drop]
  unfold cut takeCount
  rw [asked]
  dsimp only
  rw [if_pos (by omega)]
  rcases stops with all | reached
  · rw [all, List.take_length]
  · rw [whole, List.take_append_of_le_length (by omega)]

/-- Whatever happened to the session before: a listing that gets as far as asking for the first page
gives the records of all pages in their order or, where a number of records was asked for, the first
as many of them, with the least number of pages that hold as many or are all there are. Every page
is asked for by the parameters of the first and the offset of the page before it. -/
theorem Account.listRecords_pages {τ : Type} [Add τ] [Sub τ] [OfNat τ 0] [LT τ] [DecidableLT τ]
    [Duration τ] (a : Account) {start s : Session τ} (fresh : start.limiter.times = [])
    (reach : Relation.ReflTransGen Session.Event start s) {table : String}
    {named : Option String} {l : Listing} {path : String} {parameters : List (String × Value)}
    {before : Session τ}
    (settled : (a.pagesOf table named l).run.run s = (.ok (path, parameters), before))
    {pages : List Page} (listed : Listed pages) {later : List Reply}
    (stored : before.replies = pages.map Page.reply ++ later)
    {result : Except Failure (List Value)} {after : Session τ}
    (ran : (a.listRecords table named l).run.run s = (result, after))
    (reached : after.outgoing ≠ before.outgoing) :
    ∃ calls, after.outgoing = before.outgoing ++ calls ∧
      calls[0]? = some (a.callTo "GET" path (.pairs parameters) none) ∧
      (∀ j p, pages[j]? = some p → j + 1 < calls.length →
        calls[j + 1]? =
          some (a.callTo "GET" path (.pairs (parameters ++ [("offset", p.offset)])) none)) ∧
      (Listing.given l.maxRecords = none →
        result = .ok (shownOf pages) ∧ calls.length = pages.length) ∧
      ∀ m, Listing.given l.maxRecords = some m → 1 ≤ m →
        result = .ok ((shownOf pages).take m.toNat) ∧
          IsLeast {k | k = pages.length ∨ m ≤ (shownOf (pages.take k)).length} calls.length := by
  have coherent : before.limiter.Coherent := by
    have kept := a.pagesOf_coherent table named l s (Session.reach_coherent fresh reach)
    rwa [settled] at kept
  rw [a.listRecords_split, run_bind, settled] at ran
  dsimp only [listThrough] at ran
  rw [run_bind, run_get] at ran
  dsimp only at ran
  rw [run_bind] at ran
  have opened : 1 ≤ before.limiter.maximum := by
    by_contra closed
    have shut : before.limiter.maximum < 1 := by omega
    rw [listFrom, run_bind, a.request_shut _ _ _ _ shut (coherent shut)] at ran
    exact reached (by rw [(Prod.mk.inj ran).2])
  have room : pages.length ≤ before.replies.length + 1 := by
    rw [stored, List.length_append, List.length_map]
    omega
  obtain ⟨k, last, one, few, went, out, stops, earlier⟩ :=
    a.listFrom_pages path l parameters listed opened stored room 0 .null
  rw [went] at ran
  dsimp only at ran
  rw [run_pure] at ran
  obtain ⟨rfl, rfl⟩ := Prod.mk.inj ran
  simp only [Nat.zero_add] at stops earlier
  have count : ((Value.null :: (pages.take (k - 1)).map Page.offset).map
      (a.pageCall path parameters)).length = k := by
    simp
    omega
  refine ⟨_, out, ?_, ?_, ?_, ?_⟩
  · simp [pageCall, pageQuery, Value.isGiven]
  · intro j p at' further
    rw [count] at further
    have given := listed.more at' (by omega)
    rw [List.map_cons, List.getElem?_cons_succ, List.getElem?_map, List.getElem?_map,
      List.getElem?_take_of_lt (by omega), at']
    simp [pageCall, pageQuery, given]
  · intro all
    obtain rfl : k = pages.length := stops.resolve_right (by simp [l.isEnough_none all])
    exact ⟨by rw [List.take_length, l.cut_none all], count⟩
  · intro m asked positive
    simp only [l.isEnough_some asked, decide_eq_true_eq, decide_eq_false_iff_not] at stops earlier
    rw [count]
    refine ⟨by rw [l.cut_enough asked positive stops], stops, ?_⟩
    rintro j (rfl | held)
    · exact few
    · by_contra less
      rcases Nat.eq_zero_or_pos j with rfl | some
      · simp [shownOf] at held
        omega
      · exact earlier j some (by omega) held

/-- The document of a page: its records, and where the next page begins. -/
def Page.entries (records : List Entries) (offset : Value) : Entries :=
  [(.text "records", .list (records.map .dictionary)), (.text "offset", offset)]

/-- A page as it is written. -/
def Page.written (records : List Entries) (offset : Value)
    (told : Json.IsExact (.dictionary (entries records offset))) : Page where
  reply := .answer 200
    (String.ofList (Json.document (.page true) (.dictionary (entries records offset))).chars)
  document := entries records offset
  records
  read := by
    have read := Json.read_document (.page true) told.isDocument
    have some : (String.ofList (Json.document (.page true)
        (.dictionary (entries records offset))).chars).isEmpty = false := by
      by_contra none
      rw [Bool.not_eq_false, String.isEmpty_iff] at none
      rw [none] at read
      cases read
    unfold Reply.document
    dsimp only
    rw [some, read]
    rfl
  listed := rfl

/-- Two pages, of two records and of one. -/
def Page.two : List Page :=
  [.written [[(.text "id", .text "rec1")], [(.text "id", .text "rec2")]] (.text "itr1") (by
      simp [Json.IsExact, Json.AllExact, Json.EntriesExact, Page.entries]; decide),
    .written [[(.text "id", .text "rec3")]] .null (by
      simp [Json.IsExact, Json.AllExact, Json.EntriesExact, Page.entries]; decide)]

theorem Page.listed_two : Listed Page.two := .next _ rfl (.last _ rfl)

/-- Of two pages with three records, a listing of two asks for the first page only. -/
theorem Account.listRecords_pages_two :
    let _ : Duration ℚ := ⟨fun _ => ""⟩
    let start : Session ℚ := { now := 0, limiter := { maximum := 5, window := 1 } }
    let s : Session ℚ := { start with replies := Page.two.map Page.reply }
    let run := (based.listRecords "Roster" none { maxRecords := some 2 }).run.run s
    Relation.ReflTransGen Session.Event start s ∧ run.2.outgoing ≠ s.outgoing ∧
      ∃ calls, run.2.outgoing = s.outgoing ++ calls ∧
        run.1 = .ok ((shownOf Page.two).take 2) ∧
        IsLeast {k | k = 2 ∨ (2 : Int) ≤ (shownOf (Page.two.take k)).length} calls.length := by
  intro _ start s run
  have reach : Relation.ReflTransGen Session.Event start s :=
    .single (.world 0 (Page.two.map Page.reply) [] "no network" start)
  have settled : (based.pagesOf "Roster" none { maxRecords := some 2 }).run.run s =
      (.ok ("appABCDEFGHIJKLMN/Roster", [("maxRecords", .int 2)]), s) := rfl
  have reached : run.2.outgoing ≠ s.outgoing := by
    have some : run.2.outgoing.isEmpty = false := by decide +kernel
    intro none
    rw [none] at some
    cases some
  have ran : (based.listRecords "Roster" none { maxRecords := some 2 }).run.run s =
      (run.1, run.2) := Prod.mk.eta.symm
  obtain ⟨calls, out, -, -, -, few⟩ := based.listRecords_pages rfl reach settled Page.listed_two
    (List.append_nil _).symm ran reached
  obtain ⟨given, least⟩ := few 2 rfl (by decide)
  exact ⟨reach, reached, calls, out, given, least⟩

end BaseGateway
