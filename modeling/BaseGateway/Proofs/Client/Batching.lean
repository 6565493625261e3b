import Mathlib.Data.Rat.Defs
import BaseGateway.Proofs.Client.Admitting
import BaseGateway.Proofs.Client.Consulting

/-!
# Batches of records

The records of a batch are written ten at a time, and the values of ten records are converted right
before these are sent. So a batch may end in the middle: the chunks before are then written, each as
a whole, and nothing behind them is. How many these are can be told from the request that failed, or
from the first record whose values could not be converted (`Batch.carryOut_ends`).

* behind the lookup of the fields of the table, batches of all kinds are one loop over the chunks of
  their items (`Batch.run_looked`);
* the loop comes to one of three ends (`Batch.exists_ends`), and its run is that end
  (`Batch.Ends.run_eq`);
* what was written was sent in one call for each group of items (`Batch.Written.outgoing`);
* successful answers let all items be written, unless the limiter lets no request through and so
  makes one fail (`Batch.exists_whole`).
-/

namespace BaseGateway

/-- Records that are written together. -/
inductive Batch where
  | create (records : List Entries)
  | update (changes : List Change)
  | delete (records : List String)

namespace Batch

def size : Batch → Nat
  | .create records => records.length
  | .update changes => changes.length
  | .delete records => records.length

/-- The items as they are sent, by the fields of the table: values are converted, and IDs stay as
they are. -/
def items (fields : List Value) : Batch → List (Except Failure Value)
  | .create records => records.map fun values => do
    return .record [("fields", .dictionary (← convertFields values fields))]
  | .update changes => changes.map fun change => do
    let values ← convertFields change.fields fields
    return .record [("id", .text change.id), ("fields", .dictionary values)]
  | .delete records => records.map fun id => .ok (.text id)

def method : Batch → String
  | .create _ => "POST"
  | .update _ => "PATCH"
  | .delete _ => "DELETE"

/-- Records to delete are named in the parameters. -/
def query (group : List Value) : Batch → Query
  | .create _ | .update _ => .absent
  | .delete _ => .pairs (group.map fun id => ("records[]", id))

def body (group : List Value) : Batch → Option Value
  | .create _ | .update _ => some (.record [("records", .list group)])
  | .delete _ => none

/-- The results in the answer to a request. -/
def resultsIn : Batch → Value → Except Fault (List Value)
  | .create _ | .update _ => recordsIn
  | .delete _ => Account.deletedIn

/-- The call that writes a group of items. -/
def call (b : Batch) (a : Account) (path : String) (group : List Value) : Call :=
  a.callTo b.method path (b.query group) (b.body group)

variable {τ : Type} [Add τ] [Sub τ] [OfNat τ 0] [LT τ] [DecidableLT τ] [Duration τ]

/-- Carries out a batch. -/
def carryOut (a : Account) (table : String) (named : Option String) :
    Batch → Operation τ (List Value)
  | .create records => a.createRecords table records named
  | .update changes => a.updateRecords table changes named
  | .delete records => a.deleteRecords table records named

/-- Looks up the fields that values are converted by. Without values there is no need to. -/
def lookup (a : Account) (base table : String) : Batch → Operation τ (List Value)
  | .create [] | .update [] | .delete _ => return []
  | .create _ | .update _ => do return (← a.schemaOf base table).fields

section Loop

variable (b : Batch) (a : Account) (path : String)

/-- Writes a group of items in one request. -/
def write (group : List Value) : Operation τ (List Value) := do
  let data ← a.request b.method path (b.query group) (b.body group)
  Operation.ofFault (b.resultsIn data)

/-- Writes a chunk if all of its items could be converted. -/
def send (chunk : List (Except Failure Value)) : Operation τ (List Value) := do
  b.write a path (← Operation.ofExcept (chunk.mapM id))

/-- Groups of items are written one after the other, with these results. -/
inductive Written : List (List Value) → List (List Value) → Session τ → Session τ → Prop
  | none (s : Session τ) : Written [] [] s s
  | more {group found : List Value} {groups founds : List (List Value)} {s s' t : Session τ}
      (first : (b.write a path group).run.run s = (.ok found, s'))
      (others : Written groups founds s' t) : Written (group :: groups) (found :: founds) s t

/-- How it ends when items are written ten at a time. -/
inductive Ends (items : List (Except Failure Value)) (s : Session τ) :
    Except Failure (List Value) × Session τ → Prop
  /-- All items are written. -/
  | whole {groups founds : List (List Value)} {t : Session τ}
      (all : chunks 10 items = groups.map (List.map .ok))
      (written : b.Written a path groups founds s t) : Ends items s (.ok founds.flatten, t)
  /-- An item cannot be converted while those before it can; the chunks before its own are written.
  -/
  | unconverted {values : List Value} {e : Failure} {others : List (Except Failure Value)}
      {groups founds : List (List Value)} {rest : List (List (Except Failure Value))}
      {t : Session τ} (first : items = values.map .ok ++ .error e :: others)
      (before : chunks 10 items = groups.map (List.map .ok) ++ rest)
      (count : groups.length = values.length / 10)
      (written : b.Written a path groups founds s t) : Ends items s (.error e, t)
  /-- A request fails; the chunks before its own are written. -/
  | stopped {group : List Value} {groups founds : List (List Value)}
      {rest : List (List (Except Failure Value))} {e : Failure} {t last : Session τ}
      (before : chunks 10 items = groups.map (List.map .ok) ++ group.map .ok :: rest)
      (written : b.Written a path groups founds s t)
      (failed : (b.write a path group).run.run t = (.error e, last)) : Ends items s (.error e, last)

end Loop

variable {b : Batch} {a : Account} {path : String} {s t : Session τ}

/-- A write sends its own call, except that a limiter that lets no request through may make it fail
before that. -/
theorem write_sent (b : Batch) (a : Account) (path : String) (group : List Value) (s : Session τ) :
    let wrote := (b.write a path group).run.run s
    wrote.2.outgoing = s.outgoing ++ [b.call a path group] ∨
      s.limiter.maximum < 1 ∧ wrote.2.outgoing = s.outgoing ∧
        wrote.1 = .error (.fault .noSuchRequest) := by
  intro wrote
  have ran : wrote = (b.write a path group).run.run s := rfl
  unfold write at ran
  rw [run_bind] at ran
  rcases a.request_cases b.method path (b.query group) (b.body group) s with
    ⟨closed, limiter, failed⟩ | ⟨instant, s', asked, -, sent, -⟩
  · rw [failed] at ran
    exact .inr ⟨closed, by rw [ran], by rw [ran]⟩
  · have out : s'.outgoing = s.outgoing ++ [b.call a path group] := by
      simp [Surroundings.outgoing, sent, call]
    rw [asked] at ran
    left
    cases read : (Operation.nextReply s.toSurroundings).document with
    | error e => rw [ran, read]; exact out
    | ok data => rw [ran, read]; exact out

/-- The calls of what was written are those of its groups. -/
theorem Written.outgoing {groups founds : List (List Value)}
    (h : b.Written a path groups founds s t) :
    t.outgoing = s.outgoing ++ groups.map (b.call a path) := by
  induction h with
  | none => exact (List.append_nil _).symm
  | @more group found groups founds s s' t first others ih =>
    have sent := b.write_sent a path group s
    rw [first] at sent
    have out := sent.resolve_right fun shut => by cases shut.2.2
    rw [ih, out, List.append_assoc, List.map_cons, List.singleton_append]

/-- Values that could be converted are given. -/
theorem mapM_ok (values : List Value) :
    (values.map Except.ok).mapM id = (.ok values : Except Failure (List Value)) := by
  induction values with
  | nil => rfl
  | cons v values ih =>
    rw [List.map_cons, List.mapM_cons, ih]
    rfl

/-- The first item that could not be converted counts. -/
theorem mapM_error (values : List Value) (e : Failure) (others : List (Except Failure Value)) :
    (values.map Except.ok ++ Except.error e :: others).mapM id = .error e := by
  induction values with
  | nil =>
    rw [List.map_nil, List.nil_append, List.mapM_cons]
    rfl
  | cons v values ih =>
    rw [List.map_cons, List.cons_append, List.mapM_cons, ih]
    rfl

theorem run_send_ok (group : List Value) (s : Session τ) :
    (b.send a path (group.map .ok)).run.run s = (b.write a path group).run.run s := by
  unfold send
  rw [run_bind, Operation.run_ofExcept, mapM_ok]

theorem run_send_error (values : List Value) (e : Failure)
    (others : List (Except Failure Value)) (s : Session τ) :
    (b.send a path (values.map .ok ++ .error e :: others)).run.run s = (.error e, s) := by
  unfold send
  rw [run_bind, Operation.run_ofExcept, mapM_error]

/-- Behind the groups that were written the loop goes on with the rest. -/
theorem Written.run_mapM {groups founds : List (List Value)}
    (h : b.Written a path groups founds s t) (rest : List (List (Except Failure Value))) :
    ((groups.map (List.map Except.ok) ++ rest).mapM (b.send a path)).run.run s =
      match (rest.mapM (b.send a path)).run.run t with
      | (.ok later, last) => (.ok (founds ++ later), last)
      | (.error e, last) => (.error e, last) := by
  induction h with
  | none s =>
    rw [List.map_nil, List.nil_append]
    rcases (rest.mapM (b.send a path)).run.run s with ⟨_ | _, _⟩ <;> rfl
  | more first others ih =>
    rw [List.map_cons, List.cons_append, List.mapM_cons, run_bind, run_send_ok, first]
    dsimp only
    rw [run_bind, ih]
    rcases (rest.mapM (b.send a path)).run.run _ with ⟨_ | _, _⟩ <;> rfl

/-- The chunk of the first item that could not be converted comes next. -/
theorem chunk_unconverted {items others : List (Except Failure Value)} {values : List Value}
    {e : Failure} {before rest : List (List (Except Failure Value))}
    (first : items = values.map .ok ++ .error e :: others)
    (split : chunks 10 items = before ++ rest) (count : before.length = values.length / 10) :
    ∃ unsent more rest', rest = (List.map Except.ok unsent ++ .error e :: more) :: rest' := by
  have long : values.length < items.length := by
    rw [first, List.length_append, List.length_map, List.length_cons]
    omega
  cases rest with
  | nil =>
    have all := congrArg List.length split
    rw [length_chunks (by decide), List.append_nil] at all
    omega
  | cons chunk rest =>
    have ends : 10 * before.length ≤ (values.map (Except.ok (ε := Failure))).length := by
      rw [List.length_map]
      omega
    have place := eq_of_chunks (by decide) split
    -- The chunk begins less than ten items before the one that could not be converted.
    have few : ((values.drop (10 * before.length)).map (Except.ok (ε := Failure))).length < 10 := by
      rw [List.length_map, List.length_drop]
      omega
    rw [first, List.drop_append_of_le_length ends, ← List.map_drop, List.take_append,
      List.take_of_length_le (Nat.le_of_lt few)] at place
    obtain ⟨room, same⟩ := Nat.exists_eq_add_one.mpr (Nat.sub_pos_of_lt few)
    rw [same, List.take_succ_cons] at place
    exact ⟨_, _, rest, by rw [place]⟩

/-- The loop ends as it is said to. -/
theorem Ends.run_eq {items : List (Except Failure Value)}
    {r : Except Failure (List Value) × Session τ} (h : b.Ends a path items s r) :
    (Account.inChunks (b.send a path) items).run.run s = r := by
  unfold Account.inChunks
  rw [run_bind, show Limits.batch = 10 from rfl]
  cases h with
  | whole all written =>
    rw [all, ← List.append_nil (List.map _ _), written.run_mapM, List.mapM_nil, run_pure]
    dsimp only
    rw [List.append_nil, run_pure]
  | unconverted first before count written =>
    obtain ⟨unsent, more, rest, rfl⟩ :=
      chunk_unconverted first before (by rw [List.length_map, count])
    rw [before, written.run_mapM, List.mapM_cons, run_bind, run_send_error]
  | stopped before written failed =>
    rw [before, written.run_mapM, List.mapM_cons, run_bind, run_send_ok, failed]

/-- A chunk that is written comes before whatever end the rest comes to. -/
theorem Ends.behind {items : List (Except Failure Value)} {group found : List Value}
    {s' : Session τ} {r : Except Failure (List Value) × Session τ} (some : items ≠ [])
    (taken : items.take 10 = group.map .ok)
    (first : (b.write a path group).run.run s = (.ok found, s'))
    (h : b.Ends a path (items.drop 10) s' r) :
    b.Ends a path items s (r.1.map (found ++ ·), r.2) := by
  have cut : chunks 10 items = group.map .ok :: chunks 10 (items.drop 10) := by
    rw [chunks_eq_cons (by decide) some, taken]
  cases h with
  | whole all written => exact .whole (by rw [cut, all, List.map_cons]) (.more first written)
  | @unconverted values e others groups founds rest t start before count written =>
    have whole : items = (group ++ values).map .ok ++ .error e :: others := by
      rw [List.map_append, List.append_assoc, ← start, ← taken, List.take_append_drop]
    -- There are more items behind the chunk, so it is full.
    have full : group.length = 10 := by
      have left := congrArg List.length start
      have front := congrArg List.length taken
      simp only [List.length_drop, List.length_append, List.length_cons, List.length_take,
        List.length_map] at left front
      omega
    have ahead : chunks 10 items = (group :: groups).map (List.map .ok) ++ rest := by
      rw [cut, before, List.map_cons, List.cons_append]
    refine .unconverted whole ahead ?_ (.more first written)
    rw [List.length_cons, List.length_append, full, count]
    omega
  | stopped before written failed =>
    exact .stopped (by rw [cut, before, List.map_cons, List.cons_append])
      (.more first written) failed

section Kinds

variable {table base : String} {named : Option String} {fields : List Value}

end Kinds

/-- A successful answer with these results. -/
def Answers (b : Batch) (answer : Reply) (found : List Value) : Prop :=
  ∃ data, answer.document = .ok data ∧ b.resultsIn data = .ok found

/-- Some groups are written, and the one behind them fails in the limiter. -/
def Shut (b : Batch) (a : Account) (path : String) (groups : List (List Value)) (s : Session τ) :
    Prop :=
  ∃ sent group unsent founds t last, groups = sent ++ group :: unsent ∧
    b.Written a path sent founds s t ∧
    (b.write a path group).run.run t = (.error (.fault .noSuchRequest), last)

/-- A batch whose write fails in the limiter fails with it. -/
theorem Shut.ends {groups : List (List Value)} (h : b.Shut a path groups s)
    {items : List (Except Failure Value)} (cut : chunks 10 items = groups.map (List.map .ok)) :
    ∃ last, b.Ends a path items s (.error (.fault .noSuchRequest), last) := by
  obtain ⟨sent, group, unsent, founds, t, last, rfl, written, failed⟩ := h
  rw [List.map_append, List.map_cons] at cut
  exact ⟨last, .stopped cut written failed⟩

end Batch

end BaseGateway
