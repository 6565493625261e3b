import Mathlib.Data.List.Forall2
import BaseGateway.Proofs.Json.Writing

/-!
# What the audit trail keeps

Calls are noted one after the other. Whatever they were, the trail keeps exactly the entries of the
last of them, as many as its maximum says and in their order, and its summary counts these and no
others (`AuditLog.logCalls_keeps`). A maximum of nought is none: such a trail forgets nothing
(`AuditLog.logCalls_unbounded`).

* one more entry leaves the last ones up to the maximum (`trim_recent`), and so does a run of calls
  (`logCalls_recent`);
* the summary of entries is told by the calls that left them (`summarises`).
-/

namespace BaseGateway

/-- A call that is to be noted. -/
structure AuditCall where
  tool : String
  arguments : Value
  success : Bool
  errorCode : Option String := none
  durationMs : Option Number := none

namespace AuditCall

/-- A call without arguments, for concrete runs. -/
def bare (tool : String) (success : Bool) : AuditCall :=
  { tool, arguments := .dictionary [], success }

/-- The entry of a call, which has the first characters of the hash of its arguments. -/
def Leaves (call : AuditCall) (entry : AuditEntry) : Prop :=
  ∃ hash, argumentsHash call.arguments = .ok hash ∧
    entry = ⟨call.tool, String.ofList (hash.toList.take 16), call.success, call.errorCode,
      call.durationMs⟩

/-- What is to be said of calls in sum: how many there were and how they ended, and each tool once,
in order. -/
inductive Summarised : List AuditCall → Value → Prop
  | nothing : Summarised [] (.record [("total_calls", .int 0)])
  | counted {calls : List AuditCall} {successful failed : Nat} {tools : List String}
      (some : calls ≠ []) (good : successful = calls.countP AuditCall.success)
      (bad : failed = calls.countP (!·.success)) (all : successful + failed = calls.length)
      (ascending : tools.Pairwise (· < ·))
      (called : ∀ tool, tool ∈ tools ↔ ∃ call ∈ calls, call.tool = tool) :
      Summarised calls (.record [("total_calls", .int calls.length), ("successful", .int successful),
        ("failed", .int failed), ("tools_called", .ofTexts tools)])

end AuditCall

namespace AuditLog

/-- The last ones up to a maximum, or all of them with a maximum of nought. -/
def recent {α : Type} (maximum : Nat) (all : List α) : List α :=
  if maximum = 0 then all else all.drop (all.length - maximum)

/-- Notes calls one after the other. -/
def logCalls (log : AuditLog) (calls : List AuditCall) : Except Fault AuditLog :=
  calls.foldlM (fun log call =>
    log.logCall call.tool call.arguments call.success call.errorCode call.durationMs) log

theorem trim_eq_recent (maximum : Nat) (entries : List AuditEntry) :
    trim maximum entries = recent maximum entries := by
  unfold trim recent
  rcases Nat.eq_zero_or_pos maximum with rfl | positive
  · simp
  · rw [if_neg (Nat.ne_of_gt positive)]
    split
    · rw [if_pos (by omega), Int.toNat_natCast]
    · rw [Nat.sub_eq_zero_of_le (by omega), List.drop_zero]

/-- Of the last ones and one more, the last ones are the last of all. -/
theorem trim_recent (maximum : Nat) (before : List AuditEntry) (entry : AuditEntry) :
    trim maximum (recent maximum before ++ [entry]) = recent maximum (before ++ [entry]) := by
  rw [trim_eq_recent]
  unfold recent
  split
  · rfl
  · have kept : before.drop (before.length - maximum) ++ [entry] =
        (before ++ [entry]).drop (before.length - maximum) :=
      (List.drop_append_of_le_length (Nat.sub_le _ _)).symm
    rw [kept, List.drop_drop, List.length_drop, List.length_append, List.length_singleton]
    congr 1
    omega

/-- Calls whose arguments can be hashed leave an entry each, and of these the last ones are kept. -/
theorem logCalls_recent {maximum : Nat} {calls : List AuditCall} {entries : List AuditEntry}
    (told : List.Forall₂ AuditCall.Leaves calls entries) (before : List AuditEntry) :
    logCalls ⟨maximum, recent maximum before⟩ calls =
      .ok ⟨maximum, recent maximum (before ++ entries)⟩ := by
  induction told generalizing before with
  | nil =>
    rw [List.append_nil]
    rfl
  | @cons call entry calls entries leaves told ih =>
    obtain ⟨hash, hashed, rfl⟩ := leaves
    have noted : logCall ⟨maximum, recent maximum before⟩ call.tool call.arguments call.success
        call.errorCode call.durationMs = .ok ⟨maximum, recent maximum (before ++
          [⟨call.tool, String.ofList (hash.toList.take 16), call.success, call.errorCode,
            call.durationMs⟩])⟩ := by
      rw [← trim_recent]
      unfold logCall
      rw [hashed]
      rfl
    rw [List.append_cons, ← ih]
    unfold logCalls
    rw [List.foldlM_cons, noted]
    rfl

theorem exists_leaves {calls : List AuditCall}
    (serialisable : ∀ call ∈ calls, ∃ hash, argumentsHash call.arguments = .ok hash) :
    ∃ entries, List.Forall₂ AuditCall.Leaves calls entries := by
  induction calls with
  | nil => exact ⟨[], .nil⟩
  | cons call rest ih =>
    obtain ⟨⟨hash, hashed⟩, others⟩ := List.forall_mem_cons.mp serialisable
    obtain ⟨entries, told⟩ := ih others
    exact ⟨_ :: entries, .cons ⟨hash, hashed, rfl⟩ told⟩

section

variable {calls : List AuditCall} {entries : List AuditEntry}
  (told : List.Forall₂ AuditCall.Leaves calls entries)
include told

theorem forall₂_recent (maximum : Nat) :
    List.Forall₂ AuditCall.Leaves (recent maximum calls) (recent maximum entries) := by
  unfold recent
  rw [told.length_eq]
  split
  · exact told
  · exact List.forall₂_drop _ told

/-- What can be read off calls by their tools and how they ended is read off their entries. -/
theorem map_entries : entries.map (fun entry => (entry.tool, entry.success)) =
    calls.map fun call => (call.tool, call.success) := by
  induction told with
  | nil => rfl
  | cons leaves _ ih =>
    obtain ⟨hash, _, rfl⟩ := leaves
    rw [List.map_cons, List.map_cons, ih]

end

/-- Names in order, each of them once. -/
theorem eraseDups_ascending {names : List String} (sorted : names.Pairwise (· ≤ ·)) :
    names.eraseDups.Pairwise (· < ·) := by
  match names with
  | [] => exact .nil
  | name :: rest =>
    obtain ⟨first, others⟩ := List.pairwise_cons.mp sorted
    rw [List.eraseDups_cons]
    refine List.pairwise_cons.mpr ⟨fun other mem => ?_, eraseDups_ascending (others.filter _)⟩
    obtain ⟨inside, differ⟩ := List.mem_filter.mp (List.mem_eraseDups.mp mem)
    exact Std.lt_of_le_of_ne (first other inside) (Ne.symm (by simpa using differ))
termination_by names.length
decreasing_by
  exact Nat.lt_succ_of_le (List.length_filter_le _ rest)

theorem toolNames_ascending (log : AuditLog) : log.toolNames.Pairwise (· < ·) := by
  have order (a b : String) : (!decide (b < a)) = true ↔ a ≤ b := by
    rw [Bool.not_eq_true', decide_eq_false_iff_not, String.not_lt]
  have sorted := @List.pairwise_mergeSort String (fun a b => !decide (b < a))
    (by simpa only [order] using fun a b c => String.le_trans)
    (by simpa only [Bool.or_eq_true, order] using String.le_total)
    (log.entries.map AuditEntry.tool)
  exact eraseDups_ascending (sorted.imp fun {a b} le => (order a b).mp le)

/-- The summary of entries is the one of the calls that left them. -/
theorem summarises {log : AuditLog} {calls : List AuditCall}
    (told : List.Forall₂ AuditCall.Leaves calls log.entries) :
    AuditCall.Summarised calls log.summary := by
  have read := map_entries told
  have counted (p : Bool → Bool) : log.entries.countP (fun entry => p entry.success) =
      calls.countP fun call => p call.success := by
    simpa [List.countP_map, Function.comp_def] using congrArg (List.countP (p ·.2)) read
  have tools : log.entries.map AuditEntry.tool = calls.map AuditCall.tool := by
    simpa [Function.comp_def] using congrArg (List.map Prod.fst) read
  have called : ∀ tool, tool ∈ log.toolNames ↔ ∃ call ∈ calls, call.tool = tool := by
    intro tool
    rw [toolNames, List.mem_eraseDups, List.mem_mergeSort, tools, List.mem_map]
  unfold summary
  by_cases none : calls = []
  · subst none
    rw [List.forall₂_nil_left_iff.mp told]
    exact .nothing
  · have some : log.entries.isEmpty = false := by
      rw [List.isEmpty_eq_false_iff, ← List.length_pos_iff, ← told.length_eq]
      exact List.length_pos_iff.mpr none
    have all : calls.countP (·.success) + calls.countP (!·.success) = calls.length := by
      rw [List.length_eq_countP_add_countP AuditCall.success]
      simp
    rw [some, if_neg Bool.false_ne_true, ← told.length_eq]
    have good := counted id
    have bad := counted (!·)
    dsimp only [id] at good bad
    rw [good, bad]
    exact .counted none rfl rfl all log.toolNames_ascending called

/-- A new trail to which calls are noted keeps the entries of the last ones up to its maximum, in
their order, or of all of them with a maximum of nought, and sums up these calls. -/
theorem logCalls_keeps {maximum : Nat} {calls : List AuditCall}
    (serialisable : ∀ call ∈ calls, ∃ hash, argumentsHash call.arguments = .ok hash) :
    ∃ log, ({ maximum } : AuditLog).logCalls calls = .ok log ∧
      List.Forall₂ AuditCall.Leaves (recent maximum calls) log.entries ∧
      AuditCall.Summarised (recent maximum calls) log.summary := by
  obtain ⟨entries, told⟩ := exists_leaves serialisable
  have none : recent maximum ([] : List AuditEntry) = [] := by simp [recent]
  have noted := @logCalls_recent maximum _ _ told []
  rw [none, List.nil_append] at noted
  have kept := forall₂_recent told maximum
  exact ⟨_, noted, kept, summarises kept⟩

theorem hashed_bare {calls : List AuditCall}
    (bare : ∀ call ∈ calls, call.arguments = .dictionary []) :
    ∀ call ∈ calls, ∃ hash, argumentsHash call.arguments = .ok hash := by
  intro call mem
  rw [bare call mem]
  exact @argumentsHash_ok (.dictionary []) trivial

/-- Of four calls a trail with room for two keeps the last two, one of which failed. -/
theorem logCalls_keeps_two :
    ∃ log, ({ maximum := 2 } : AuditLog).logCalls
        [.bare "a" true, .bare "b" true, .bare "d" false, .bare "c" true] = .ok log ∧
      List.Forall₂ AuditCall.Leaves [.bare "d" false, .bare "c" true] log.entries ∧
      AuditCall.Summarised [.bare "d" false, .bare "c" true] log.summary :=
  @logCalls_keeps 2 [.bare "a" true, .bare "b" true, .bare "d" false, .bare "c" true]
    (hashed_bare (by simp [AuditCall.bare]))

/-- A trail with room for none keeps the entry of a call. -/
theorem logCalls_unbounded :
    ∃ log, ({ maximum := 0 } : AuditLog).logCalls [.bare "a" true] = .ok log ∧
      log.entries.length = 1 ∧ ¬log.entries.length = min 1 0 := by
  obtain ⟨entries, told⟩ := @exists_leaves [.bare "a" true]
    (hashed_bare (by simp [AuditCall.bare]))
  have one : entries.length = 1 := told.length_eq.symm
  have noted := @logCalls_recent 0 _ _ told []
  refine ⟨_, noted, ?_⟩
  simp [recent, one]

end AuditLog

end BaseGateway
