import Mathlib.Order.Bounds.Defs
import Mathlib.Tactic.Ring
import BaseGateway.Proofs.Limiter

/-!
# A limiter against the whole history

A limiter forgets instants each time that it is asked. Beside it stands what it has to answer by the
instants of all requests so far: how many of them have not left the window, whether there is room
for one more, and the least wait after which there is. Requests may be noted without asking, so
there can be more of them in a window than the maximum, and several at one instant.

* what a limiter has forgotten has left the window and stays outside (`Recalls.later`);
* among instants in order, the one that the maximum counts back from the end is the last that has to
  leave the window (`isLeast_wait`);
* every answer is the one that the history gives, and what is kept behind it still stands for the
  history (`Recalls.answer`), so a whole run of calls is answered by the history
  (`Limiter.answers_fromHistory`).
-/

namespace BaseGateway

/-- What a limiter is asked or told. -/
inductive LimiterCall where
  | check
  | record
  | wait
  | status
  deriving DecidableEq, Repr

/-- What a limiter answers. -/
inductive LimiterAnswer (τ : Type) where
  | room (free : Bool)
  | noted
  | waiting (time : Except Fault τ)
  | shown (status : LimiterStatus τ)

namespace Limiter

variable {τ : Type} [Add τ] [Sub τ] [OfNat τ 0] [LT τ] [DecidableLT τ]

/-- The answer to a call at an instant, and the limiter behind it. -/
def answer (call : LimiterCall) (now : τ) (l : Limiter τ) : LimiterAnswer τ × Limiter τ :=
  match call with
  | .check => (.room (l.check now).1, (l.check now).2)
  | .record => (.noted, l.record now)
  | .wait => (.waiting (l.wait now).1, (l.wait now).2)
  | .status => (.shown (l.status now).1, (l.status now).2)

/-- The answers to calls, each at its instant. -/
def answers (l : Limiter τ) : List (τ × LimiterCall) → List (LimiterAnswer τ)
  | [] => []
  | (now, call) :: calls => (l.answer call now).1 :: (l.answer call now).2.answers calls

end Limiter

/-- How many instants come after another. -/
def countAfter (cut : ℚ) (instants : List ℚ) : Nat := instants.countP (cut < ·)

namespace LimiterCall

/-- The instants of all requests behind a call. -/
def extend (call : LimiterCall) (now : ℚ) (history : List ℚ) : List ℚ :=
  match call with
  | .record => history ++ [now]
  | _ => history

/-- Is this the answer to a call, going by the instants of all requests so far? -/
def Answered (maximum : Int) (window : ℚ) (history : List ℚ) (now : ℚ) :
    LimiterCall → LimiterAnswer ℚ → Prop
  | .check, .room free => free = true ↔ (countAfter (now - window) history : Int) < maximum
  | .record, .noted => True
  | .wait, .waiting (.ok time) =>
    IsLeast {d | 0 ≤ d ∧ (countAfter (now + d - window) history : Int) < maximum} time
  | .status, .shown told => told = ⟨countAfter (now - window) history, maximum, window⟩
  | _, _ => False

end LimiterCall

/-- Calls that are answered one by one by the instants of all requests before them. -/
inductive FromHistory (maximum : Int) (window : ℚ) :
    List ℚ → List (ℚ × LimiterCall) → List (LimiterAnswer ℚ) → Prop
  | done (history : List ℚ) : FromHistory maximum window history [] []
  | next {history : List ℚ} {now : ℚ} {call : LimiterCall} {answer : LimiterAnswer ℚ}
      {calls : List (ℚ × LimiterCall)} {answers : List (LimiterAnswer ℚ)}
      (first : call.Answered maximum window history now answer)
      (rest : FromHistory maximum window (call.extend now history) calls answers) :
      FromHistory maximum window history ((now, call) :: calls) (answer :: answers)

section Counting

variable {instants : List ℚ} (sorted : instants.Pairwise (· ≤ ·)) {i : Nat}
  (inside : i < instants.length)
include sorted

/-- What comes after an instant stands behind it. -/
theorem countAfter_lt : countAfter instants[i] instants < instants.length - i := by
  have none : (instants.take (i + 1)).countP (instants[i] < ·) = 0 := by
    rw [List.countP_eq_zero]
    intro t mem
    obtain ⟨j, bound, rfl⟩ := List.mem_take_iff_getElem.mp mem
    rw [decide_eq_true_eq, not_lt]
    rcases Nat.lt_or_ge j i with earlier | same
    · exact List.pairwise_iff_getElem.mp sorted j i _ _ earlier
    · simp [show j = i by omega]
  have few := List.countP_le_length (p := (instants[i] < ·)) (l := instants.drop (i + 1))
  have split : countAfter instants[i] instants =
      (instants.take (i + 1)).countP (instants[i] < ·) +
        (instants.drop (i + 1)).countP (instants[i] < ·) := by
    rw [← List.countP_append, List.take_append_drop, countAfter]
  rw [List.length_drop] at few
  omega

/-- An instant and all that stand behind it come after whatever it comes after. -/
theorem le_countAfter {cut : ℚ} (early : cut < instants[i]) :
    instants.length - i ≤ countAfter cut instants := by
  have all : (instants.drop i).countP (cut < ·) = (instants.drop i).length := by
    rw [List.countP_eq_length]
    intro t mem
    obtain ⟨j, bound, rfl⟩ := List.mem_drop_iff_getElem.mp mem
    rw [decide_eq_true_eq]
    rcases Nat.eq_zero_or_pos j with rfl | further
    · simpa using early
    · exact early.trans_le (List.pairwise_iff_getElem.mp sorted i (i + j) _ _ (by omega))
  have part := List.Sublist.countP_le (p := (cut < ·)) (List.drop_sublist i instants)
  rw [all, List.length_drop] at part
  exact part

end Counting

theorem countAfter_filter {cut cut' : ℚ} (later : cut ≤ cut') (instants : List ℚ) :
    countAfter cut' (instants.filter (cut < ·)) = countAfter cut' instants := by
  unfold countAfter
  rw [List.countP_filter]
  refine List.countP_congr fun t _ => ?_
  simp only [Bool.and_eq_true, decide_eq_true_eq, and_iff_left_iff_imp]
  exact fun after => later.trans_lt after

/-- There is no room before the instant that the maximum counts back has left the window, and there
is once it has. -/
theorem isLeast_wait {maximum : Int} {window now : ℚ} {recent history : List ℚ} {i : Nat}
    (sorted : recent.Pairwise (· ≤ ·)) (late : ∀ t ∈ recent, now - window < t)
    (same : ∀ cut, now - window ≤ cut → countAfter cut recent = countAfter cut history)
    (roomy : 1 ≤ maximum) (inside : i < recent.length) (full : i + maximum.toNat = recent.length) :
    IsLeast {d | 0 ≤ d ∧ (countAfter (now + d - window) history : Int) < maximum}
      (recent[i] + window - now) := by
  have within := late recent[i] (List.getElem_mem inside)
  constructor
  · refine ⟨by linarith, ?_⟩
    have few := countAfter_lt sorted inside
    rw [show now + (recent[i] + window - now) - window = recent[i] by ring, ← same _ within.le]
    omega
  · rintro d ⟨forward, room⟩
    by_contra short
    have early : now + d - window < recent[i] := by linarith [not_le.mp short]
    have many := le_countAfter sorted inside early
    rw [same _ (by linarith)] at many
    omega

/-- A limiter that stands for the history of all requests: the instants that it has forgotten will
not be in the window again. -/
structure Recalls (maximum : Int) (window now : ℚ) (history : List ℚ) (l : Limiter ℚ) : Prop where
  sameMaximum : l.maximum = maximum
  sameWindow : l.window = window
  sorted : history.Pairwise (· ≤ ·)
  past : ∀ t ∈ history, t ≤ now
  kept : ∀ cut, now - window ≤ cut → l.times.filter (cut < ·) = history.filter (cut < ·)

namespace Recalls

variable {maximum : Int} {window now : ℚ} {history : List ℚ} {l : Limiter ℚ}

theorem later {now' : ℚ} (h : Recalls maximum window now history l) (passed : now ≤ now') :
    Recalls maximum window now' history l where
  sameMaximum := h.sameMaximum
  sameWindow := h.sameWindow
  sorted := h.sorted
  past := fun t mem => (h.past t mem).trans passed
  kept := fun cut left => h.kept cut (by linarith)

theorem prune_times (h : Recalls maximum window now history l) :
    (l.prune now).times = history.filter (now - window < ·) := by
  rw [← h.kept _ le_rfl, ← h.sameWindow]
  rfl

theorem length_prune (h : Recalls maximum window now history l) :
    (l.prune now).times.length = countAfter (now - window) history := by
  rw [h.prune_times, countAfter, List.countP_eq_length_filter]

/-- Forgetting what has left the window loses nothing. -/
theorem prune (h : Recalls maximum window now history l) :
    Recalls maximum window now history (l.prune now) where
  sameMaximum := h.sameMaximum
  sameWindow := h.sameWindow
  sorted := h.sorted
  past := h.past
  kept := fun cut left => by
    rw [h.prune_times, List.filter_filter]
    refine List.filter_congr fun t _ => ?_
    simp only [Bool.and_eq_left_iff_imp, decide_eq_true_eq]
    exact fun after => left.trans_lt after

theorem record (h : Recalls maximum window now history l) :
    Recalls maximum window now (history ++ [now]) (l.record now) where
  sameMaximum := h.sameMaximum
  sameWindow := h.sameWindow
  sorted := by
    rw [List.pairwise_append]
    refine ⟨h.sorted, List.pairwise_singleton _ _, fun t mem t' last => ?_⟩
    rw [List.mem_singleton.mp last]
    exact h.past t mem
  past := fun t mem => by
    rcases List.mem_append.mp mem with earlier | last
    · exact h.past t earlier
    · exact (List.mem_singleton.mp last).le
  kept := fun cut left => by
    rw [Limiter.record, List.filter_append, List.filter_append, h.kept cut left]

theorem hasRoom_iff (h : Recalls maximum window now history l) :
    (l.prune now).hasRoom = true ↔ (countAfter (now - window) history : Int) < maximum := by
  rw [Limiter.hasRoom_iff, h.length_prune, h.prune.sameMaximum]

/-- The wait is the least one behind which there is room, and there is always one. -/
theorem wait (h : Recalls maximum window now history l) (roomy : 1 ≤ maximum) :
    LimiterCall.Answered maximum window history now .wait (.waiting (l.wait now).1) := by
  unfold Limiter.wait
  dsimp only
  split
  · next room =>
    refine ⟨⟨le_rfl, ?_⟩, fun d least => least.1⟩
    rw [add_zero]
    exact h.hasRoom_iff.mp room
  · next full =>
    rw [h.hasRoom_iff] at full
    have count := h.length_prune
    have index : (l.prune now).waitIndex = (l.prune now).times.length - maximum.toNat := by
      unfold Limiter.waitIndex
      rw [h.prune.sameMaximum, if_pos (by omega)]
    have inside : (l.prune now).waitIndex < (l.prune now).times.length := by omega
    have late : ∀ t ∈ (l.prune now).times, now - window < t := by
      simp [h.prune_times]
    have same : ∀ cut, now - window ≤ cut →
        countAfter cut (l.prune now).times = countAfter cut history := by
      intro cut left
      rw [h.prune_times, countAfter_filter left]
    have least := isLeast_wait (h.prune_times ▸ h.sorted.filter _) late same roomy inside (by omega)
    have time : Limiter.untilInstant now
        ((l.prune now).times[(l.prune now).waitIndex] + (l.prune now).window) =
          (l.prune now).times[(l.prune now).waitIndex] + window - now := by
      unfold Limiter.untilInstant
      rw [h.prune.sameWindow]
      split
      · rfl
      · linarith [least.1.1]
    rw [List.getElem?_eq_getElem inside]
    dsimp only
    rw [time]
    exact least

/-- One call is answered by the history, and the limiter stands for the history behind it. -/
theorem answer (h : Recalls maximum window now history l) (roomy : 1 ≤ maximum)
    (call : LimiterCall) :
    call.Answered maximum window history now (l.answer call now).1 ∧
      Recalls maximum window now (call.extend now history) (l.answer call now).2 := by
  cases call with
  | check => exact ⟨h.hasRoom_iff, h.prune⟩
  | record => exact ⟨trivial, h.record⟩
  | wait =>
    have behind : (l.wait now).2 = l.prune now := by
      unfold Limiter.wait
      dsimp only
      split
      · rfl
      · split <;> rfl
    refine ⟨h.wait roomy, ?_⟩
    change Recalls maximum window now history (l.wait now).2
    rw [behind]
    exact h.prune
  | status =>
    refine ⟨?_, h.prune⟩
    change LimiterStatus.mk _ _ _ = _
    rw [h.length_prune, h.prune.sameMaximum, h.prune.sameWindow]

theorem answers (h : Recalls maximum window now history l) (roomy : 1 ≤ maximum)
    {calls : List (ℚ × LimiterCall)} (ordered : calls.Pairwise fun a b => a.1 ≤ b.1)
    (ahead : ∀ c ∈ calls, now ≤ c.1) :
    FromHistory maximum window history calls (l.answers calls) := by
  induction calls generalizing now history l with
  | nil => exact .done history
  | cons c calls ih =>
    obtain ⟨time, call⟩ := c
    obtain ⟨first, rest⟩ := List.pairwise_cons.mp ordered
    obtain ⟨answered, behind⟩ := (h.later (ahead _ List.mem_cons_self)).answer roomy call
    exact .next answered (ih behind rest first)

end Recalls

/-- Whatever a new limiter is asked or told, each at an instant that is not before the last, it
answers as the instants of all requests so far do. -/
theorem Limiter.answers_fromHistory {maximum : Int} (roomy : 1 ≤ maximum) (window : ℚ)
    {calls : List (ℚ × LimiterCall)} (ordered : calls.Pairwise fun a b => a.1 ≤ b.1) :
    FromHistory maximum window [] calls (Limiter.answers ⟨maximum, window, []⟩ calls) := by
  cases calls with
  | nil => exact .done []
  | cons c calls =>
    have fresh : Recalls maximum window c.1 [] ⟨maximum, window, []⟩ :=
      ⟨rfl, rfl, .nil, List.forall_mem_nil _, fun _ _ => rfl⟩
    refine fresh.answers roomy ordered (List.forall_mem_cons.mpr ⟨le_rfl, ?_⟩)
    exact (List.pairwise_cons.mp ordered).1

/-- Two in a second, and three are noted in half a second: the first two have to leave the window
before there is room. -/
theorem Limiter.answers_fromHistory_crowded :
    FromHistory 2 1 []
      [(0, .record), (0, .record), (1 / 2, .record), (1 / 2, .wait), (1, .check), (1, .status)]
      [.noted, .noted, .noted, .waiting (.ok (1 / 2)), .room true, .shown ⟨1, 2, 1⟩] := by
  have ordered : List.Pairwise (fun a b : ℚ × LimiterCall => a.1 ≤ b.1)
      [(0, .record), (0, .record), (1 / 2, .record), (1 / 2, .wait), (1, .check),
        (1, .status)] := by
    norm_num
  have run := @Limiter.answers_fromHistory 2 (by decide) 1 _ ordered
  norm_num [Limiter.answers, Limiter.answer, Limiter.record, Limiter.wait, Limiter.check,
    Limiter.status, Limiter.prune, Limiter.hasRoom, Limiter.waitIndex, Limiter.untilInstant,
    show (3 - Int.toNat 2) = 1 from rfl] at run
  exact run

end BaseGateway
