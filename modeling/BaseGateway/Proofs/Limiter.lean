import Mathlib.Algebra.Order.Field.Rat
import Mathlib.Tactic.Linarith
import BaseGateway.Limiter

/-!
# The spacing of requests

A limiter is asked how long to wait and is told the instant of the request that follows. Here the
instants are rational numbers, and those of all requests so far are at hand.

* a limiter keeps those that have not left the window, whatever it was asked before
  (`Paced.prune`);
* a request that waits as long as it is told leaves a full window between itself and the one that
  the maximum counts back (`Paced.wait`);
* instants that are spaced so have no more than the maximum of them in any window of that length
  (`Spaced.count_le`).
-/

namespace BaseGateway

/-- Between an instant and the one that is `m` places on there is a full window. -/
def Spaced (m : Nat) (window : ℚ) (instants : List ℚ) : Prop :=
  ∀ (i : Nat) (t t' : ℚ), instants[i]? = some t → instants[i + m]? = some t' → window ≤ t' - t

/-- The instants in the window of a length that starts at one of them, its end left out. -/
def inWindow (start window : ℚ) (instants : List ℚ) : List ℚ :=
  instants.filter fun t => start ≤ t ∧ t < start + window

namespace Spaced

variable {m : Nat} {window : ℚ} {instants : List ℚ}

theorem nil : Spaced m window [] := by
  intro i t t' first
  simp at first

theorem tail {t : ℚ} (h : Spaced m window (t :: instants)) : Spaced m window instants := by
  intro i a b first second
  refine h (i + 1) a b (by simpa using first) ?_
  rw [Nat.add_right_comm, List.getElem?_cons_succ]
  exact second

/-- One more instant stays spaced where it is a full window behind the one that it has to be. -/
theorem append {t : ℚ} (h : Spaced m window instants) (positive : 0 < m)
    (last : ∀ (i : Nat) (a : ℚ), i + m = instants.length → instants[i]? = some a → window ≤ t - a) :
    Spaced m window (instants ++ [t]) := by
  intro i a b first second
  rcases Nat.lt_trichotomy (i + m) instants.length with before | here | beyond
  · rw [List.getElem?_append_left before] at second
    rw [List.getElem?_append_left (by omega)] at first
    exact h i a b first second
  · rw [List.getElem?_append_left (by omega)] at first
    rw [here, List.getElem?_concat_length, Option.some.injEq] at second
    rw [← second]
    exact last i a here first
  · rw [List.getElem?_eq_none (by simp; omega)] at second
    cases second

/-- No window holds more than `m` spaced instants. -/
theorem count_le (h : Spaced m window instants) (sorted : instants.Pairwise (· ≤ ·))
    (positive : 0 < m) (start : ℚ) : (inWindow start window instants).length ≤ m := by
  unfold inWindow
  induction instants with
  | nil => simp
  | cons t rest ih =>
    obtain ⟨later, sortedRest⟩ := List.pairwise_cons.mp sorted
    by_cases within : start ≤ t ∧ t < start + window
    · -- Whatever is `m` places or more behind the first instant in the window has left it.
      have left : ((t :: rest).drop m).filter (fun t => start ≤ t ∧ t < start + window) = [] := by
        rw [List.filter_eq_nil_iff]
        intro b mem
        rw [decide_eq_true_eq]
        rintro ⟨_, before⟩
        obtain ⟨j, place⟩ := List.mem_iff_getElem?.mp mem
        rw [List.getElem?_drop] at place
        obtain ⟨a, first⟩ : ∃ a, (t :: rest)[j]? = some a := by
          obtain ⟨bound, _⟩ := List.getElem?_eq_some_iff.mp place
          exact ⟨_, List.getElem?_eq_getElem (by omega)⟩
        have after : t ≤ a := by
          cases j with
          | zero => exact le_of_eq (by simpa using first)
          | succ j => exact later a (List.mem_of_getElem? (by simpa using first))
        have gap := h j a b first (by rwa [Nat.add_comm])
        linarith [within.1]
      rw [← List.take_append_drop m (t :: rest), List.filter_append, left, List.append_nil]
      exact (List.length_filter_le _ _).trans (List.length_take_le _ _)
    · rw [List.filter_cons_of_neg (by simpa using within)]
      exact ih h.tail sortedRest

end Spaced

/-- In instants in order, those behind a cut come last. -/
theorem exists_before_cut (cut : ℚ) {instants : List ℚ} (sorted : instants.Pairwise (· ≤ ·)) :
    ∃ before, instants = before ++ instants.filter (cut < ·) ∧ ∀ t ∈ before, t ≤ cut := by
  induction instants with
  | nil => exact ⟨[], rfl, by simp⟩
  | cons t rest ih =>
    obtain ⟨later, sortedRest⟩ := List.pairwise_cons.mp sorted
    by_cases behind : cut < t
    · refine ⟨[], ?_, by simp⟩
      rw [List.nil_append, eq_comm, List.filter_eq_self]
      intro a mem
      rw [decide_eq_true_eq]
      rcases List.mem_cons.mp mem with rfl | mem
      · exact behind
      · exact lt_of_lt_of_le behind (later a mem)
    · obtain ⟨before, split, left⟩ := ih sortedRest
      refine ⟨t :: before, ?_, ?_⟩
      · rw [List.filter_cons_of_neg (by simpa using behind), List.cons_append, ← split]
      · exact List.forall_mem_cons.mpr ⟨not_lt.mp behind, left⟩

namespace Limiter

theorem untilInstant_nonneg (now t : ℚ) : 0 ≤ untilInstant now t := by
  unfold untilInstant
  split <;> linarith

theorem le_add_untilInstant (now t : ℚ) : t ≤ now + untilInstant now t := by
  unfold untilInstant
  split <;> linarith

theorem hasRoom_iff (l : Limiter ℚ) : l.hasRoom = true ↔ (l.times.length : Int) < l.maximum := by
  unfold hasRoom
  rw [decide_eq_true_eq]

end Limiter

/-- What holds of a limiter and the instants of all requests so far. -/
structure Paced (now : ℚ) (instants : List ℚ) (l : Limiter ℚ) : Prop where
  roomy : 1 ≤ l.maximum
  lasting : 0 < l.window
  sorted : instants.Pairwise (· ≤ ·)
  past : ∀ t ∈ instants, t ≤ now
  /-- The instants that are kept are those behind a cut that has left the window. -/
  kept : ∃ cut ≤ now - l.window, l.times = instants.filter (cut < ·)
  spaced : Spaced l.maximum.toNat l.window instants

namespace Paced

variable {now : ℚ} {instants : List ℚ} {l : Limiter ℚ}

theorem later {now' : ℚ} (h : Paced now instants l) (passed : now ≤ now') :
    Paced now' instants l := by
  obtain ⟨cut, left, times⟩ := h.kept
  exact ⟨h.roomy, h.lasting, h.sorted, fun t mem => (h.past t mem).trans passed,
    ⟨cut, by linarith, times⟩, h.spaced⟩

/-- Forgetting leaves exactly the instants in the window. -/
theorem prune_times (h : Paced now instants l) :
    (l.prune now).times = instants.filter (now - l.window < ·) := by
  obtain ⟨cut, left, times⟩ := h.kept
  unfold Limiter.prune
  dsimp only
  rw [times, List.filter_filter]
  refine List.filter_congr fun t _ => ?_
  rw [Bool.and_eq_left_iff_imp, decide_eq_true_eq, decide_eq_true_eq]
  exact fun behind => lt_of_le_of_lt left behind

theorem prune (h : Paced now instants l) : Paced now instants (l.prune now) :=
  ⟨h.roomy, h.lasting, h.sorted, h.past, ⟨now - l.window, le_refl _, h.prune_times⟩, h.spaced⟩

/-- A request at an instant that is spaced from those before it. -/
theorem record {t : ℚ} (h : Paced now instants l) (passed : now ≤ t)
    (last : ∀ (i : Nat) (a : ℚ), i + l.maximum.toNat = instants.length →
      instants[i]? = some a → l.window ≤ t - a) :
    Paced t (instants ++ [t]) (l.record t) := by
  obtain ⟨cut, left, times⟩ := (h.later passed).kept
  have positive : 0 < l.maximum.toNat := by
    have roomy := h.roomy
    omega
  refine ⟨h.roomy, h.lasting, ?_, ?_, ⟨cut, left, ?_⟩, h.spaced.append positive last⟩
  · rw [List.pairwise_append]
    refine ⟨h.sorted, List.pairwise_singleton _ _, fun a mem b last => ?_⟩
    rw [List.mem_singleton.mp last]
    exact (h.past a mem).trans passed
  · intro a mem
    rcases List.mem_append.mp mem with mem | mem
    · exact (h.past a mem).trans passed
    · exact le_of_eq (List.mem_singleton.mp mem)
  · have behind : cut < t := by linarith [h.lasting]
    rw [Limiter.record, times, List.filter_append,
      List.filter_cons_of_pos (by simpa using behind), List.filter_nil]

/-- Waiting as long as the limiter says is enough, and it always says how long. -/
theorem wait (h : Paced now instants l) :
    ∃ w, 0 ≤ w ∧ l.wait now = (.ok w, l.prune now) ∧
      Paced (now + w) (instants ++ [now + w]) ((l.prune now).record (now + w)) := by
  have times := h.prune_times
  obtain ⟨before, split, left⟩ := exists_before_cut (now - l.window) h.sorted
  rw [← times] at split
  have count : instants.length = before.length + (l.prune now).times.length := by
    rw [split, List.length_append]
  have roomy := h.roomy
  have maximum : (l.prune now).maximum = l.maximum := rfl
  have window : (l.prune now).window = l.window := rfl
  by_cases room : (l.prune now).hasRoom = true
  · refine ⟨0, le_refl 0, by simp [Limiter.wait, room], h.prune.record (by simp) ?_⟩
    intro i a place here
    have few := (Limiter.hasRoom_iff _).mp room
    -- With room left, the instant to be spaced from has left the window.
    have early : i < before.length := by omega
    rw [split, List.getElem?_append_left early] at here
    have gone := left a (List.mem_of_getElem? here)
    linarith
  · have full : ¬((l.prune now).times.length : Int) < (l.prune now).maximum :=
      fun few => room ((Limiter.hasRoom_iff _).mpr few)
    have index : (l.prune now).waitIndex = (l.prune now).times.length - l.maximum.toNat := by
      unfold Limiter.waitIndex
      rw [if_pos (by omega), maximum]
    obtain ⟨oldest, found⟩ : ∃ oldest, (l.prune now).times[(l.prune now).waitIndex]? =
        some oldest := ⟨_, List.getElem?_eq_getElem (by omega)⟩
    have nonneg := Limiter.untilInstant_nonneg now (oldest + l.window)
    have enough := Limiter.le_add_untilInstant now (oldest + l.window)
    refine ⟨Limiter.untilInstant now (oldest + l.window), nonneg, ?_,
      h.prune.record (by linarith) ?_⟩
    · simp [Limiter.wait, room, found, window]
    · intro i a place here
      -- The instant to be spaced from is the one that the limiter waited for.
      have same : a = oldest := by
        rw [split, List.getElem?_append_right (by omega),
          show i - before.length = (l.prune now).waitIndex by omega, found] at here
        exact (Option.some.inj here).symm
      rw [same]
      linarith

end Paced

end BaseGateway
