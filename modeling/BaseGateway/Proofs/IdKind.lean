import Mathlib.Data.List.Basic
import BaseGateway.Text.Character
import BaseGateway.Text.WordChar

/-!
# IDs in a text

An ID is a word of three letters and 14 letters or digits behind it. The kinds of IDs differ in
their word, and in which forms of letters and digits count. A character that is no form of a letter
or digit stops an ID, so what stands before it and what stands behind it can be looked at apart
(`IdKind.IsPlain.shows_append_stop`).
-/

namespace BaseGateway

namespace Text

/-- The sign for kelvins, which counts as a form of the letter `k`. -/
def kelvin : Char := '\u212A'

theorem toNat_lt_of_isAlphanum {c : Char} (h : c.isAlphanum = true) : c.toNat < 128 := by
  have shape : c.isAlphanum = (decide (c.val ≥ 65 ∧ c.val ≤ 90) ||
      decide (c.val ≥ 97) && decide (c.val ≤ 122) ||
      decide (c.val ≥ 48) && decide (c.val ≤ 57)) := rfl
  simp only [shape, Bool.or_eq_true, Bool.and_eq_true, decide_eq_true_eq, ge_iff_le,
    UInt32.le_iff_toNat_le, UInt32.reduceToNat] at h
  change c.val.toNat < 128
  omega

/-- What holds of letters and digits can be told by going through the ASCII characters. -/
theorem forall_isAlphanum {p : Char → Prop}
    (all : ∀ n : Fin 128, (Char.ofNat n).isAlphanum = true → p (Char.ofNat n)) {c : Char}
    (h : c.isAlphanum = true) : p c := by
  have known := all ⟨c.toNat, toNat_lt_of_isAlphanum h⟩
  rw [Char.ofNat_toNat] at known
  exact known h

/-- Letters and digits are forms of themselves. -/
theorem isFoldedAlnum_of_isAlphanum {c : Char} (h : c.isAlphanum = true) :
    isFoldedAlnum c = true :=
  forall_isAlphanum (p := fun c => isFoldedAlnum c = true) (by decide) h

theorem isAlphanum_of_toLower {c : Char} (h : c.toLower.isAlphanum = true) :
    c.isAlphanum = true := by
  unfold Char.toLower at h
  split at h
  · next upper =>
    have capital : c.isUpper = true := decide_eq_true upper
    change (c.isUpper || c.isLower || c.isDigit) = true
    rw [capital, Bool.true_or, Bool.true_or]
  · exact h

/-- A form of a letter is an ASCII letter or digit unless it is one of the letters that have forms
outside ASCII. -/
theorem isAlphanum_of_fold {c w : Char} (folds : foldLetter c = w) (letter : w.isAlphanum = true)
    (noKelvin : c ≠ kelvin) (noS : w ≠ 's') (noI : w ≠ 'i') : c.isAlphanum = true := by
  unfold foldLetter at folds
  split at folds
  · next sign =>
    refine absurd ?_ noKelvin
    rw [← Char.ofNat_toNat c, eq_of_beq sign]
    rfl
  · split at folds
    · exact absurd folds.symm noS
    · split at folds
      · exact absurd folds.symm noI
      · exact isAlphanum_of_toLower (folds ▸ letter)

/-- What a class keeps, a wider one keeps too. -/
theorem length_takeWhile_le {p q : Char → Bool} (wider : ∀ c, p c = true → q c = true)
    (s : List Char) : (s.takeWhile p).length ≤ (s.takeWhile q).length := by
  induction s with
  | nil => exact Nat.le_refl _
  | cons c s ih =>
    rw [List.takeWhile_cons, List.takeWhile_cons]
    by_cases kept : p c = true
    · rw [if_pos kept, if_pos (wider c kept), List.length_cons, List.length_cons]
      exact Nat.succ_le_succ ih
    · rw [if_neg kept]
      exact Nat.zero_le _

end Text

open Text

/-- A kind of ID: its word, how letters are folded before they are compared with it, and what may
follow. -/
structure IdKind where
  fold : Char → Char
  tail : Char → Bool
  word : List Char

namespace IdKind

/-- How many characters at the start may follow a word. -/
def run (k : IdKind) (s : List Char) : Nat := (s.takeWhile k.tail).length

/-- Do the letters of a word, and 14 characters behind them, stand at the start? -/
def goesOn (k : IdKind) : List Char → List Char → Bool
  | [], s => decide (14 ≤ k.run s)
  | _ :: _, [] => false
  | w :: word, c :: s => k.fold c == w && k.goesOn word s

/-- Does an ID stand anywhere in the text? -/
def shows (k : IdKind) : List Char → Bool
  | [] => false
  | c :: s => k.goesOn k.word (c :: s) || k.shows s

/-- An ID is made of letters and digits, or of other forms of them, and begins with a letter. -/
structure IsPlain (k : IdKind) : Prop where
  word : ∀ c, k.fold c ∈ k.word → isFoldedAlnum c = true
  noDigit : ∀ c, k.fold c ∈ k.word → c.isDigit = false
  named : k.word ≠ []
  tail : ∀ c, k.tail c = true → isFoldedAlnum c = true
  alnum : ∀ c, c.isAlphanum = true → k.tail c = true

/-- An ID whose letters and digits are ASCII ones. -/
structure IsAscii (k : IdKind) : Prop extends k.IsPlain where
  letter : ∀ c, k.fold c ∈ k.word → c.isAlphanum = true
  behind : ∀ c, k.tail c = true → c.isAlphanum = true

variable {k : IdKind}

theorem shows_of_goesOn {s : List Char} (h : k.goesOn k.word s = true) (named : k.word ≠ []) :
    k.shows s = true := by
  cases s with
  | nil =>
    obtain ⟨w, word, spelled⟩ := List.exists_cons_of_ne_nil named
    rw [spelled] at h
    cases h
  | cons c s => rw [shows, h, Bool.true_or]

theorem shows_append_right {s : List Char} (h : k.shows s = true) (before : List Char) :
    k.shows (before ++ s) = true := by
  induction before with
  | nil => exact h
  | cons c before ih => rw [List.cons_append, shows, ih, Bool.or_true]

theorem run_cons (c : Char) (s : List Char) :
    k.run (c :: s) = if k.tail c then k.run s + 1 else 0 := by
  unfold run
  rw [List.takeWhile_cons]
  split <;> rfl

theorem run_le_length (s : List Char) : k.run s ≤ s.length := by
  induction s with
  | nil => exact Nat.le_refl _
  | cons c s ih =>
    rw [run_cons, List.length_cons]
    split <;> omega

/-- A run ends where a character does not belong to it. -/
theorem run_append_stop {stop : Char} (stops : k.tail stop = false) (letters s : List Char) :
    k.run (letters ++ stop :: s) = k.run letters := by
  induction letters with
  | nil =>
    rw [List.nil_append, run_cons, stops]
    rfl
  | cons c letters ih => rw [List.cons_append, run_cons, run_cons, ih]

theorem length_of_goesOn {word s : List Char} (h : k.goesOn word s = true) : 14 ≤ s.length := by
  induction word generalizing s with
  | nil =>
    have run := k.run_le_length s
    rw [goesOn, decide_eq_true_eq] at h
    omega
  | cons w word ih =>
    cases s with
    | nil => cases h
    | cons c s =>
      rw [goesOn, Bool.and_eq_true] at h
      have rest := ih h.2
      rw [List.length_cons]
      omega

/-- What is too short shows nothing. -/
theorem shows_short {s : List Char} (short : s.length < 14) : k.shows s = false := by
  induction s with
  | nil => rfl
  | cons c s ih =>
    have none : k.goesOn k.word (c :: s) = false := by
      rw [Bool.eq_false_iff]
      intro goes
      have long := length_of_goesOn goes
      omega
    rw [List.length_cons] at short
    rw [shows, none, ih (by omega), Bool.or_false]

namespace IsPlain

variable (plain : k.IsPlain)
include plain

/-- Digits alone show nothing. -/
theorem shows_digits {s : List Char} (digits : ∀ c ∈ s, c.isDigit = true) : k.shows s = false := by
  induction s with
  | nil => rfl
  | cons c s ih =>
    obtain ⟨first, others⟩ := List.forall_mem_cons.mp digits
    obtain ⟨w, word, spelled⟩ := List.exists_cons_of_ne_nil plain.named
    have differ : (k.fold c == w) = false := by
      rw [beq_eq_false_iff_ne]
      intro same
      have digit := plain.noDigit c (by rw [spelled, same]; exact List.mem_cons_self)
      rw [first] at digit
      cases digit
    rw [shows, spelled, goesOn, differ, Bool.false_and, Bool.false_or, ih others]

variable {stop : Char} (stops : isFoldedAlnum stop = false)
include stops

theorem tail_stop : k.tail stop = false := by
  rw [Bool.eq_false_iff]
  intro follows
  rw [plain.tail stop follows] at stops
  cases stops

/-- An ID does not reach over a character that stops it. -/
theorem goesOn_append_stop {word : List Char} (part : word ⊆ k.word) (letters s : List Char) :
    k.goesOn word (letters ++ stop :: s) = k.goesOn word letters := by
  induction word generalizing letters with
  | nil => rw [goesOn, goesOn, run_append_stop (plain.tail_stop stops)]
  | cons w word ih =>
    obtain ⟨first, others⟩ := List.cons_subset.mp part
    cases letters with
    | nil =>
      rw [List.nil_append, goesOn, goesOn, Bool.and_eq_false_iff, beq_eq_false_iff_ne]
      refine .inl fun same => ?_
      rw [plain.word stop (same ▸ first)] at stops
      cases stops
    | cons c letters => rw [List.cons_append, goesOn, goesOn, ih others]

/-- No ID begins with it. -/
theorem goesOn_stop (s : List Char) : k.goesOn k.word (stop :: s) = false := by
  obtain ⟨w, word, spelled⟩ := List.exists_cons_of_ne_nil plain.named
  rw [← List.nil_append (stop :: s), plain.goesOn_append_stop stops (List.Subset.refl _), spelled]
  rfl

/-- An ID stands before the character, or behind it. -/
theorem shows_append_stop (letters s : List Char) :
    k.shows (letters ++ stop :: s) = (k.shows letters || k.shows s) := by
  induction letters with
  | nil =>
    change (k.goesOn k.word (stop :: s) || k.shows s) = (false || k.shows s)
    rw [plain.goesOn_stop stops]
  | cons c letters ih =>
    rw [List.cons_append, shows, shows, ih, ← List.cons_append,
      plain.goesOn_append_stop stops (List.Subset.refl _), Bool.or_assoc]

theorem shows_cons_stop (s : List Char) : k.shows (stop :: s) = k.shows s := by
  have apart := plain.shows_append_stop stops [] s
  rwa [List.nil_append, shows, Bool.false_or] at apart

end IsPlain

end IdKind

/-- The IDs of a kind as the service writes them. -/
def exactKind (word : String) : IdKind := ⟨id, isAsciiAlnum, word.toList⟩

/-- Access tokens, bases and records. -/
def idKinds : List IdKind := [exactKind "pat", exactKind "app", exactKind "rec"]

theorem forall_idKinds {p : IdKind → Prop} (token : p (exactKind "pat"))
    (base : p (exactKind "app")) (record : p (exactKind "rec")) : ∀ k ∈ idKinds, p k :=
  List.forall_iff_forall_mem.mp ⟨token, base, record⟩

theorem exactKind_isAscii {word : String} (named : word.toList ≠ [])
    (letters : ∀ w ∈ word.toList, w.isAlphanum = true ∧ w.isDigit = false) :
    (exactKind word).IsAscii where
  word := fun c mem => isFoldedAlnum_of_isAlphanum (letters c mem).1
  noDigit := fun c mem => (letters c mem).2
  named := named
  tail := fun _ => isFoldedAlnum_of_isAlphanum
  alnum := fun _ => id
  letter := fun c mem => (letters c mem).1
  behind := fun _ => id

theorem idKinds_isAscii : ∀ k ∈ idKinds, k.IsAscii :=
  forall_idKinds (exactKind_isAscii (by decide) (by simp))
    (exactKind_isAscii (by decide) (by simp)) (exactKind_isAscii (by decide) (by simp))

theorem idKinds_isPlain : ∀ k ∈ idKinds, k.IsPlain :=
  fun k mem => (idKinds_isAscii k mem).toIsPlain

/-- An ID is its word and 14 letters or digits. -/
theorem exactKind_goesOn {kind : String} {word s : List Char} :
    (exactKind kind).goesOn word s = true ↔
      ∃ rest, s = word ++ rest ∧ 14 ≤ (rest.takeWhile isAsciiAlnum).length := by
  induction word generalizing s with
  | nil =>
    rw [IdKind.goesOn, decide_eq_true_eq]
    exact ⟨fun long => ⟨s, rfl, long⟩, fun ⟨rest, same, long⟩ => same ▸ long⟩
  | cons w word ih =>
    cases s with
    | nil => simp [IdKind.goesOn]
    | cons c s =>
      rw [IdKind.goesOn, Bool.and_eq_true, beq_iff_eq, ih]
      constructor
      · rintro ⟨rfl, rest, rfl, long⟩
        exact ⟨rest, rfl, long⟩
      · rintro ⟨rest, same, long⟩
        obtain ⟨rfl, rfl⟩ := List.cons_eq_cons.mp same
        exact ⟨rfl, rest, rfl, long⟩

end BaseGateway
