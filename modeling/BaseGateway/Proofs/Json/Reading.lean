import Mathlib.Data.List.TakeWhile
import BaseGateway.Json.Reader
import BaseGateway.Proofs.Decimal.Digits
import BaseGateway.Proofs.Value.Document

/-!
# What is read is a document

Whatever text a value is read from, JSON has a form for it and the keys of its dictionaries differ
(`read_isDocument`), as it is with every value that the reader gives on the way: an integer of too
many digits is not read, and of equal keys one is kept.
-/

namespace BaseGateway.Json

open Value

theorem wholeDigits_digits (s : List Char) : ∀ c ∈ wholeDigits s, c.isDigit = true := by
  unfold wholeDigits
  split
  · simp
  · intro c mem
    exact List.mem_takeWhile_imp mem

/-- What stands behind a fraction, all of it where there is none. -/
def behindFraction (s : List Char) : List Char :=
  if (fractionDigits s).isEmpty then s else s.drop ((fractionDigits s).length + 1)

/-- A fraction with its point, or nothing. -/
def placesOf (fraction : List Char) : List Char := if fraction.isEmpty then [] else '.' :: fraction

/-- A number behind its sign; `left` is where it began. -/
def readUnsigned (negative : Bool) (left : Nat) (body : List Char) :
    Except Problem (Value × List Char) :=
  let whole := wholeDigits body
  let rest := body.drop whole.length
  let fraction := fractionDigits rest
  let exponent := exponentPart (behindFraction rest)
  let behind := (behindFraction rest).drop exponent.length
  if whole.isEmpty then .error (.malformed "Expecting value" left)
  else if fraction.isEmpty && exponent.isEmpty then
    if Decimal.maxDigits < whole.length then .error (.tooManyDigits whole.length)
    else
      let n : Int := Decimal.digitsValue whole
      .ok (.int (if negative then -n else n), behind)
  else
    let x := (Decimal.readMagnitude? (whole ++ placesOf fraction ++ exponent)).getD 0.0
    .ok (.float (if negative then -x else x), behind)

theorem readNumber_minus (r : List Char) :
    readNumber ('-' :: r) = readUnsigned true (r.length + 1) r := rfl

theorem readNumber_plain {s : List Char} (h : s.head? ≠ some '-') :
    readNumber s = readUnsigned false s.length s := by
  unfold readNumber
  split
  next negative body sign =>
    split at sign
    · simp at h
    · obtain ⟨rfl, rfl⟩ := Prod.mk.inj sign
      rfl

theorem readUnsigned_isDocument {negative : Bool} {left : Nat} {body rest : List Char} {v : Value}
    (h : readUnsigned negative left body = .ok (v, rest)) : v.IsDocument := by
  unfold readUnsigned at h
  dsimp only at h
  split at h
  · cases h
  · split at h
    · split at h
      · cases h
      · next few =>
        obtain ⟨rfl, _⟩ := Prod.mk.inj (Except.ok.inj h)
        exact Decimal.isShort_of_digits (wholeDigits_digits body) (Nat.not_lt.mp few) negative
    · obtain ⟨rfl, _⟩ := Prod.mk.inj (Except.ok.inj h)
      trivial

theorem readNumber_isDocument {s rest : List Char} {v : Value} (h : readNumber s = .ok (v, rest)) :
    v.IsDocument := by
  by_cases minus : s.head? = some '-'
  · cases s with
    | nil => cases minus
    | cons c r =>
      obtain rfl := Option.some.inj minus
      rw [readNumber_minus] at h
      exact readUnsigned_isDocument h
  · rw [readNumber_plain minus] at h
    exact readUnsigned_isDocument h

theorem readPlain_isDocument {s rest : List Char} {v : Value} (h : readPlain s = .ok (v, rest)) :
    v.IsDocument := by
  unfold readPlain at h
  split at h
  · next name found =>
    obtain ⟨rfl, _⟩ := Prod.mk.inj (Except.ok.inj h)
    have known : ∀ entry ∈ names, entry.2.IsDocument := by simp [names, Value.IsDocument]
    exact known _ (List.mem_of_find?_eq_some found)
  · exact readNumber_isDocument h

mutual

theorem readValue_isDocument : ∀ {fuel : Nat} {s rest : List Char} {v : Value},
    readValue fuel s = .ok (v, rest) → v.IsDocument
  | 0, s, rest, v, h => by
    unfold readValue at h
    cases h
  | fuel + 1, s, rest, v, h => by
    unfold readValue at h
    split at h
    · obtain ⟨⟨cs, behind⟩, string, h⟩ := Except.bind_ok h
      cases h
      trivial
    · split at h
      · cases h
        trivial
      · obtain ⟨⟨items, behind⟩, read, h⟩ := Except.bind_ok h
        cases h
        exact readItems_isDocument read
    · split at h
      · cases h
        exact isDocument_empty
      · obtain ⟨⟨entries, behind⟩, read, h⟩ := Except.bind_ok h
        cases h
        exact Entries.override_isDocument (readEntries_isDocument read) isDocument_empty
    · exact readPlain_isDocument h

theorem readItems_isDocument : ∀ {fuel : Nat} {s rest : List Char} {items : List Value},
    readItems fuel s = .ok (items, rest) → AllDocuments items
  | 0, s, rest, items, h => by
    unfold readItems at h
    cases h
  | fuel + 1, s, rest, items, h => by
    unfold readItems at h
    obtain ⟨⟨v, behind⟩, first, h⟩ := Except.bind_ok h
    have document := readValue_isDocument first
    dsimp only at h
    split at h
    · cases h
      exact ⟨document, trivial⟩
    · obtain ⟨⟨others, last⟩, read, h⟩ := Except.bind_ok h
      cases h
      exact ⟨document, readItems_isDocument read⟩
    · cases h

theorem readEntries_isDocument : ∀ {fuel : Nat} {s rest : List Char} {entries : Entries},
    readEntries fuel s = .ok (entries, rest) → EntriesDocuments entries
  | 0, s, rest, entries, h => by
    unfold readEntries at h
    cases h
  | fuel + 1, s, rest, entries, h => by
    unfold readEntries at h
    split at h
    · obtain ⟨⟨key, behind⟩, string, h⟩ := Except.bind_ok h
      dsimp only at h
      split at h
      · obtain ⟨⟨v, behind'⟩, value, h⟩ := Except.bind_ok h
        have document := readValue_isDocument value
        dsimp only at h
        split at h
        · cases h
          exact ⟨⟨_, rfl⟩, document, trivial⟩
        · obtain ⟨⟨others, last⟩, read, h⟩ := Except.bind_ok h
          cases h
          exact ⟨⟨_, rfl⟩, document, readEntries_isDocument read⟩
        · cases h
      · cases h
    · cases h

end

/-- What is read is a document. -/
theorem read_isDocument {text : String} {v : Value} (h : read text = .ok v) : v.IsDocument := by
  unfold read at h
  dsimp only at h
  split at h
  · next v' document =>
    obtain rfl := Except.ok.inj h
    unfold readDocument at document
    split at document
    · cases document
    · obtain ⟨⟨w, behind⟩, value, document⟩ := Except.bind_ok document
      dsimp only at document
      split at document
      · obtain rfl := Except.ok.inj document
        exact readValue_isDocument value
      · cases document
  · cases h
  · cases h

theorem read_isJson {text : String} {v : Value} (h : read text = .ok v) : v.IsJson :=
  (read_isDocument h).isJson

end BaseGateway.Json
