/-!
# Replacing every match

A text is scanned from the left. Where a match begins, its characters give way to a replacement and
the scan goes on behind them; any other character stays. A text that is kept loses the control
sequences of a terminal in this way.
-/

namespace BaseGateway.Text

/-- Tells how many characters a match that begins here takes up. -/
abbrev Matcher := List Char → Option Nat

/-- Replaces the matches behind the next `skip` characters, which belong to a match already
replaced. -/
def replaceFrom (matcher : Matcher) (new : List Char) : Nat → List Char → List Char
  | _, [] => []
  | skip + 1, _ :: s => replaceFrom matcher new skip s
  | 0, c :: s =>
    match matcher (c :: s) with
    | some (n + 1) => new ++ replaceFrom matcher new n s
    | _ => c :: replaceFrom matcher new 0 s

/-- Replaces every match. -/
def replaceMatches (matcher : Matcher) (new s : List Char) : List Char :=
  replaceFrom matcher new 0 s

/-- Does a match begin anywhere in the text? -/
def hasMatch (matcher : Matcher) : List Char → Bool
  | [] => (matcher []).isSome
  | c :: s => (matcher (c :: s)).isSome || hasMatch matcher s

section

variable {matcher : Matcher} {new : List Char}

theorem replaceFrom_match {c : Char} {s : List Char} {n : Nat}
    (h : matcher (c :: s) = some (n + 1)) :
    replaceFrom matcher new 0 (c :: s) = new ++ replaceFrom matcher new n s := by
  simp [replaceFrom, h]

theorem replaceFrom_other {c : Char} {s : List Char} (h : ∀ n, matcher (c :: s) ≠ some (n + 1)) :
    replaceFrom matcher new 0 (c :: s) = c :: replaceFrom matcher new 0 s := by
  rw [replaceFrom]
  split
  · next n found => exact absurd found (h n)
  · rfl

theorem replaceFrom_skip (skip : Nat) (s : List Char) :
    replaceFrom matcher new skip s = replaceFrom matcher new 0 (s.drop skip) := by
  induction skip generalizing s with
  | zero => rfl
  | succ skip ih =>
    cases s with
    | nil => rfl
    | cons c s => exact ih s

end

/-- A text without a match is left alone. -/
theorem replaceMatches_eq_self (matcher : Matcher) (new s : List Char)
    (h : hasMatch matcher s = false) : replaceMatches matcher new s = s := by
  induction s with
  | nil => rfl
  | cons c s ih =>
    simp only [hasMatch, Bool.or_eq_false_iff, Option.isSome_eq_false_iff,
      Option.isNone_iff_eq_none] at h
    have rest := ih h.2
    simp only [replaceMatches] at rest
    simp only [replaceMatches, replaceFrom, h.1, rest]

/-- The form of a control sequence that colours text on a terminal: an escape character, a bracket,
parameters and one letter. -/
def stylingLength? : Matcher
  | '\x1b' :: '[' :: s =>
    let parameters := s.takeWhile fun c => c.isDigit || c == ';' || c == '?'
    match s.drop parameters.length with
    | c :: _ => if c.isAlpha then some (parameters.length + 3) else none
    | [] => none
  | _ => none

/-- The text without its control sequences. -/
def withoutStyling (s : String) : String :=
  String.ofList (replaceMatches stylingLength? [] s.toList)

end BaseGateway.Text
