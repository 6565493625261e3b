import Mathlib.Data.List.TakeWhile
import BaseGateway.Proofs.Redaction

/-!
# Redacted texts stay as they are

What redaction leaves has no part of the form of a token, a key, a base or a record, and all that
looks like an authorization header is the stand-in of one, so that redacting it again changes
nothing (`redact_settled`). The Kelvin sign is left out as before.

* the forms of secrets are told as whole texts, and each of them shows as an ID
  (`SecretForm.Matches.shows`); the rules take nothing but secrets (`finds_secrets`), so they leave
  a text alone where none shows (`Rule.Finds.unchanged`);
* replacing headers leaves the stand-in and a blank or the end behind it, and makes no header out of
  what stands before it (`bearerLength?_applyFrom`), so each header that is found behind it is the
  stand-in (`bearer_settled`);
* a text whose matches are all the replacement is not changed by replacing
  (`Text.replaceFrom_eq_drop`).
-/

namespace BaseGateway

namespace Text

theorem take_length_takeWhile (p : Char → Bool) (s : List Char) :
    s.take (s.takeWhile p).length = s.takeWhile p :=
  (List.prefix_iff_eq_take.mp (List.takeWhile_prefix p)).symm

theorem drop_length_takeWhile (p : Char → Bool) (s : List Char) :
    s.drop (s.takeWhile p).length = s.dropWhile p := by
  have apart : (s.takeWhile p ++ s.dropWhile p).drop (s.takeWhile p).length = s.dropWhile p :=
    List.drop_left
  rwa [List.takeWhile_append_dropWhile] at apart

theorem dropWord?_eq_some {word s rest : List Char} (h : dropWord? word s = some rest) :
    ∃ begins, s = begins ++ rest ∧ begins.map foldLetter = word := by
  induction word generalizing s with
  | nil => exact ⟨[], Option.some.inj h, rfl⟩
  | cons w word ih =>
    cases s with
    | nil => cases h
    | cons c s =>
      rw [dropWord?] at h
      split at h
      · next folds =>
        obtain ⟨begins, rfl, spelled⟩ := ih h
        exact ⟨c :: begins, rfl, by rw [List.map_cons, eq_of_beq folds, spelled]⟩
      · cases h

/-- The matches that a scan from the left finds behind the next `skip` characters. -/
def matchesFrom (matcher : Matcher) : Nat → List Char → List (List Char)
  | _, [] => []
  | skip + 1, _ :: s => matchesFrom matcher skip s
  | 0, c :: s =>
    match matcher (c :: s) with
    | some (n + 1) => (c :: s).take (n + 1) :: matchesFrom matcher n s
    | _ => matchesFrom matcher 0 s

variable {matcher : Matcher} {new : List Char}

theorem matchesFrom_match {c : Char} {s : List Char} {n : Nat}
    (h : matcher (c :: s) = some (n + 1)) :
    matchesFrom matcher 0 (c :: s) = (c :: s).take (n + 1) :: matchesFrom matcher n s := by
  simp [matchesFrom, h]

theorem matchesFrom_other {c : Char} {s : List Char} (h : ∀ n, matcher (c :: s) ≠ some (n + 1)) :
    matchesFrom matcher 0 (c :: s) = matchesFrom matcher 0 s := by
  rw [matchesFrom]
  split
  · next n found => exact absurd found (h n)
  · rfl

theorem matchesFrom_skip (skip : Nat) (s : List Char) :
    matchesFrom matcher skip s = matchesFrom matcher 0 (s.drop skip) := by
  induction skip generalizing s with
  | zero => rfl
  | succ skip ih =>
    cases s with
    | nil => rfl
    | cons c s => exact ih s

/-- A match that takes up a whole text, with what follows it. -/
theorem matchesFrom_append {whole : List Char} (named : whole ≠ []) (s : List Char)
    (h : matcher (whole ++ s) = some whole.length) :
    matchesFrom matcher 0 (whole ++ s) = whole :: matchesFrom matcher 0 s := by
  obtain ⟨c, others, rfl⟩ := List.exists_cons_of_ne_nil named
  rw [List.cons_append] at h ⊢
  rw [matchesFrom_match h, matchesFrom_skip, List.drop_left, List.take_succ_cons, List.take_left]

/-- A text whose matches are all the replacement is not changed by replacing them. -/
theorem replaceFrom_eq_drop (skip : Nat) (s : List Char)
    (h : ∀ w ∈ matchesFrom matcher skip s, w = new) :
    replaceFrom matcher new skip s = s.drop skip := by
  induction s generalizing skip with
  | nil => cases skip <;> rfl
  | cons c s ih =>
    cases skip with
    | succ skip => exact ih skip h
    | zero =>
      by_cases found : ∃ n, matcher (c :: s) = some (n + 1)
      · obtain ⟨n, found⟩ := found
        rw [matchesFrom_match found, List.forall_mem_cons] at h
        rw [replaceFrom_match found, ih n h.2, ← h.1, List.take_succ_cons, List.cons_append,
          List.take_append_drop, List.drop_zero]
      · have none : ∀ n, matcher (c :: s) ≠ some (n + 1) := fun n same => found ⟨n, same⟩
        rw [matchesFrom_other none] at h
        rw [replaceFrom_other none, ih 0 h, List.drop_zero, List.drop_zero]

end Text

open Text

namespace Redaction

/-- A form of secrets: the IDs of a kind, and what may follow their 14 letters or digits. -/
structure SecretForm extends IdKind where
  more : Char → Bool

/-- Is the whole text a secret of the form? -/
def SecretForm.Matches (f : SecretForm) (text : List Char) : Prop :=
  ∃ word run rest, text = word ++ (run ++ rest) ∧ word.map f.fold = f.word ∧ run.length = 14 ∧
    (∀ c ∈ run, f.tail c = true) ∧ ∀ c ∈ rest, f.more c = true

/-- The IDs of a kind in any form of their letters. -/
def foldedKind (word : String) : IdKind := ⟨foldLetter, isFoldedAlnum, word.toList⟩

/-- What may follow the 14 letters or digits of a token. -/
def inToken (c : Char) : Bool := isWordChar c || c == '.'

/-- Secrets that begin with a word in any form of its letters; more letters and digits may follow
when the form is `open`. -/
def foldedForm (word : String) (isOpen : Bool) : SecretForm :=
  ⟨foldedKind word, fun c => isOpen && isFoldedAlnum c⟩

/-- The rules that look for IDs, each with the form of the secrets that it is for. -/
def secrets : List (Rule × SecretForm) :=
  [(tokenRule, ⟨exactKind "pat", inToken⟩),
   (legacyKeyRule, foldedForm "key" true),
   (baseRule, foldedForm "app" false),
   (recordRule, foldedForm "rec" false)]

theorem rules_eq : rules = secrets.map Prod.fst ++ [bearerRule] := rfl

section Forms

variable {k : IdKind}

/-- Letters that are forms of a word, with 14 characters that may follow it, go on as an ID. -/
theorem goesOn_of_map {word run : List Char} (rest : List Char) (long : 14 ≤ run.length)
    (follows : ∀ c ∈ run, k.tail c = true) :
    k.goesOn (word.map k.fold) (word ++ (run ++ rest)) = true := by
  induction word with
  | nil =>
    rw [List.map_nil, List.nil_append, IdKind.goesOn, decide_eq_true_eq, IdKind.run,
      List.takeWhile_append_of_pos follows, List.length_append]
    omega
  | cons c word ih =>
    rw [List.map_cons, List.cons_append, IdKind.goesOn, ih, beq_self_eq_true, Bool.true_and]

/-- A secret shows wherever it is a part of a text. -/
theorem SecretForm.Matches.shows {f : SecretForm} {part s : List Char} (secret : f.Matches part)
    (named : f.word ≠ []) (within : part <:+: s) : f.shows s = true := by
  obtain ⟨word, run, rest, rfl, spelled, long, follows, -⟩ := secret
  obtain ⟨before, behind, rfl⟩ := within
  have goes : f.goesOn (word.map f.fold) (word ++ (run ++ (rest ++ behind))) = true :=
    goesOn_of_map (rest ++ behind) (Nat.le_of_eq long.symm) follows
  rw [spelled] at goes
  have here := IdKind.shows_append_right (IdKind.shows_of_goesOn goes named) before
  simpa only [List.append_assoc] using here

theorem foldLetter_of_isDigit {c : Char} (digit : c.isDigit = true) : foldLetter c = c := by
  have ascii : c.isAlphanum = true := by rw [Char.isAlphanum, digit, Bool.or_true]
  exact forall_isAlphanum (p := fun c => c.isDigit = true → foldLetter c = c) (by decide) ascii
    digit

theorem foldedKind_isPlain {word : String} (named : word.toList ≠ [])
    (letters : ∀ w ∈ word.toList, w.isAlphanum = true ∧ w.isDigit = false) :
    (foldedKind word).IsPlain where
  word := fun c mem => (letters (foldLetter c) mem).1
  noDigit := by
    intro c mem
    rw [Bool.eq_false_iff]
    intro digit
    have none := (letters (foldLetter c) mem).2
    rw [foldLetter_of_isDigit digit, digit] at none
    cases none
  named := named
  tail := fun _ => id
  alnum := fun _ => isFoldedAlnum_of_isAlphanum

end Forms

/-- A word and enough characters behind it are a secret, with what may follow them. -/
theorem SecretForm.matches_of_run {f : SecretForm} {word s more : List Char}
    (spelled : word.map f.fold = f.word) (long : 14 ≤ f.run s)
    (follows : ∀ c ∈ more, f.more c = true) : f.Matches (word ++ (s.take 14 ++ more)) := by
  have full : (s.take 14).length = 14 := by
    have few := f.run_le_length s
    rw [List.length_take]
    omega
  have within : s.take 14 ⊆ s.takeWhile f.tail := by
    have fewer := List.take_subset_take_left s long
    rwa [IdKind.run, take_length_takeWhile] at fewer
  exact ⟨word, s.take 14, more, rfl, spelled, full,
    fun c mem => List.mem_takeWhile_imp (within mem), follows⟩

/-- A rule finds every secret of a form, and takes nothing else. -/
structure Rule.Finds (r : Rule) (f : SecretForm) : Prop where
  plain : f.IsPlain
  finds : ∀ s, f.goesOn f.word s = true → ∃ n, r.matcher s = some (n + 1)
  only : ∀ s n, r.matcher s = some n → f.Matches (s.take n)

namespace Rule.Finds

variable {r : Rule} {f : SecretForm} (found : r.Finds f)
include found

theorem matcher_eq_none {s : List Char} (hidden : f.shows s = false) : r.matcher s = none := by
  rw [Option.eq_none_iff_forall_ne_some]
  intro n here
  rw [(found.only s n here).shows found.plain.named (List.take_prefix n s).isInfix] at hidden
  cases hidden

/-- A text that shows no ID of the kind is left alone. -/
theorem unchanged {s : List Char} (hidden : f.shows s = false) : r.apply s = s := by
  refine replaceMatches_eq_self r.matcher r.standIn s ?_
  induction s with
  | nil => rw [hasMatch, found.matcher_eq_none hidden, Option.isSome_none]
  | cons c s ih =>
    have later : f.shows s = false := by
      rw [IdKind.shows, Bool.or_eq_false_iff] at hidden
      exact hidden.2
    rw [hasMatch, found.matcher_eq_none hidden, ih later, Option.isSome_none, Bool.or_false]

end Rule.Finds

theorem finds_folded {word : String} (named : word.toList ≠ [])
    (letters : ∀ w ∈ word.toList, w.isAlphanum = true ∧ w.isDigit = false) (isOpen : Bool)
    (standIn : List Char) :
    Rule.Finds ⟨idLength? word.toList isOpen, standIn⟩ (foldedForm word isOpen) where
  plain := foldedKind_isPlain named letters
  finds := fun _ => idLength?_of_goesOn (foldedKind_isPlain named letters) (fun _ _ => rfl) isOpen
  only := by
    intro s n found
    obtain ⟨rest, dropped, enough⟩ := Option.bind_eq_some_iff.mp found
    obtain ⟨begins, rfl, spelled⟩ := dropWord?_eq_some dropped
    dsimp only at enough
    split at enough
    · next long =>
      obtain rfl := Option.some.inj enough
      rw [← spelled, List.length_map, List.take_length_add_append]
      cases isOpen with
      | false =>
        have whole := SecretForm.matches_of_run (f := foldedForm word false) spelled long
          (List.forall_mem_nil _)
        rwa [List.append_nil] at whole
      | true =>
        have alnum : ∀ c ∈ (rest.takeWhile isFoldedAlnum).drop 14, isFoldedAlnum c = true :=
          fun c mem => List.mem_takeWhile_imp (List.mem_of_mem_drop mem)
        have whole := SecretForm.matches_of_run (f := foldedForm word true) spelled long alnum
        have first : rest.take 14 = (rest.takeWhile isFoldedAlnum).take 14 := by
          rw [← take_length_takeWhile, List.take_take, Nat.min_eq_left long]
        rw [first, List.take_append_drop] at whole
        rwa [if_pos rfl, take_length_takeWhile]
    · cases enough

theorem finds_token : tokenRule.Finds ⟨exactKind "pat", inToken⟩ where
  plain := idKinds_isPlain _ (.head _)
  finds := fun _ => tokenLength?_of_goesOn
  only := by
    intro s n found
    change tokenLength? s = some n at found
    unfold tokenLength? at found
    split at found
    · next rest =>
      split at found
      · next long =>
        obtain rfl := Option.some.inj found
        set more := (rest.drop 14).takeWhile inToken with behind
        have inside : ∀ c ∈ more, inToken c = true := fun c mem => List.mem_takeWhile_imp mem
        have whole := SecretForm.matches_of_run (f := ⟨exactKind "pat", inToken⟩) (List.map_id _)
          long inside
        have token : 17 + more.length = "pat".toList.length + (14 + more.length) :=
          Nat.add_assoc 3 14 more.length
        change SecretForm.Matches _ (("pat".toList ++ rest).take (17 + more.length))
        rw [token, List.take_length_add_append, List.take_add, behind, take_length_takeWhile]
        exact whole
      · cases found
    · cases found

/-- Each rule goes with the form of secrets that stands beside it. -/
theorem finds_secrets : ∀ secret ∈ secrets, secret.1.Finds secret.2 :=
  List.forall_iff_forall_mem.mp ⟨finds_token,
    finds_folded (by decide) (by simp) true _,
    finds_folded (by decide) (by simp) false _,
    finds_folded (by decide) (by simp) false _⟩

/-- No secret shows behind redaction. -/
theorem redactChars_hides_secrets {s : List Char} (plainText : kelvin ∉ s) :
    ∀ secret ∈ secrets, secret.2.shows (redactChars s) = false := by
  have rule : ∀ secret ∈ secrets, secret.1 ∈ rules := fun secret mem =>
    rules_eq ▸ List.mem_append_left [bearerRule] (List.mem_map_of_mem mem)
  intro secret mem
  have found := finds_secrets secret mem
  exact applyAll_hides rules_breakOff plainText found.plain (rule secret mem) found.finds

section Headers

/-- A header is its word and a blank, and behind it stands something else than blanks. -/
theorem bearerLength?_eq_some_iff {s : List Char} :
    (∃ n, bearerLength? s = some (n + 1)) ↔ ∃ d rest,
      dropWord? "bearer".toList s = some (d :: rest) ∧ isBlank d = true ∧
        ¬ ∀ c ∈ rest, isBlank c = true := by
  constructor
  · rintro ⟨n, found⟩
    obtain ⟨rest, dropped, enough⟩ := Option.bind_eq_some_iff.mp found
    dsimp only at enough
    split at enough
    · cases enough
    · next full =>
      obtain ⟨blanks, run⟩ := not_or.mp full
      cases rest with
      | nil => exact absurd rfl blanks
      | cons d rest =>
        have blank : isBlank d = true := by
          by_contra other
          rw [List.takeWhile_cons_of_neg other] at blanks
          exact blanks rfl
        refine ⟨d, rest, dropped, blank, fun all => ?_⟩
        rw [List.dropWhile_cons_of_pos blank, List.dropWhile_eq_nil_iff.mpr all] at run
        exact run rfl
  · rintro ⟨d, rest, dropped, blank, other⟩
    have more : rest.dropWhile isBlank ≠ [] := fun none =>
      other (List.dropWhile_eq_nil_iff.mp none)
    obtain ⟨e, behind, begins⟩ := List.exists_cons_of_ne_nil more
    have first : isBlank e = false := by
      have head := List.head_dropWhile_not isBlank more
      simpa only [begins, List.head_cons] using head
    unfold bearerLength?
    rw [dropped, Option.bind_some]
    dsimp only
    rw [List.takeWhile_cons_of_pos blank, List.dropWhile_cons_of_pos blank, begins,
      List.takeWhile_cons_of_pos (by rw [first]; rfl), if_neg (by simp)]
    exact ⟨_, rfl⟩

/-- Behind a header stands a blank, or the text ends. -/
theorem head?_drop_of_bearerLength? {s : List Char} {n : Nat} (h : bearerLength? s = some n) :
    ∀ c ∈ (s.drop n).head?, isBlank c = true := by
  obtain ⟨rest, dropped, enough⟩ := Option.bind_eq_some_iff.mp h
  dsimp only at enough
  split at enough
  · cases enough
  · obtain rfl := Option.some.inj enough
    obtain ⟨begins, rfl, spelled⟩ := dropWord?_eq_some dropped
    have six : begins.length = 6 := by
      rw [← List.length_map foldLetter, spelled]
      rfl
    have behind := List.head?_dropWhile_not (!isBlank ·) (rest.dropWhile isBlank)
    rw [← List.drop_drop, ← List.drop_drop, List.drop_left' six, drop_length_takeWhile,
      drop_length_takeWhile]
    intro c mem
    rw [Option.mem_def.mp mem] at behind
    simpa using behind

theorem bearerLength?_standIn {s : List Char} (stops : ∀ c ∈ s.head?, isBlank c = true) :
    bearerLength? (bearerRule.standIn ++ s) = some 10 := by
  have run : s.takeWhile (!isBlank ·) = [] := by
    cases s with
    | nil => rfl
    | cons c s =>
      have blank := stops c rfl
      exact List.takeWhile_cons_of_neg (by rw [blank]; decide)
  have dropped : dropWord? "bearer".toList (bearerRule.standIn ++ s) = some (" ***".toList ++ s) :=
    rfl
  have blank : isBlank ' ' = true := by decide
  have other : isBlank '*' = false := by decide
  unfold bearerLength?
  rw [dropped, Option.bind_some]
  simp [blank, other, run]

theorem bearerLength?_eq_none {c : Char} (other : foldLetter c ≠ 'b') (s : List Char) :
    bearerLength? (c :: s) = none := by
  have none : dropWord? "bearer".toList (c :: s) = none :=
    if_neg fun same => other (eq_of_beq same)
  rw [bearerLength?, none, Option.bind_none]

theorem foldLetter_of_isBlank {c : Char} (blank : isBlank c = true) : foldLetter c ≠ 'b' := by
  intro folds
  have noKelvin : c ≠ kelvin := by
    rintro rfl
    exact absurd blank (by decide)
  have ascii := isAlphanum_of_fold folds (by decide) noKelvin (by decide) (by decide)
  rw [forall_isAlphanum (p := fun c => isBlank c = false) (by decide) ascii] at blank
  cases blank

theorem bearer_kept {c : Char} (other : foldLetter c ≠ 'b') (s : List Char) :
    bearerRule.applyFrom 0 (c :: s) = c :: bearerRule.applyFrom 0 s :=
  Rule.applyFrom_other fun n found => by
    cases (bearerLength?_eq_none other s).symm.trans found

theorem bearer_blanks {s : List Char} (blanks : ∀ c ∈ s, isBlank c = true) :
    bearerRule.applyFrom 0 s = s := by
  induction s with
  | nil => rfl
  | cons c s ih =>
    obtain ⟨first, others⟩ := List.forall_mem_cons.mp blanks
    rw [bearer_kept (foldLetter_of_isBlank first), ih others]

/-- What does not begin a stand-in was there before. -/
theorem bearer_eq_cons {d : Char} {s rest : List Char} (other : foldLetter d ≠ 'b')
    (h : bearerRule.applyFrom 0 s = d :: rest) :
    ∃ s', s = d :: s' ∧ rest = bearerRule.applyFrom 0 s' := by
  cases s with
  | nil => cases h
  | cons c s =>
    rcases bearerRule.applyFrom_cases c s with ⟨n, -, replaced⟩ | ⟨-, kept⟩
    · obtain ⟨rfl, -⟩ := List.cons_eq_cons.mp (replaced.symm.trans h)
      exact absurd (by decide) other
    · obtain ⟨rfl, rfl⟩ := List.cons_eq_cons.mp (kept.symm.trans h)
      exact ⟨s, rfl, rfl⟩

theorem bearer_dropWord? {word s rest : List Char} (others : ∀ w ∈ word, w ≠ 'b')
    (h : dropWord? word (bearerRule.applyFrom 0 s) = some rest) :
    ∃ rest', dropWord? word s = some rest' ∧ rest = bearerRule.applyFrom 0 rest' := by
  induction word generalizing s with
  | nil => exact ⟨s, rfl, (Option.some.inj h).symm⟩
  | cons w word ih =>
    obtain ⟨other, others⟩ := List.forall_mem_cons.mp others
    cases replaced : bearerRule.applyFrom 0 s with
    | nil =>
      rw [replaced] at h
      cases h
    | cons c shown =>
      rw [replaced, dropWord?] at h
      split at h
      · next folds =>
        obtain ⟨s', rfl, rfl⟩ := bearer_eq_cons
          (fun same => other ((eq_of_beq folds).symm.trans same)) replaced
        obtain ⟨rest', dropped, same⟩ := ih others h
        exact ⟨rest', by rw [dropWord?, if_pos folds, dropped], same⟩
      · cases h

/-- Replacing headers does not make one out of what stands before them. -/
theorem bearerLength?_applyFrom {c : Char} {s : List Char}
    (none : ∀ n, bearerLength? (c :: s) ≠ some (n + 1)) (n : Nat) :
    bearerLength? (c :: bearerRule.applyFrom 0 s) ≠ some (n + 1) := by
  intro found
  obtain ⟨d, rest, dropped, blank, other⟩ := bearerLength?_eq_some_iff.mp ⟨n, found⟩
  -- The word of the header begins with `c`, and no stand-in begins with one of the letters behind.
  by_cases begins : foldLetter c = 'b'
  · have word (s : List Char) :
        dropWord? "bearer".toList (c :: s) = dropWord? "earer".toList s :=
      if_pos (beq_iff_eq.mpr begins)
    rw [word] at dropped
    obtain ⟨rest', dropped', shown⟩ := bearer_dropWord? (by simp) dropped
    obtain ⟨behind, rfl, rfl⟩ := bearer_eq_cons (foldLetter_of_isBlank blank) shown.symm
    have more : ¬ ∀ e ∈ behind, isBlank e = true := by
      intro blanks
      rw [bearer_blanks blanks] at other
      exact other blanks
    rw [← word] at dropped'
    obtain ⟨m, before⟩ := bearerLength?_eq_some_iff.mpr ⟨d, behind, dropped', blank, more⟩
    exact none m before
  · rw [bearerLength?_eq_none begins] at found
    cases found

/-- Behind a header that was replaced stands a blank, or the text ends. -/
theorem head?_applyFrom_of_bearerLength? {c : Char} {s : List Char} {n : Nat}
    (h : bearerLength? (c :: s) = some (n + 1)) :
    ∀ e ∈ (bearerRule.applyFrom n s).head?, isBlank e = true := by
  have behind := head?_drop_of_bearerLength? h
  rw [List.drop_succ_cons] at behind
  rw [Rule.applyFrom, replaceFrom_skip, ← Rule.applyFrom]
  cases rest : s.drop n with
  | nil => rintro e ⟨⟩
  | cons d rest' =>
    have blank := behind d (by rw [rest]; rfl)
    rw [bearer_kept (foldLetter_of_isBlank blank)]
    intro e mem
    exact Option.some.inj mem ▸ blank

/-- The headers that are found behind a replacement are all stand-ins. -/
theorem bearer_settled (skip : Nat) (s : List Char) :
    ∀ w ∈ matchesFrom bearerLength? 0 (bearerRule.applyFrom skip s), w = bearerRule.standIn := by
  induction s generalizing skip with
  | nil => exact fun _ mem => by cases skip <;> cases mem
  | cons c s ih =>
    cases skip with
    | succ skip => exact ih skip
    | zero =>
      -- Either the scan meets the stand-in and goes on behind it, or it meets what stayed.
      rcases bearerRule.applyFrom_cases c s with ⟨n, found, replaced⟩ | ⟨none, kept⟩
      · have again := bearerLength?_standIn (head?_applyFrom_of_bearerLength? found)
        rw [replaced, matchesFrom_append (by decide) _ again, List.forall_mem_cons]
        exact ⟨rfl, ih n⟩
      · rw [kept, matchesFrom_other (bearerLength?_applyFrom none)]
        exact ih 0

end Headers

/-- Rules that each leave a text alone leave it alone together. -/
theorem applyAll_eq_self {rs : List Rule} {s : List Char} (alone : ∀ r ∈ rs, r.apply s = s) :
    applyAll rs s = s := by
  induction rs with
  | nil => rfl
  | cons r rs ih =>
    obtain ⟨first, others⟩ := List.forall_mem_cons.mp alone
    rw [applyAll, List.foldl_cons, first]
    exact ih others

/-- Redacted texts have no part that is a secret, all their headers are stand-ins, and redacting
them again does not change them. -/
theorem redact_settled {text : String} (plain : kelvin ∉ text.toList) :
    (∀ secret ∈ secrets, ∀ part, part <:+: (redact text).toList → ¬ secret.2.Matches part) ∧
      (∀ header ∈ matchesFrom bearerLength? 0 (redact text).toList,
        header = "Bearer ***".toList) ∧
      redact (redact text) = redact text := by
  have hidden := redactChars_hides_secrets plain
  have headers : ∀ header ∈ matchesFrom bearerLength? 0 (redactChars text.toList),
      header = bearerRule.standIn := bearer_settled 0 _
  rw [redact, String.toList_ofList]
  refine ⟨?_, headers, ?_⟩
  · intro secret mem part within found
    have shown := found.shows (finds_secrets secret mem).plain.named within
    rw [hidden secret mem] at shown
    cases shown
  · have alone : ∀ r ∈ rules, r.apply (redactChars text.toList) = redactChars text.toList := by
      rw [rules_eq, List.forall_mem_append, List.forall_mem_map, List.forall_mem_singleton]
      exact ⟨fun secret mem => (finds_secrets secret mem).unchanged (hidden secret mem),
        replaceFrom_eq_drop 0 _ headers⟩
    rw [redact, String.toList_ofList]
    exact congrArg String.ofList (applyAll_eq_self alone)

theorem redact_settled_header :
    redact "pat0123456789abcd.x bEARER KEY\u0131BCDEFGHIJKLMN! recABCDEFGHIJKLMNO" =
        "pat*** Bearer *** rec***O" ∧
      (∀ secret ∈ secrets, ∀ part, part <:+: "pat*** Bearer *** rec***O".toList →
        ¬ secret.2.Matches part) ∧
      (∀ header ∈ matchesFrom bearerLength? 0 "pat*** Bearer *** rec***O".toList,
        header = "Bearer ***".toList) ∧
      redact "pat*** Bearer *** rec***O" = "pat*** Bearer *** rec***O" := by
  have redacted : redact "pat0123456789abcd.x bEARER KEY\u0131BCDEFGHIJKLMN! recABCDEFGHIJKLMNO" =
      "pat*** Bearer *** rec***O" := by decide +kernel
  have plain : kelvin ∉
      "pat0123456789abcd.x bEARER KEY\u0131BCDEFGHIJKLMN! recABCDEFGHIJKLMNO".toList := by decide
  have settled := redact_settled plain
  rw [redacted] at settled
  exact ⟨redacted, settled⟩

end Redaction

end BaseGateway
