import BaseGateway.Proofs.IdKind
import BaseGateway.Redaction

/-!
# What redaction hides

Redaction leaves no ID of the kinds that it looks for (`Redaction.redactChars_hides`). The Kelvin
sign has to be left out: as a form of the letter `k` it gives way to one, and an ID that is looked
for earlier can come about in that way.

* a rule takes away the IDs of its own kind (`Rule.applyFrom_hides`);
* no rule brings in an ID of another kind, since what it writes breaks off with an asterisk or a
  blank before the 14 characters are full (`Rule.applyFrom_shows`).
-/

namespace BaseGateway

open Text

namespace Redaction

/-- How many letters and digits stand at the start. -/
def alnumRun (s : List Char) : Nat := (s.takeWhile Char.isAlphanum).length

/-- Where the stand-in of a rule breaks off: behind letters that stand for as many letters or
digits, and at its end. -/
structure Rule.BreaksOff (r : Rule) : Prop where
  ending : ∃ letters, r.standIn = letters ++ ['*'] ∧ letters.length < 14
  letters : ∃ letters stop rest, r.standIn = letters ++ stop :: rest ∧ isFoldedAlnum stop = false ∧
    ∀ s n, kelvin ∉ s → r.matcher s = some n → letters.length ≤ alnumRun s
  noKelvin : kelvin ∉ r.standIn

theorem isFoldedAlnum_asterisk : isFoldedAlnum '*' = false := by decide

theorem alnumRun_le {k : IdKind} (plain : k.IsPlain) (s : List Char) : alnumRun s ≤ k.run s :=
  length_takeWhile_le plain.alnum s

namespace Rule

variable {r : Rule} {k : IdKind}

/-- The text behind the characters of a match that was replaced. -/
def applyFrom (r : Rule) (skip : Nat) (s : List Char) : List Char :=
  replaceFrom r.matcher r.standIn skip s

theorem applyFrom_match {c : Char} {s : List Char} {n : Nat}
    (h : r.matcher (c :: s) = some (n + 1)) :
    r.applyFrom 0 (c :: s) = r.standIn ++ r.applyFrom n s := replaceFrom_match h

theorem applyFrom_other {c : Char} {s : List Char} (h : ∀ n, r.matcher (c :: s) ≠ some (n + 1)) :
    r.applyFrom 0 (c :: s) = c :: r.applyFrom 0 s := replaceFrom_other h

/-- Either a match is replaced at the start, or its first character stays. -/
theorem applyFrom_cases (r : Rule) (c : Char) (s : List Char) :
    (∃ n, r.matcher (c :: s) = some (n + 1) ∧
      r.applyFrom 0 (c :: s) = r.standIn ++ r.applyFrom n s) ∨
    (∀ n, r.matcher (c :: s) ≠ some (n + 1)) ∧ r.applyFrom 0 (c :: s) = c :: r.applyFrom 0 s := by
  by_cases h : ∃ n, r.matcher (c :: s) = some (n + 1)
  · obtain ⟨n, found⟩ := h
    exact .inl ⟨n, found, applyFrom_match found⟩
  · have none : ∀ n, r.matcher (c :: s) ≠ some (n + 1) := fun n found => h ⟨n, found⟩
    exact .inr ⟨none, applyFrom_other none⟩

variable (breaks : r.BreaksOff) (plain : k.IsPlain)
include breaks plain

/-- No more characters follow a word than before. -/
theorem run_applyFrom {s : List Char} (plainText : kelvin ∉ s) :
    k.run (r.applyFrom 0 s) ≤ k.run s := by
  induction s with
  | nil => exact Nat.le_refl _
  | cons c s ih =>
    rcases r.applyFrom_cases c s with ⟨n, found, replaced⟩ | ⟨-, kept⟩
    · -- The stand-in breaks off behind no more characters than the match began with.
      obtain ⟨letters, stop, rest, standIn, stops, long⟩ := breaks.letters
      have few : k.run letters ≤ letters.length := IdKind.run_le_length letters
      have many := long (c :: s) _ plainText found
      have more := alnumRun_le plain (c :: s)
      rw [replaced, standIn, List.append_assoc, List.cons_append,
        IdKind.run_append_stop (plain.tail_stop stops)]
      omega
    · have rest := ih fun mem => plainText (List.mem_cons_of_mem c mem)
      rw [kept, IdKind.run_cons, IdKind.run_cons]
      split <;> omega

/-- An ID that goes on behind a rule went on before. -/
theorem goesOn_applyFrom {s word : List Char} (plainText : kelvin ∉ s) (part : word ⊆ k.word)
    (h : k.goesOn word (r.applyFrom 0 s) = true) : k.goesOn word s = true := by
  induction word generalizing s with
  | nil =>
    have fewer := run_applyFrom breaks plain plainText
    rw [IdKind.goesOn, decide_eq_true_eq] at h ⊢
    omega
  | cons w word ih =>
    cases s with
    | nil => exact h
    | cons c s =>
      obtain ⟨-, others⟩ := List.cons_subset.mp part
      rcases r.applyFrom_cases c s with ⟨n, -, replaced⟩ | ⟨-, kept⟩
      · -- An ID would have to end before the asterisk, and there is no room for it.
        obtain ⟨letters, standIn, short⟩ := breaks.ending
        rw [replaced, standIn, List.append_assoc, List.singleton_append,
          plain.goesOn_append_stop isFoldedAlnum_asterisk part] at h
        have long := IdKind.length_of_goesOn h
        omega
      · rw [kept, IdKind.goesOn, Bool.and_eq_true] at h
        rw [IdKind.goesOn, Bool.and_eq_true]
        exact ⟨h.1, ih (fun mem => plainText (List.mem_cons_of_mem c mem)) others h.2⟩

/-- A rule does not bring in an ID. -/
theorem applyFrom_shows {s : List Char} (plainText : kelvin ∉ s) (skip : Nat)
    (h : k.shows (r.applyFrom skip s) = true) : k.shows s = true := by
  induction s generalizing skip with
  | nil => exact h
  | cons c s ih =>
    have rest := ih fun mem => plainText (List.mem_cons_of_mem c mem)
    rw [IdKind.shows, Bool.or_eq_true]
    cases skip with
    | succ skip => exact .inr (rest skip h)
    | zero =>
      rcases r.applyFrom_cases c s with ⟨n, -, replaced⟩ | ⟨-, kept⟩
      · obtain ⟨letters, standIn, short⟩ := breaks.ending
        rw [replaced, standIn, List.append_assoc, List.singleton_append,
          plain.shows_append_stop isFoldedAlnum_asterisk, IdKind.shows_short short,
          Bool.false_or] at h
        exact .inr (rest n h)
      · have whole := h
        rw [kept, IdKind.shows, Bool.or_eq_true, ← kept] at whole
        rcases whole with here | later
        · exact .inl (goesOn_applyFrom breaks plain plainText (List.Subset.refl _) here)
        · exact .inr (rest 0 later)

/-- A rule takes away every ID that it finds. -/
theorem applyFrom_hides
    (finds : ∀ s, k.goesOn k.word s = true → ∃ n, r.matcher s = some (n + 1)) {s : List Char}
    (plainText : kelvin ∉ s) (skip : Nat) : k.shows (r.applyFrom skip s) = false := by
  induction s generalizing skip with
  | nil => rfl
  | cons c s ih =>
    have rest := ih fun mem => plainText (List.mem_cons_of_mem c mem)
    cases skip with
    | succ skip => exact rest skip
    | zero =>
      rcases r.applyFrom_cases c s with ⟨n, -, replaced⟩ | ⟨none, kept⟩
      · obtain ⟨letters, standIn, short⟩ := breaks.ending
        rw [replaced, standIn, List.append_assoc, List.singleton_append,
          plain.shows_append_stop isFoldedAlnum_asterisk, IdKind.shows_short short, rest n,
          Bool.or_false]
      · have here : k.goesOn k.word (r.applyFrom 0 (c :: s)) = false := by
          rw [Bool.eq_false_iff]
          intro goes
          obtain ⟨n, found⟩ := finds _
            (goesOn_applyFrom breaks plain plainText (List.Subset.refl _) goes)
          exact none n found
        rw [kept] at here ⊢
        rw [IdKind.shows, here, rest 0, Bool.or_false]

omit breaks plain in
/-- What a rule leaves was there before, or is the rule's own. -/
theorem mem_applyFrom {c : Char} {s : List Char} (skip : Nat) (h : c ∈ r.applyFrom skip s) :
    c ∈ s ∨ c ∈ r.standIn := by
  induction s generalizing skip with
  | nil => cases h
  | cons d s ih =>
    cases skip with
    | succ skip => exact (ih skip h).imp (List.mem_cons_of_mem d) id
    | zero =>
      rcases r.applyFrom_cases d s with ⟨n, -, replaced⟩ | ⟨-, kept⟩
      · rw [replaced] at h
        rcases List.mem_append.mp h with own | later
        · exact .inr own
        · exact (ih n later).imp (List.mem_cons_of_mem d) id
      · rw [kept] at h
        rcases List.mem_cons.mp h with rfl | later
        · exact .inl List.mem_cons_self
        · exact (ih 0 later).imp (List.mem_cons_of_mem d) id

end Rule

/-- The rules one after the other. -/
def applyAll (rs : List Rule) (s : List Char) : List Char := rs.foldl (fun s r => r.apply s) s

theorem mem_applyAll {rs : List Rule} {c : Char} {s : List Char} (h : c ∈ applyAll rs s) :
    c ∈ s ∨ ∃ r ∈ rs, c ∈ r.standIn := by
  induction rs generalizing s with
  | nil => exact .inl h
  | cons r rs ih =>
    rcases ih h with kept | ⟨r', mem, own⟩
    · exact (Rule.mem_applyFrom 0 kept).imp id fun own => ⟨r, List.mem_cons_self, own⟩
    · exact .inr ⟨r', List.mem_cons_of_mem r mem, own⟩

section

variable {rs : List Rule} (breaks : ∀ r ∈ rs, r.BreaksOff) {s : List Char} (plainText : kelvin ∉ s)
  {k : IdKind} (plain : k.IsPlain)
include breaks plainText plain

theorem applyAll_shows (h : k.shows (applyAll rs s) = true) : k.shows s = true := by
  induction rs generalizing s with
  | nil => exact h
  | cons r rs ih =>
    obtain ⟨first, others⟩ := List.forall_mem_cons.mp breaks
    have clean : kelvin ∉ r.apply s := fun mem =>
      (Rule.mem_applyFrom 0 mem).elim plainText first.noKelvin
    exact Rule.applyFrom_shows first plain plainText 0 (ih others clean h)

/-- IDs that one of the rules finds are gone behind all of them. -/
theorem applyAll_hides {r : Rule} (mem : r ∈ rs)
    (finds : ∀ s, k.goesOn k.word s = true → ∃ n, r.matcher s = some (n + 1)) :
    k.shows (applyAll rs s) = false := by
  induction rs generalizing s with
  | nil => cases mem
  | cons first rs ih =>
    obtain ⟨breaksFirst, others⟩ := List.forall_mem_cons.mp breaks
    have clean : kelvin ∉ first.apply s := fun mem =>
      (Rule.mem_applyFrom 0 mem).elim plainText breaksFirst.noKelvin
    rcases List.mem_cons.mp mem with rfl | later
    · have gone := Rule.applyFrom_hides breaksFirst plain finds plainText 0
      rw [Bool.eq_false_iff]
      intro back
      have shown := applyAll_shows others clean plain back
      rw [Rule.apply, replaceMatches, ← Rule.applyFrom, gone] at shown
      cases shown
    · exact ih others clean later

end

/-- The letters of a word stand at the start where a form of it does. -/
theorem length_le_alnumRun {word s rest : List Char}
    (letters : ∀ w ∈ word, w.isAlphanum = true ∧ w ≠ 's' ∧ w ≠ 'i') (plainText : kelvin ∉ s)
    (h : dropWord? word s = some rest) : word.length ≤ alnumRun s := by
  induction word generalizing s with
  | nil => exact Nat.zero_le _
  | cons w word ih =>
    obtain ⟨⟨letter, noS, noI⟩, others⟩ := List.forall_mem_cons.mp letters
    cases s with
    | nil => cases h
    | cons c s =>
      rw [dropWord?] at h
      split at h
      · next folds =>
        have known := isAlphanum_of_fold (eq_of_beq folds) letter
          (fun same => plainText (same ▸ List.mem_cons_self)) noS noI
        have more := ih others (fun mem => plainText (List.mem_cons_of_mem c mem)) h
        rw [alnumRun, List.takeWhile_cons, if_pos known, List.length_cons, List.length_cons]
        exact Nat.succ_le_succ more
      · cases h

/-- A rule for what begins with a word, whose stand-in has as many letters. -/
theorem breaksOff_of_word {r : Rule} (word : List Char)
    (letters : ∀ w ∈ word, w.isAlphanum = true ∧ w ≠ 's' ∧ w ≠ 'i')
    (begins : ∀ s n, r.matcher s = some n → ∃ rest, dropWord? word s = some rest)
    (ending : ∃ letters, r.standIn = letters ++ ['*'] ∧ letters.length < 14)
    (standIn : ∃ letters stop rest, r.standIn = letters ++ stop :: rest ∧
      isFoldedAlnum stop = false ∧ letters.length = word.length)
    (noKelvin : kelvin ∉ r.standIn) : r.BreaksOff := by
  obtain ⟨shown, stop, rest, form, stops, same⟩ := standIn
  refine ⟨ending, ⟨shown, stop, rest, form, stops, fun s n plainText found => ?_⟩, noKelvin⟩
  obtain ⟨behind, dropped⟩ := begins s n found
  rw [same]
  exact length_le_alnumRun letters plainText dropped

theorem dropWord?_of_idLength? {kind s : List Char} {isOpen : Bool} {n : Nat}
    (h : idLength? kind isOpen s = some n) : ∃ rest, dropWord? kind s = some rest := by
  obtain ⟨rest, dropped, -⟩ := Option.bind_eq_some_iff.mp h
  exact ⟨rest, dropped⟩

theorem dropWord?_of_tokenLength? {s : List Char} {n : Nat} (h : tokenLength? s = some n) :
    ∃ rest, dropWord? "pat".toList s = some rest := by
  unfold tokenLength? at h
  split at h
  · next rest => exact ⟨rest, rfl⟩
  · cases h

/-- The stand-in of every rule breaks off before an ID is full. -/
theorem rules_breakOff : ∀ r ∈ rules, r.BreaksOff := by
  refine List.forall_iff_forall_mem.mp ⟨?_, ?_, ?_, ?_, ?_⟩
  · exact breaksOff_of_word "pat".toList (by simp) (fun _ _ => dropWord?_of_tokenLength?)
      ⟨"pat**".toList, rfl, by decide⟩ ⟨"pat".toList, '*', "**".toList, rfl, by decide, rfl⟩
      (by decide)
  · exact breaksOff_of_word "key".toList (by simp) (fun _ _ => dropWord?_of_idLength?)
      ⟨"key**".toList, rfl, by decide⟩ ⟨"key".toList, '*', "**".toList, rfl, by decide, rfl⟩
      (by decide)
  · exact breaksOff_of_word "app".toList (by simp) (fun _ _ => dropWord?_of_idLength?)
      ⟨"app**".toList, rfl, by decide⟩ ⟨"app".toList, '*', "**".toList, rfl, by decide, rfl⟩
      (by decide)
  · exact breaksOff_of_word "rec".toList (by simp) (fun _ _ => dropWord?_of_idLength?)
      ⟨"rec**".toList, rfl, by decide⟩ ⟨"rec".toList, '*', "**".toList, rfl, by decide, rfl⟩
      (by decide)
  · refine breaksOff_of_word "bearer".toList (by simp) (fun s n found => ?_)
      ⟨"Bearer **".toList, rfl, by decide⟩
      ⟨"Bearer".toList, ' ', "***".toList, rfl, by decide, rfl⟩ (by decide)
    obtain ⟨rest, dropped, -⟩ := Option.bind_eq_some_iff.mp found
    exact ⟨rest, dropped⟩

/-- What goes on as an ID begins with a form of the word and 14 forms of letters or digits. -/
theorem dropWord?_of_goesOn {k : IdKind} (plain : k.IsPlain) {word s : List Char}
    (folds : ∀ c, k.fold c ∈ word → foldLetter c = k.fold c) (h : k.goesOn word s = true) :
    ∃ rest, dropWord? word s = some rest ∧ 14 ≤ (rest.takeWhile isFoldedAlnum).length := by
  induction word generalizing s with
  | nil =>
    rw [IdKind.goesOn, decide_eq_true_eq] at h
    exact ⟨s, rfl, Nat.le_trans h (length_takeWhile_le plain.tail s)⟩
  | cons w word ih =>
    cases s with
    | nil => cases h
    | cons c s =>
      rw [IdKind.goesOn, Bool.and_eq_true] at h
      have letter : k.fold c = w := eq_of_beq h.1
      have folded : foldLetter c = w :=
        letter ▸ folds c (letter ▸ List.mem_cons_self)
      obtain ⟨rest, dropped, long⟩ := ih (fun d mem => folds d (List.mem_cons_of_mem w mem)) h.2
      exact ⟨rest, by rw [dropWord?, folded, beq_self_eq_true, if_pos rfl, dropped], long⟩

/-- A rule for IDs finds what goes on as one. -/
theorem idLength?_of_goesOn {k : IdKind} (plain : k.IsPlain)
    (folds : ∀ c, k.fold c ∈ k.word → foldLetter c = k.fold c) (isOpen : Bool) {s : List Char}
    (h : k.goesOn k.word s = true) : ∃ n, idLength? k.word isOpen s = some (n + 1) := by
  obtain ⟨rest, dropped, long⟩ := dropWord?_of_goesOn plain folds h
  obtain ⟨w, word, spelled⟩ := List.exists_cons_of_ne_nil plain.named
  refine ⟨word.length + if isOpen then (rest.takeWhile isFoldedAlnum).length else 14, ?_⟩
  unfold idLength?
  rw [dropped, Option.bind_some]
  dsimp only
  rw [if_pos long, spelled, List.length_cons, Nat.succ_add_eq_add_succ, Nat.add_assoc]

theorem tokenLength?_of_goesOn {s : List Char}
    (h : (exactKind "pat").goesOn "pat".toList s = true) : ∃ n, tokenLength? s = some (n + 1) := by
  obtain ⟨rest, rfl, long⟩ := exactKind_goesOn.mp h
  have found : tokenLength? ('p' :: 'a' :: 't' :: rest) =
      some (17 + ((rest.drop 14).takeWhile fun c => isWordChar c || c == '.').length) := if_pos long
  exact ⟨16 + _, found.trans (congrArg some (Nat.succ_add 16 _))⟩

/-- No token, base or record shows behind redaction. -/
theorem redactChars_hides {s : List Char} (plainText : kelvin ∉ s) :
    ∀ k ∈ idKinds, k.shows (redactChars s) = false := by
  have all (k : IdKind) (plain : k.IsPlain) (r : Rule) (own : r ∈ rules)
      (finds : ∀ s, k.goesOn k.word s = true → ∃ n, r.matcher s = some (n + 1)) :
      k.shows (redactChars s) = false := applyAll_hides rules_breakOff plainText plain own finds
  obtain ⟨token, base, record⟩ := List.forall_iff_forall_mem.mpr idKinds_isPlain
  refine forall_idKinds ?_ ?_ ?_
  · exact all _ token tokenRule (.head _) fun s => tokenLength?_of_goesOn
  · exact all _ base baseRule (.tail _ (.tail _ (.head _))) fun s => idLength?_of_goesOn base
      (by simp [exactKind, foldLetter]) false
  · exact all _ record recordRule (.tail _ (.tail _ (.tail _ (.head _)))) fun s =>
      idLength?_of_goesOn record (by simp [exactKind, foldLetter]) false

/-- With a Kelvin sign a token can come about: the key that it begins is replaced. -/
example : (exactKind "pat").shows
    (redactChars "patABCDEFGHIJK\u212AeyABCDEFGHIJKLMN".toList) = true := by
  decide

end Redaction

end BaseGateway
