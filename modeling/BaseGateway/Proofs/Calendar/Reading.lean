import BaseGateway.Calendar.Reading
import BaseGateway.Proofs.Decimal.Digits

/-!
# Dates that are written and read

A date with a time is read back from the form it is written in, provided that its distance from
Greenwich is nothing or at least a second (`DateTime.read?_chars`): a mere fraction of a second is
written but not read. Whatever text a time was read from, its distance is of that kind
(`DateTime.read?_inSeconds`), so that reading brings every spelling of a time to one form.
-/

namespace BaseGateway.Calendar

open Decimal

/-! ## Numbers of a fixed width -/

theorem isDigit_of_mem_padded {width n : Nat} {c : Char} (h : c ∈ padded width n) :
    c.isDigit = true := by
  rw [padded, List.mem_append, List.mem_replicate] at h
  rcases h with ⟨-, rfl⟩ | digit
  · decide
  · exact isDigit_of_mem_natChars c digit

theorem length_padded (width : Nat) {n : Nat} (positive : 0 < width) (room : n < 10 ^ width) :
    (padded width n).length = width := by
  have short : (natChars n).length ≤ width :=
    (Nat.length_toDigits_le_iff (by decide) positive).mpr room
  simp only [padded, List.length_append, List.length_replicate]
  omega

/-- A number is read back from the width it was padded to. -/
theorem takeDigits?_padded (width : Nat) {n : Nat} (positive : 0 < width)
    (room : n < 10 ^ width) (rest : List Char) :
    takeDigits? width (padded width n ++ rest) = some (n, rest) := by
  have length := length_padded width positive room
  have digits : (padded width n).all Char.isDigit = true := by
    rw [List.all_eq_true]
    exact fun c => isDigit_of_mem_padded
  have value : digitsValue (padded width n) = n := by
    rw [padded, digitsValue_zeros, digitsValue_natChars]
  unfold takeDigits?
  rw [List.take_left' length, List.drop_left' length]
  simp [length, digits, value]

theorem padded_ne_nil (width n : Nat) : padded width n ≠ [] :=
  fun empty => Nat.toDigits_ne_nil (List.append_eq_nil_iff.mp empty).2

/-- A number of a fixed width begins with a digit. -/
theorem exists_padded (width n : Nat) :
    ∃ c digits, padded width n = c :: digits ∧ c.isDigit = true := by
  obtain ⟨c, digits, same⟩ := List.exists_cons_of_ne_nil (padded_ne_nil width n)
  have mem : c ∈ padded width n := by simp [same]
  exact ⟨c, digits, same, isDigit_of_mem_padded mem⟩

theorem padded_append_ne {width n : Nat} {c : Char} (other : c.isDigit = false)
    (rest tail : List Char) : padded width n ++ rest ≠ c :: tail := by
  obtain ⟨d, digits, same, digit⟩ := exists_padded width n
  rw [same, List.cons_append, ne_eq, List.cons.injEq, not_and_or]
  left
  rintro rfl
  rw [digit] at other
  cases other

/-! ## Dates -/

theorem daysInMonth_le (year month : Nat) : daysInMonth year month ≤ 31 := by
  unfold daysInMonth
  split <;> (try split) <;> omega

theorem Date.length_chars (d : Date) : d.chars.length = 10 := by
  obtain ⟨year, month, day, isDay⟩ := d
  obtain ⟨-, years, -, months, -, days⟩ := isDay
  have bound := daysInMonth_le year month
  simp only [chars, List.length_append, List.length_cons]
  rw [length_padded 4 (by decide) (by omega), length_padded 2 (by decide) (by omega),
    length_padded 2 (by decide) (by omega)]

theorem Date.read?_chars (d : Date) : Date.read? d.chars = some d := by
  obtain ⟨year, month, day, isDay⟩ := d
  have ⟨_, years, _, months, _, days⟩ := isDay
  have bound := daysInMonth_le year month
  have readYear := takeDigits?_padded 4 (n := year) (by decide) (by omega)
  have readMonth := takeDigits?_padded 2 (n := month) (by decide) (by omega)
  have readDay := takeDigits?_padded 2 (n := day) (by decide) (by omega) []
  rw [List.append_nil] at readDay
  unfold Date.read? chars
  rw [List.append_assoc, readYear]
  simp only [Option.bind_eq_bind, Option.bind_some, List.cons_append]
  split
  · next r same => exact absurd same (padded_append_ne (by decide) _ _)
  · rw [readMonth]
    simp [readDay, Date.of?, isDay]

theorem Date.drop_chars (d : Date) (rest : List Char) :
    ∃ c tail, (d.chars ++ rest).drop 4 = '-' :: c :: tail ∧ c.isDigit = true := by
  obtain ⟨c, tail, first, digit⟩ := exists_padded 2 d.month
  have years := d.isDay.2.1
  have length := length_padded 4 (n := d.year) (by decide) (by omega)
  refine ⟨c, tail ++ '-' :: padded 2 d.day ++ rest, ?_, digit⟩
  simp only [chars, List.append_assoc]
  rw [List.drop_left' length]
  simp [first]

/-- With a time behind it, a date takes ten characters. -/
theorem dateWidth?_chars (d : Date) (c : Char) (time : List Char) :
    dateWidth? (d.chars ++ c :: time) = some 10 := by
  obtain ⟨m, tail, behind, digit⟩ := d.drop_chars (c :: time)
  have long : (d.chars ++ c :: time).length ≠ 7 := by
    simp only [List.length_append, List.length_cons, d.length_chars]
    omega
  unfold dateWidth?
  rw [behind]
  split
  · next week =>
    cases week
    cases digit
  · rw [if_neg long]
  · next week => cases week
  · next other _ => exact absurd rfl (other _)

/-! ## Times of day -/

section

variable {parts : List Nat} {n left : Nat}

/-- A number that ends a time. -/
theorem readParts?_last (room : n < 100) (colons : Bool) :
    readParts? colons parts (left + 1) (padded 2 n) = some (.ofParts (parts ++ [n]) 0 true) := by
  have read := takeDigits?_padded 2 (by decide) room []
  rw [List.append_nil] at read
  rw [readParts?, read]
  rfl

/-- A number and a colon, and what follows them. -/
theorem readParts?_colon (room : n < 100) {colons : Bool} (first : parts = [] ∨ colons = true)
    {more : List Char} (nonempty : more ≠ []) :
    readParts? colons parts (left + 1) (padded 2 n ++ ':' :: more) =
      readParts? true (parts ++ [n]) left more := by
  have read := takeDigits?_padded 2 (by decide) room (':' :: more)
  rw [readParts?, read]
  rcases first with rfl | rfl
  · simp [nonempty]
  · simp [nonempty]

/-- The seconds and their fraction. -/
theorem readParts?_point (room : n < 100) (behind : parts ≠ []) {micro : Nat}
    (fraction : micro < 1000000) :
    readParts? true parts (left + 1) (padded 2 n ++ '.' :: padded 6 micro) =
      some (.ofParts (parts ++ [n]) micro true) := by
  have read := takeDigits?_padded 2 (by decide) room ('.' :: padded 6 micro)
  have readMicro := takeDigits?_padded 6 (by decide) fraction []
  rw [List.append_nil] at readMicro
  have length := length_padded 6 (by decide) fraction
  rw [readParts?, read]
  simp [padded_ne_nil, behind, readFraction?, length, readMicro]

end

/-- The numbers of a time of day. -/
def ClockReading.ofMicros (micros : Nat) : ClockReading :=
  ⟨micros / 3600000000, micros / 60000000 % 60, micros / 1000000 % 60, micros % 1000000, true⟩

/-- A time of day is read back from the form it is written in, whether noughts were left out or
not. -/
theorem readParts?_clockChars (always : Bool) {micros : Nat} (inDay : micros < dayLength) :
    readParts? false [] 3 (clockChars always micros) = some (.ofMicros micros) := by
  have day : dayLength = 86400000000 := rfl
  set hour := micros / 1000000 / 3600 with hours
  set minute := micros / 1000000 / 60 % 60 with minutes
  set second := micros / 1000000 % 60 with seconds
  set micro := micros % 1000000 with fraction
  have clock : ClockReading.ofMicros micros = ⟨hour, minute, second, micro, true⟩ := by
    simp only [ClockReading.ofMicros, ClockReading.mk.injEq, and_true]
    omega
  have chars : clockChars always micros = padded 2 hour ++ ':' :: (padded 2 minute ++
      ((if always || micros % 60000000 ≠ 0 then ':' :: padded 2 second else []) ++
        if micro ≠ 0 then '.' :: padded 6 micro else [])) := by
    simp [clockChars, hours, minutes, seconds, fraction]
  have someMore : ∀ n rest, padded 2 n ++ rest ≠ [] :=
    fun n rest => List.append_ne_nil_of_left_ne_nil (padded_ne_nil 2 n) rest
  rw [chars, clock, readParts?_colon (by omega) (.inl rfl) (someMore _ _)]
  by_cases exact : micro = 0
  · rw [if_neg (not_not.mpr exact), List.append_nil, exact]
    split
    · rw [readParts?_colon (by omega) (.inr rfl) (padded_ne_nil 2 _), readParts?_last (by omega)]
      rfl
    · next left =>
      have none : second = 0 := by
        simp only [Bool.or_eq_true, decide_eq_true_eq, not_or, not_not] at left
        omega
      rw [List.append_nil, readParts?_last (by omega), none]
      rfl
  · have shown : (always || decide (micros % 60000000 ≠ 0)) = true := by
      simp only [Bool.or_eq_true, decide_eq_true_eq]
      omega
    rw [if_pos shown, if_pos exact, List.cons_append,
      readParts?_colon (by omega) (.inr rfl) (someMore _ _),
      readParts?_point (by omega) (by simp) (by omega)]
    rfl

/-- Not a mere fraction of a second. -/
def Offset.InSeconds (o : Offset) : Prop := o.micros ≠ 0 → 1000000 ≤ o.micros.natAbs

/-- A distance from Greenwich is read back from what stands behind its sign. -/
theorem Offset.read?_chars {o : Offset} (seconds : o.InSeconds) :
    Offset.read? (o.micros < 0) (clockChars false o.micros.natAbs) = some o := by
  obtain ⟨micros, inRange⟩ := o
  have whole : micros ≠ 0 → 1000000 ≤ micros.natAbs := seconds
  have total : (micros.natAbs / 3600000000 * 60 + micros.natAbs / 60000000 % 60) * 60 +
      micros.natAbs / 1000000 % 60 = micros.natAbs / 1000000 := by omega
  have distance : (if micros.natAbs / 1000000 = 0 then (0 : Int)
      else (micros.natAbs / 1000000 : Nat) * 1000000 + (micros.natAbs % 1000000 : Nat)) =
      micros.natAbs := by
    split <;> omega
  have signed : (if decide (micros < 0) = true then -(micros.natAbs : Int) else micros.natAbs) =
      micros := by
    split
    · next west =>
      have below := of_decide_eq_true west
      omega
    · next east =>
      have above : ¬micros < 0 := fun below => east (decide_eq_true below)
      omega
  unfold Offset.read?
  rw [readParts?_clockChars false inRange]
  simp only [ClockReading.ofMicros, Option.bind_eq_bind, Option.bind_some, if_true]
  rw [total, distance, signed, Offset.of?, dif_pos inRange]

theorem ClockReading.micros?_ofMicros {micros : Nat} (inDay : micros < dayLength) :
    (ofMicros micros).micros? = some micros := by
  have day : dayLength = 86400000000 := rfl
  have total : ((micros / 3600000000 * 60 + micros / 60000000 % 60) * 60 +
      micros / 1000000 % 60) * 1000000 + micros % 1000000 = micros := by omega
  unfold ClockReading.micros? ofMicros clockMicros?
  dsimp only
  rw [if_pos (by omega), total]

/-- A time of day is written with digits, colons and a point. -/
theorem mem_clockChars {always : Bool} {micros : Nat} {c : Char}
    (h : c ∈ clockChars always micros) : c.isDigit = true ∨ c = ':' ∨ c = '.' := by
  have digit : ∀ {width n}, c ∈ padded width n → c.isDigit = true := isDigit_of_mem_padded
  simp only [clockChars, List.mem_append, List.mem_cons] at h
  rcases h with ((hour | colon | minute) | second) | fraction
  · exact .inl (digit hour)
  · exact .inr (.inl colon)
  · exact .inl (digit minute)
  · split at second
    · rcases List.mem_cons.mp second with colon | second
      · exact .inr (.inl colon)
      · exact .inl (digit second)
    · cases second
  · split at fraction
    · rcases List.mem_cons.mp fraction with point | fraction
      · exact .inr (.inr point)
      · exact .inl (digit fraction)
    · cases fraction

/-- The distance from Greenwich as it is written behind a time. -/
def offsetChars : Option Offset → List Char
  | none => []
  | some o => o.chars

theorem readTime?_chars {micros : Nat} (inDay : micros < dayLength) {offset : Option Offset}
    (seconds : ∀ o ∈ offset, o.InSeconds) :
    readTime? (clockChars true micros ++ offsetChars offset) = some (micros, offset) := by
  have unsigned : ∀ c ∈ clockChars true micros, (!(c == '+' || c == '-')) = true := by
    intro c mem
    rcases mem_clockChars mem with digit | rfl | rfl
    · rw [Bool.not_eq_true', Bool.or_eq_false_iff, beq_eq_false_iff_ne, beq_eq_false_iff_ne]
      constructor <;> (rintro rfl; cases digit)
    · rfl
    · rfl
  unfold readTime?
  dsimp only
  rw [List.takeWhile_append_of_pos unsigned, List.dropWhile_append_of_pos unsigned]
  have clock := readParts?_clockChars true inDay
  have whole := ClockReading.micros?_ofMicros inDay
  cases offset with
  | none =>
    rw [offsetChars, List.takeWhile_nil, List.dropWhile_nil, List.append_nil, clock]
    simp [ClockReading.ofMicros] at whole ⊢
    simp [whole]
  | some o =>
    have read := Offset.read?_chars (seconds o rfl)
    rw [offsetChars, Offset.chars]
    by_cases west : o.micros < 0
    · simp [west] at read
      simp [west, clock, whole, read]
    · simp [west] at read
      simp [west, clock, whole, read]

theorem DateTime.chars_eq (separator : Char) (t : DateTime) :
    t.chars separator =
      t.date.chars ++ separator :: (clockChars true t.micros ++ offsetChars t.offset) := by
  unfold DateTime.chars offsetChars
  cases t.offset <;> simp

/-- A date with a time is read back, whatever character stands between them. -/
theorem DateTime.read?_chars {t : DateTime} (seconds : ∀ o ∈ t.offset, o.InSeconds)
    (separator : Char) : DateTime.read? (t.chars separator) = some t := by
  have long : ¬(t.chars separator).length < 7 := by
    simp only [chars_eq, List.length_append, List.length_cons, t.date.length_chars]
    omega
  have time := readTime?_chars t.inDay seconds
  unfold DateTime.read?
  rw [if_neg long, chars_eq, dateWidth?_chars]
  simp only [Option.bind_eq_bind, Option.bind_some]
  rw [List.take_left' t.date.length_chars, List.drop_left' t.date.length_chars, Date.read?_chars]
  simp only [Option.bind_some, time]
  rw [DateTime.of?, dif_pos t.inDay]

/-! ## What is read -/

theorem Offset.micros_of? {micros : Int} {o : Offset} (h : Offset.of? micros = some o) :
    o.micros = micros := by
  unfold Offset.of? at h
  split at h
  · rw [← Option.some.inj h]
  · cases h

theorem Offset.read?_inSeconds {west : Bool} {s : List Char} {o : Offset}
    (h : Offset.read? west s = some o) : o.InSeconds := by
  unfold Offset.read? at h
  obtain ⟨c, -, h⟩ := Option.bind_eq_some_iff.mp h
  split at h
  · have same := Offset.micros_of? h
    unfold InSeconds
    rw [same]
    split <;> split <;> omega
  · cases h

theorem readTime?_inSeconds {s : List Char} {micros : Nat} {offset : Option Offset}
    (h : readTime? s = some (micros, offset)) : ∀ o ∈ offset, o.InSeconds := by
  unfold readTime? at h
  obtain ⟨clock, -, h⟩ := Option.bind_eq_some_iff.mp h
  split at h
  · split at h
    · obtain ⟨n, -, h⟩ := Option.bind_eq_some_iff.mp h
      cases h
      simp
    · cases h
  · obtain ⟨n, -, h⟩ := Option.bind_eq_some_iff.mp h
    obtain ⟨o, read, h⟩ := Option.bind_eq_some_iff.mp h
    cases h
    intro o' mem
    cases mem
    exact Offset.read?_inSeconds read

theorem DateTime.offset_of? {date : Date} {micros : Nat} {offset : Option Offset} {t : DateTime}
    (h : DateTime.of? date micros offset = some t) : t.offset = offset := by
  unfold DateTime.of? at h
  split at h
  · rw [← Option.some.inj h]
  · cases h

/-- Whatever text a time is read from, its distance from Greenwich is no mere fraction of a
second. -/
theorem DateTime.read?_inSeconds {s : List Char} {t : DateTime} (h : DateTime.read? s = some t) :
    ∀ o ∈ t.offset, o.InSeconds := by
  unfold DateTime.read? at h
  split at h
  · cases h
  · obtain ⟨width, -, h⟩ := Option.bind_eq_some_iff.mp h
    obtain ⟨date, -, h⟩ := Option.bind_eq_some_iff.mp h
    split at h
    · rw [DateTime.offset_of? h]
      simp
    · obtain ⟨⟨micros, offset⟩, time, h⟩ := Option.bind_eq_some_iff.mp h
      rw [DateTime.offset_of? h]
      exact readTime?_inSeconds time

/-! ## The characters of a time -/

theorem Date.mem_chars {d : Date} {c : Char} (h : c ∈ d.chars) : c.isDigit = true ∨ c = '-' := by
  have digit : ∀ {width n}, c ∈ padded width n → c.isDigit = true := isDigit_of_mem_padded
  simp only [chars, List.mem_append, List.mem_cons] at h
  rcases h with (year | hyphen | month) | hyphen | day
  · exact .inl (digit year)
  · exact .inr hyphen
  · exact .inl (digit month)
  · exact .inr hyphen
  · exact .inl (digit day)

theorem mem_offsetChars {offset : Option Offset} {c : Char} (h : c ∈ offsetChars offset) :
    c.isDigit = true ∨ c ∈ ['-', '+', ':', '.'] := by
  cases offset with
  | none => cases h
  | some o =>
    rw [offsetChars, Offset.chars, List.mem_cons] at h
    rcases h with sign | clock
    · right
      split at sign <;> simp [sign]
    · rcases mem_clockChars clock with digit | rfl | rfl
      · exact .inl digit
      · exact .inr (by decide)
      · exact .inr (by decide)

/-- No letter is written but the one between the date and the time of day. -/
theorem DateTime.mem_chars {t : DateTime} {separator c : Char} (h : c ∈ t.chars separator) :
    c.isDigit = true ∨ c = separator ∨ c ∈ ['-', '+', ':', '.'] := by
  rw [chars_eq, List.mem_append, List.mem_cons, List.mem_append] at h
  rcases h with date | between | clock | offset
  · rcases Date.mem_chars date with digit | rfl
    · exact .inl digit
    · exact .inr (.inr (by decide))
  · exact .inr (.inl between)
  · rcases mem_clockChars clock with digit | rfl | rfl
    · exact .inl digit
    · exact .inr (.inr (by decide))
    · exact .inr (.inr (by decide))
  · rcases mem_offsetChars offset with digit | other
    · exact .inl digit
    · exact .inr (.inr other)

end BaseGateway.Calendar
