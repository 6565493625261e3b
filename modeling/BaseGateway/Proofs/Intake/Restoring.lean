import Mathlib.Data.List.Pairwise
import BaseGateway.Proofs.Decimal.Finite
import BaseGateway.Proofs.Intake.Bounds
import BaseGateway.Proofs.SchemaCache

/-!
# What was read is read again

What a part was read as can be written as a value from which the same is read again (`Restores`),
although a number may have come as a text and a truth value as a word. An argument is found again
under its label where the arguments have labels that are apart, so that requests which are written
out in full (`Arguments.holds_plain`) or echoed (`Arguments.holds_echo`) are accepted.
-/

namespace BaseGateway

namespace Intake

open Checked

variable {α : Type}

/-- Whatever a part is read as, the same is read from the value that is written for it. -/
def Restores (part : Value → Checked α) (write : α → Value) : Prop :=
  ∀ v, (part v).Every fun x => part (write x) = .valid x

theorem text_every (v : Value) : (text v).Every fun s => v = .text s := by
  intro s same
  cases v with
  | text t => exact congrArg Value.text (Checked.valid.inj same)
  | _ => cases same

/-- A text that passes a check passes it again. -/
theorem restores_checked {next : String → Checked String}
    (same : ∀ s, (next s).Every fun t => t = s) :
    Restores (fun v => (text v).check next) .text := by
  intro v
  refine Every.check (text_every v) fun s _ t passed => ?_
  obtain rfl := same s t passed
  exact passed

theorem text_restores : Restores text .text := fun _ _ _ => rfl

theorem textUpTo_restores (limit : Nat) : Restores (textUpTo limit) .text := by
  apply restores_checked
  intro s
  split
  · exact .valid rfl
  · exact .issue _

theorem name_restores (kind : String) : Restores (name kind) .text := by
  apply restores_checked
  intro s
  split
  · exact .issue _
  · split
    · exact .issue _
    · split
      · exact .issue _
      · exact .valid rfl

theorem id_restores (kind : String) : Restores (id kind) .text := by
  apply restores_checked
  intro s
  split
  · exact .valid rfl
  · exact .issue _

theorem restores_integer {next : Int → Checked Int} (same : ∀ n, (next n).Every fun m => m = n) :
    Restores (fun v => (integer v).check next) .int := by
  intro v
  refine Every.check (Every.any _) fun n _ m passed => ?_
  obtain rfl := same n m passed
  exact passed

theorem positiveUpTo_restores (high : Int) : Restores (positiveUpTo high) .int := by
  apply restores_integer
  intro n
  split
  · exact .issue _
  · split
    · exact .issue _
    · exact .valid rfl

theorem truth_again (b : Bool) : truth (.bool b) = .valid b := rfl

/-- What is read as a finite number is one, also where it came as an integer. -/
theorem finiteNumber_finite (v : Value) : (finiteNumber v).Every fun x => x.isFinite = true := by
  have checked (x : Float) : (if x.isFinite then Checked.valid x
      else .issue "Input should be a finite number").Every fun x => x.isFinite = true := by
    split
    · next finite => exact .valid finite
    · exact .issue _
  unfold finiteNumber
  dsimp only
  split
  · exact checked _
  · next b =>
    have small : b.toInt.natAbs ≤ 1 := by cases b <;> decide
    exact .valid (Decimal.floatOfInt_isFinite
      (Nat.lt_of_le_of_lt small Decimal.one_lt_beyondDoubles))
  · split
    · next small => exact .valid (Decimal.floatOfInt_isFinite small)
    · exact .issue _
  · split
    · exact checked _
    · exact .issue _
  · exact .issue _

theorem finiteNumber_restores : Restores finiteNumber .float :=
  fun v x read => if_pos (finiteNumber_finite v x read)

theorem items_restores {part : Value → Checked α} {write : α → Value} (h : Restores part write)
    (vs : List Value) (index : Nat) : (items part index vs).Every fun ys =>
      ∀ start, items part start (ys.map write) = .valid ys := by
  induction vs generalizing index with
  | nil => exact .valid fun _ => rfl
  | cons v rest ih =>
    refine Every.seq (Every.map ((h v).under _) fun y first ys again start => ?_) (ih (index + 1))
    rw [List.map_cons, items, first, again]
    rfl

theorem listOf_restores {part : Value → Checked α} {write : α → Value} (h : Restores part write)
    (low high : Nat) : Restores (listOf part low high) fun ys => .list (ys.map write) := by
  intro v
  unfold listOf
  split
  · next vs =>
    dsimp only
    split
    · exact .issue _
    · next few =>
      refine ((items_length part vs 0).and (items_restores h vs 0)).check fun ys restored => ?_
      obtain ⟨count, again⟩ := restored
      split
      · exact .issue _
      · next many =>
        refine .valid ?_
        rw [List.length_map, count, if_neg few, again]
        exact if_neg many
  · exact .issue _

/-- Texts that were read as a list of a kind. -/
theorem texts_restores {part : Value → Checked String} (h : Restores part .text)
    (low high : Nat) : Restores (listOf part low high) Value.ofTexts := listOf_restores h low high

/-- What may be missing was read if it is there. -/
theorem given_restores {α : Type} {part : Value → Checked α} {write : α → Value}
    (h : Restores part write) (entries : Entries) (l : Label) :
    (given entries l part).Every fun o => ∀ x ∈ o, part (write x) = .valid x :=
  given_any entries l h

/-- What may be missing is read again where it is there. -/
theorem optional_again {part : Value → Checked α} {write : α → Value}
    (solid : ∀ x, (write x).isNull = false) {o : Option α}
    (each : ∀ x ∈ o, part (write x) = .valid x) :
    optional part ((o.map write).getD .null) = .valid o := by
  cases o with
  | none => rfl
  | some x =>
    rw [Option.map_some, Option.getD_some, optional, solid, each x rfl]
    rfl

/-- Values that are read one by one are read together. -/
theorem items_again {part : Value → Checked α} {write : α → Value} {ys : List α}
    (each : ∀ y ∈ ys, part (write y) = .valid y) (index : Nat) :
    items part index (ys.map write) = .valid ys := by
  induction ys generalizing index with
  | nil => rfl
  | cons y rest ih =>
    rw [List.forall_mem_cons] at each
    rw [List.map_cons, items, each.1, ih each.2 (index + 1)]
    rfl

theorem listOf_again {part : Value → Checked α} {write : α → Value} {low high : Nat} {ys : List α}
    (many : low ≤ ys.length) (few : ys.length ≤ high)
    (each : ∀ y ∈ ys, part (write y) = .valid y) :
    listOf part low high (.list (ys.map write)) = .valid ys := by
  unfold listOf
  dsimp only
  rw [List.length_map, if_neg (Nat.not_lt.mpr few), items_again each]
  exact if_neg (Nat.not_lt.mpr many)

end Intake

namespace Label

/-- Two labels have no spelling in common. -/
def Apart (l m : Label) : Prop :=
  l.camel ≠ m.camel ∧ l.camel ≠ m.snake ∧ l.snake ≠ m.camel ∧ l.snake ≠ m.snake

instance (l m : Label) : Decidable (l.Apart m) := inferInstanceAs (Decidable (_ ∧ _))

theorem Apart.symm {l m : Label} (h : l.Apart m) : m.Apart l :=
  ⟨h.1.symm, h.2.2.1.symm, h.2.1.symm, h.2.2.2.symm⟩

/-- Is this the value of an argument? An argument that is null may be missing. -/
def Holds (l : Label) (v : Value) (entries : Entries) : Prop :=
  (∃ key, l.find? entries = some (key, v)) ∨ v.isNull = true ∧ l.find? entries = none

variable {α : Type} {l : Label} {v : Value} {entries : Entries} {part : Value → Checked α}

theorem Holds.required (h : l.Holds v entries) (solid : v.isNull = false) {x : α}
    (read : part v = .valid x) : Intake.required entries l part = .valid x := by
  unfold Intake.required
  rcases h with ⟨key, found⟩ | ⟨null, -⟩
  · rw [found]
    dsimp only
    rw [read]
    rfl
  · rw [solid] at null
    cases null

theorem Holds.withDefault (h : l.Holds v entries) (solid : v.isNull = false) {x : α}
    (read : part v = .valid x) (otherwise : α) :
    Intake.withDefault entries l part otherwise = .valid x := by
  unfold Intake.withDefault
  rcases h with ⟨key, found⟩ | ⟨null, -⟩
  · rw [found]
    dsimp only
    rw [read]
    rfl
  · rw [solid] at null
    cases null

theorem Holds.given (h : l.Holds v entries) {o : Option α}
    (read : Intake.optional part v = .valid o) : Intake.given entries l part = .valid o := by
  unfold Intake.given Intake.withDefault
  rcases h with ⟨key, found⟩ | ⟨null, missing⟩
  · rw [found]
    dsimp only
    rw [read]
    rfl
  · unfold Intake.optional at read
    rw [if_pos null] at read
    rw [missing]
    exact read

/-- A label of one word is found under that word. -/
theorem Holds.get?_word {s : String} (h : (word s).Holds v entries) (solid : v.isNull = false) :
    entries.get? s = some v := by
  rcases h with ⟨key, found⟩ | ⟨null, -⟩
  · unfold find? word at found
    dsimp only at found
    cases there : entries.get? s with
    | some w =>
      rw [there] at found
      exact congrArg some (Prod.mk.inj (Option.some.inj found)).2
    | none =>
      rw [there] at found
      cases found
  · rw [solid] at null
    cases null

end Label

/-- The entry in front hides the others under its key. -/
theorem Entries.get?_cons (key s : String) (v : Value) (entries : Entries) :
    get? ((.text s, v) :: entries) key = if s == key then some v else entries.get? key := by
  unfold get? find?
  rw [List.find?_cons]
  have same : (Value.text s).sameKey (.text key) = (s == key) := by
    rw [Bool.eq_iff_iff, Value.sameKey_text, beq_iff_eq, Value.text.injEq]
  dsimp only
  rw [same]
  cases s == key <;> rfl

namespace Arguments

/-- The entries of arguments under their plain spellings. -/
def plainEntries (args : Arguments) : Entries := args.map fun arg => (.text arg.1.snake, arg.2)

theorem plain_eq (args : Arguments) : args.plain = .dictionary args.plainEntries := by
  unfold plain Value.record plainEntries
  rw [List.map_map]
  rfl

/-- The entries of the arguments that are there under the spellings that count. -/
def echoEntries (args : Arguments) : Entries :=
  (args.filter fun arg => !arg.2.isNull).map fun arg => (.text arg.1.camel, arg.2)

theorem echo_eq (args : Arguments) : args.echo = .dictionary args.echoEntries := by
  unfold echo Value.record echoEntries
  rw [List.map_map]
  rfl

/-- The entries of arguments, each under one of its spellings. -/
def spelled (spell : Label → String) (args : Arguments) : Entries :=
  args.map fun arg => (.text (spell arg.1), arg.2)

section Spelled

variable {spell : Label → String} {args : Arguments}

/-- What no label spells like this is not found. -/
theorem get?_spelled_none {key : String} (other : ∀ arg ∈ args, spell arg.1 ≠ key) :
    (spelled spell args).get? key = none := by
  induction args with
  | nil => rfl
  | cons arg rest ih =>
    rw [List.forall_mem_cons] at other
    unfold spelled at ih ⊢
    rw [List.map_cons, Entries.get?_cons, if_neg (by simpa using other.1), ih other.2]

theorem spelled_cons (arg : Label × Value) (rest : Arguments) :
    spelled spell (arg :: rest) = (.text (spell arg.1), arg.2) :: spelled spell rest := rfl

variable (either : ∀ l, spell l = l.camel ∨ spell l = l.snake)
include either

/-- A spelling of one label is no spelling of a label apart from it. -/
theorem spell_apart {l m : Label} (apart : l.Apart m) :
    spell l ≠ m.camel ∧ spell l ≠ m.snake := by
  obtain ⟨camel, camel', snake, snake'⟩ := apart
  rcases either l with same | same
  · exact ⟨same ▸ camel, same ▸ camel'⟩
  · exact ⟨same ▸ snake, same ▸ snake'⟩

/-- An argument that is not there is not found. -/
theorem find?_none {l : Label} (away : ∀ arg ∈ args, arg.1.Apart l) :
    l.find? (spelled spell args) = none := by
  unfold Label.find?
  rw [get?_spelled_none fun arg mem => (spell_apart either (away arg mem)).1,
    get?_spelled_none fun arg mem => (spell_apart either (away arg mem)).2]
  rfl

/-- The first argument is found under its label. -/
theorem find?_first {arg : Label × Value} {rest : Arguments}
    (away : ∀ other ∈ rest, other.1.Apart arg.1) :
    ∃ key, arg.1.find? (spelled spell (arg :: rest)) = some (key, arg.2) := by
  have others : (spelled spell rest).get? arg.1.camel = none :=
    get?_spelled_none fun other mem => (spell_apart either (away other mem)).1
  unfold Label.find?
  rw [spelled_cons, Entries.get?_cons, Entries.get?_cons, others]
  by_cases same : spell arg.1 = arg.1.camel
  · exact ⟨arg.1.camel, by simp [same]⟩
  · have snake : spell arg.1 = arg.1.snake := (either arg.1).resolve_left same
    rw [snake] at same ⊢
    exact ⟨arg.1.snake, by simp [same]⟩

/-- An argument in front does not matter to a label that is apart from its own. -/
theorem find?_rest {l : Label} {arg : Label × Value} (apart : arg.1.Apart l) (rest : Arguments) :
    l.find? (spelled spell (arg :: rest)) = l.find? (spelled spell rest) := by
  obtain ⟨camel, snake⟩ := spell_apart either apart
  unfold Label.find?
  rw [spelled_cons, Entries.get?_cons, Entries.get?_cons, if_neg (by simpa using camel),
    if_neg (by simpa using snake)]

/-- Every argument is found under its label where the labels are apart. -/
theorem find?_spelled (apart : args.Pairwise fun arg other => arg.1.Apart other.1) :
    ∀ arg ∈ args, ∃ key, arg.1.find? (spelled spell args) = some (key, arg.2) := by
  induction args with
  | nil => exact List.forall_mem_nil _
  | cons first rest ih =>
    obtain ⟨away, apart⟩ := List.pairwise_cons.mp apart
    intro arg mem
    rcases List.mem_cons.mp mem with rfl | mem
    · exact find?_first either fun other inside => (away other inside).symm
    · rw [find?_rest either (away arg mem)]
      exact ih apart arg mem

end Spelled

variable {args : Arguments}

/-- Every argument is found again under its label. -/
theorem holds_plain (apart : (args.map Prod.fst).Pairwise Label.Apart) :
    ∀ arg ∈ args, arg.1.Holds arg.2 args.plainEntries := by
  have spelling : ∀ l : Label, l.snake = l.camel ∨ l.snake = l.snake := fun _ => .inr rfl
  exact fun arg mem => .inl (find?_spelled spelling (List.pairwise_map.mp apart) arg mem)

/-- Every argument that was there is found again under its label, and no other one. -/
theorem holds_echo (apart : (args.map Prod.fst).Pairwise Label.Apart) :
    ∀ arg ∈ args, arg.1.Holds arg.2 args.echoEntries := by
  have pairs := List.pairwise_map.mp apart
  have spelling : ∀ l : Label, l.camel = l.camel ∨ l.camel = l.snake := fun _ => .inl rfl
  intro arg mem
  cases null : arg.2.isNull with
  | false =>
    have kept : arg ∈ args.filter fun arg => !arg.2.isNull :=
      List.mem_filter.mpr ⟨mem, by rw [null]; rfl⟩
    exact .inl (find?_spelled spelling (pairs.filter _) arg kept)
  | true =>
    -- The arguments that are there are others than this one, so their labels are apart from its.
    refine .inr ⟨null, find?_none spelling fun other kept => ?_⟩
    obtain ⟨inside, solid⟩ := List.mem_filter.mp kept
    have symm : Std.Symm fun arg other : Label × Value => arg.1.Apart other.1 :=
      ⟨fun _ _ apart => apart.symm⟩
    refine pairs.forall inside mem fun same => ?_
    rw [same, null] at solid
    cases solid

end Arguments

end BaseGateway
