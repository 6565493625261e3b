import BaseGateway.SchemaCache

/-!
# What is looked up in the cache

A schema is found under the base and the table that it was set for, and a change leaves alone
whatever has another key. Tables go by their names, so one of the two keys is always a text, and
texts are the same key only when they are equal.

Whatever is changed about the tables of a base, what is cached of the other bases is the same, entry
by entry (`SchemaCache.KeptAt.others`).
-/

namespace BaseGateway

theorem Value.sameKey_text {v : Value} {s : String} : v.sameKey (.text s) = true ↔ v = .text s := by
  cases v <;> simp [sameKey, number?]

theorem Value.text_sameKey {s : String} {v : Value} :
    (Value.text s).sameKey v = true ↔ v = .text s := by
  cases v with
  | text t =>
    simp only [sameKey, beq_iff_eq, text.injEq]
    exact eq_comm
  | _ => simp [sameKey, number?]

theorem Value.sameName_text {v : Value} {s : String} :
    v.sameName (.text s) = true ↔ v = .text s := by
  simp [sameName, isNaN, sameKey_text]

theorem Value.text_sameName {s : String} {v : Value} :
    (Value.text s).sameName v = true ↔ v = .text s := by
  simp [sameName, isNaN, text_sameKey]

variable {σ : Type} {base base' table : String} {key : Value}

theorem CachedSchema.isOf_text {c : CachedSchema σ} :
    c.isOf base (.text table) = true ↔ c.base = base ∧ c.table = .text table := by
  simp [isOf, Value.sameName_text]

theorem CachedSchema.base_eq {c : CachedSchema σ} (own : c.isOf base key = true) :
    c.base = base := by
  simp only [isOf, Bool.and_eq_true, beq_iff_eq] at own
  exact own.1

/-- What goes by the name of a table goes by no other key. -/
theorem CachedSchema.isOf_other {c : CachedSchema σ} (named : c.isOf base' (.text table) = true)
    (other : ¬(base = base' ∧ key = .text table)) : c.isOf base key = false := by
  obtain ⟨inBase, name⟩ := isOf_text.mp named
  rw [Bool.eq_false_iff]
  intro same
  simp only [isOf, inBase, name, Bool.and_eq_true, beq_iff_eq, Value.text_sameName] at same
  exact other ⟨same.1.symm, same.2⟩

namespace SchemaCache

variable {cache : SchemaCache σ} {schema : σ}

theorem get?_cons (c : CachedSchema σ) (cache : SchemaCache σ) :
    SchemaCache.get? base key (c :: cache) =
      if c.isOf base key then some c.schema else cache.get? base key := by
  unfold get?
  rw [List.find?_cons]
  cases c.isOf base key <;> rfl

theorem get?_set_self : (cache.set base (.text table) schema).get? base (.text table) =
    some schema := by
  induction cache with
  | nil =>
    have own : (⟨base, .text table, schema⟩ : CachedSchema σ).isOf base (.text table) = true :=
      CachedSchema.isOf_text.mpr ⟨rfl, rfl⟩
    rw [set, get?_cons, if_pos own]
  | cons c rest ih =>
    rw [set]
    cases own : c.isOf base (.text table) with
    | true =>
      have named : ({ c with schema } : CachedSchema σ).isOf base (.text table) = true := own
      rw [if_pos rfl, get?_cons, if_pos named]
    | false => rw [if_neg Bool.false_ne_true, get?_cons, own, if_neg Bool.false_ne_true, ih]

/-- Where nothing goes by both keys, setting the one does not show under the other. -/
theorem get?_set_apart {key' : Value}
    (apart : ∀ c : CachedSchema σ, c.isOf base' key' = true → c.isOf base key = false)
    (new : (⟨base', key', schema⟩ : CachedSchema σ).isOf base key = false) :
    (cache.set base' key' schema).get? base key = cache.get? base key := by
  induction cache with
  | nil =>
    rw [set, get?_cons, new]
    rfl
  | cons c rest ih =>
    rw [set]
    cases own : c.isOf base' key' with
    | true =>
      have kept : ({ c with schema } : CachedSchema σ).isOf base key = false := apart c own
      rw [if_pos rfl, get?_cons, get?_cons, kept, apart c own]
      rfl
    | false => rw [if_neg Bool.false_ne_true, get?_cons, get?_cons, ih]

/-- Setting the schema of a table leaves other keys alone. -/
theorem get?_set_table (other : ¬(base = base' ∧ key = .text table)) :
    (cache.set base' (.text table) schema).get? base key = cache.get? base key :=
  get?_set_apart (fun _ own => CachedSchema.isOf_other own other)
    (CachedSchema.isOf_other (CachedSchema.isOf_text.mpr ⟨rfl, rfl⟩) other)

/-- Setting another key leaves the schema of a table alone. -/
theorem get?_table_set (other : ¬(base' = base ∧ key = .text table)) :
    (cache.set base' key schema).get? base (.text table) = cache.get? base (.text table) := by
  have apart (c : CachedSchema σ) (own : c.isOf base' key = true) :
      c.isOf base (.text table) = false := by
    rw [Bool.eq_false_iff]
    intro named
    rw [CachedSchema.isOf_other named other] at own
    exact Bool.false_ne_true own
  refine get?_set_apart apart ?_
  rw [Bool.eq_false_iff]
  intro named
  exact other (CachedSchema.isOf_text.mp named)

/-- What a filter keeps of a key is found as before. -/
theorem get?_filter_keep {p : CachedSchema σ → Bool}
    (keep : ∀ c : CachedSchema σ, c.isOf base key = true → p c = true) :
    SchemaCache.get? base key (cache.filter p) = cache.get? base key := by
  have same : ∀ c : CachedSchema σ, decide (p c = true ∧ c.isOf base key = true) =
      c.isOf base key := by
    intro c
    by_cases own : c.isOf base key = true
    · simp [own, keep c own]
    · simp [own]
  unfold get?
  rw [List.find?_filter]
  simp only [same]

/-- What a filter drops of a key is no longer found. -/
theorem get?_filter_drop {p : CachedSchema σ → Bool}
    (drop : ∀ c : CachedSchema σ, c.isOf base key = true → p c = false) :
    SchemaCache.get? base key (cache.filter p) = none := by
  unfold get?
  rw [List.find?_eq_none.mpr, Option.map_none]
  intro c mem own
  obtain ⟨-, kept⟩ := List.mem_filter.mp mem
  rw [drop c own] at kept
  exact Bool.false_ne_true kept

theorem get?_dropBase_self : (cache.dropBase base).get? base key = none :=
  get?_filter_drop fun c own => by simp [CachedSchema.base_eq own]

theorem get?_dropBase (other : base ≠ base') :
    (cache.dropBase base').get? base key = cache.get? base key :=
  get?_filter_keep fun c own => by simp [CachedSchema.base_eq own, other]

theorem get?_dropTable_self :
    (cache.dropTable base (.text table)).get? base (.text table) = none :=
  get?_filter_drop fun c own => by simp [own]

theorem get?_dropTable (other : ¬(base = base' ∧ key = .text table)) :
    (cache.dropTable base' (.text table)).get? base key = cache.get? base key := by
  refine get?_filter_keep fun c own => ?_
  cases named : c.isOf base' (.text table) with
  | true =>
    rw [CachedSchema.isOf_other named other] at own
    exact own
  | false => rfl

/-! ## Changes for one base -/

/-- A property of caches that every change for a base keeps. -/
structure KeptAt (base : String) (I : SchemaCache σ → Prop) : Prop where
  set : ∀ cache key schema, I cache → I (cache.set base key schema)
  dropTable : ∀ cache key, I cache → I (cache.dropTable base key)
  dropBase : ∀ cache, I cache → I (cache.dropBase base)

theorem KeptAt.any : KeptAt base fun _ : SchemaCache σ => True :=
  ⟨fun _ _ _ _ => trivial, fun _ _ _ => trivial, fun _ _ => trivial⟩

theorem dropBase_set (cache : SchemaCache σ) (key : Value) (schema : σ) :
    (cache.set base key schema).dropBase base = cache.dropBase base := by
  induction cache with
  | nil => simp [set, dropBase]
  | cons c rest ih =>
    unfold dropBase at ih ⊢
    rw [set]
    cases own : c.isOf base key with
    | true => simp [CachedSchema.base_eq own]
    | false => rw [if_neg Bool.false_ne_true, List.filter_cons, List.filter_cons, ih]

theorem dropBase_dropTable (cache : SchemaCache σ) (key : Value) :
    (cache.dropTable base key).dropBase base = cache.dropBase base := by
  unfold dropBase dropTable
  rw [List.filter_filter]
  refine List.filter_congr fun c _ => ?_
  cases own : c.isOf base key with
  | true => simp [CachedSchema.base_eq own]
  | false => simp

theorem dropBase_dropBase (cache : SchemaCache σ) :
    (cache.dropBase base).dropBase base = cache.dropBase base := by
  simp [dropBase]

/-- A change for a base leaves what is cached of other bases. -/
theorem KeptAt.others (others : SchemaCache σ) : KeptAt base (·.dropBase base = others) :=
  ⟨fun cache key schema same => (dropBase_set cache key schema).trans same,
    fun cache key same => (dropBase_dropTable cache key).trans same,
    fun cache same => (dropBase_dropBase cache).trans same⟩

theorem tables_dropBase (cache : SchemaCache σ) : (cache.dropBase base).tables base = [] := by
  simp [tables, dropBase]

/-- A table that is known already keeps its place, and a new one is the last. -/
theorem tables_set (cache : SchemaCache σ) (key : Value) (schema : σ) :
    (cache.set base key schema).tables base =
      if (cache.tables base).any (·.sameName key) then cache.tables base
      else cache.tables base ++ [key] := by
  induction cache with
  | nil => simp [set, tables]
  | cons c rest ih =>
    unfold tables at ih ⊢
    rw [set]
    cases own : c.isOf base key with
    | true =>
      simp only [CachedSchema.isOf, Bool.and_eq_true] at own
      simp [own.1, own.2]
    | false =>
      rw [if_neg Bool.false_ne_true, List.filter_cons, List.filter_cons]
      cases here : c.base == base with
      | true =>
        have other : c.table.sameName key = false := by simpa [CachedSchema.isOf, here] using own
        rw [if_pos rfl, if_pos rfl, List.map_cons, List.map_cons, ih, List.any_cons, other,
          Bool.false_or]
        split <;> rfl
      | false =>
        rw [if_neg Bool.false_ne_true, if_neg Bool.false_ne_true, ih]

/-- Sets the schemas of several tables, one after the other. -/
def setAll (base : String) (described : List (Value × σ)) (cache : SchemaCache σ) :
    SchemaCache σ :=
  described.foldl (fun cache d => cache.set base d.1 d.2) cache

/-- Tables that are not among those that are set keep their schemas. -/
theorem get?_setAll {described : List (Value × σ)}
    (others : ∀ d ∈ described, ¬(base' = base ∧ d.1 = .text table)) (cache : SchemaCache σ) :
    (cache.setAll base' described).get? base (.text table) = cache.get? base (.text table) := by
  unfold setAll
  induction described generalizing cache with
  | nil => rfl
  | cons d described ih =>
    obtain ⟨first, rest⟩ := List.forall_mem_cons.mp others
    rw [List.foldl_cons, ih rest, get?_table_set first]

/-- Behind the tables that are known come the new ones, each with the first of its descriptions. -/
theorem tables_setAll (described : List (Value × σ)) (cache : SchemaCache σ) :
    (cache.setAll base described).tables base =
      List.eraseDupsBy.loop (fun name known => known.sameName name) (described.map Prod.fst)
        (cache.tables base).reverse := by
  unfold setAll
  induction described generalizing cache with
  | nil => exact (List.reverse_reverse _).symm
  | cons d described ih =>
    rw [List.foldl_cons, ih, tables_set, List.map_cons, List.eraseDupsBy.loop, List.any_reverse]
    cases (cache.tables base).any (·.sameName d.1) with
    | true => rfl
    | false => rw [if_neg Bool.false_ne_true, List.reverse_append]; rfl

/-- Of a base that was not known the tables are known that were set, each once. -/
theorem tables_setAll_dropBase (described : List (Value × σ)) (cache : SchemaCache σ) :
    ((cache.dropBase base).setAll base described).tables base =
      (described.map Prod.fst).eraseDupsBy fun name known => known.sameName name := by
  rw [tables_setAll, tables_dropBase]
  rfl

end SchemaCache

end BaseGateway
