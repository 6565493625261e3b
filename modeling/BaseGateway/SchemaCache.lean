import BaseGateway.Value.Basic

/-!
# Cached schemas

What is known about the tables of each base. A table has one schema at a time; a new one takes the
place of the old.
-/

namespace BaseGateway

/-- The schema of a table of a base. The name of a table is whatever the service calls it. -/
structure CachedSchema (σ : Type) where
  base : String
  table : Value
  schema : σ

abbrev SchemaCache (σ : Type) := List (CachedSchema σ)

def Value.isNaN : Value → Bool
  | .float x => x.isNaN
  | _ => false

/-- Are two values the name of one table? What is not a number equals nothing, itself included, but in
the documents of the service it is one value, and so it is one name. -/
def Value.sameName (a b : Value) : Bool := a.sameKey b || (a.isNaN && b.isNaN)

/-- Is this the schema of a certain table? -/
def CachedSchema.isOf {σ : Type} (base : String) (table : Value) (c : CachedSchema σ) : Bool :=
  c.base == base && c.table.sameName table

namespace SchemaCache

variable {σ : Type}

def get? (base : String) (table : Value) (cache : SchemaCache σ) : Option σ :=
  (cache.find? (CachedSchema.isOf base table)).map (·.schema)

def set (base : String) (table : Value) (schema : σ) : SchemaCache σ → SchemaCache σ
  | [] => [⟨base, table, schema⟩]
  | c :: rest =>
    if c.isOf base table then { c with schema } :: rest else c :: set base table schema rest

/-- Drops the schema of a table. -/
def dropTable (base : String) (table : Value) (cache : SchemaCache σ) : SchemaCache σ :=
  cache.filter fun c => !c.isOf base table

/-- Drops the schemas of a base. -/
def dropBase (base : String) (cache : SchemaCache σ) : SchemaCache σ :=
  cache.filter fun c => c.base != base

/-- The tables of a base, in the order in which they came to be known. -/
def tables (base : String) (cache : SchemaCache σ) : List Value :=
  (cache.filter fun c => c.base == base).map (·.table)

end SchemaCache

end BaseGateway
