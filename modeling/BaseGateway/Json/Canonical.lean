import BaseGateway.Json.Writer

/-!
# One text for equal dictionaries

The order of entries does not tell dictionaries apart. A value whose entries are sorted on every
level is written the same however its entries came in. As in writing, there is no bound on how deep
values may be nested: the stack of a running program is not part of the model.
-/

namespace BaseGateway.Json

/-- Does the first key of one dictionary stand before the second, or the two together? `none` when
they have no order: only texts compare with texts, and numbers with numbers. -/
def keyLe? (a b : Value) : Option Bool :=
  match a, b with
  | .text s, .text t => some (s ≤ t)
  | a, b =>
    match a.number?, b.number? with
    | some m, some n => (m.compare? n).map (· != .gt)
    | _, _ => none

/-- The entries in the order of their keys, when these have an order. -/
def sortEntries (entries : Entries) : Except Fault Entries :=
  match entries with
  | [] | [_] => .ok entries
  | first :: _ =>
    if entries.all fun entry => (keyLe? first.1 entry.1).isSome then
      .ok (entries.mergeSort fun a b => (keyLe? a.1 b.1).getD true)
    else .error .unorderedKeys

mutual

/-- The value with its entries sorted on every level. -/
def sortKeys : Value → Except Fault Value
  | .list items => do return .list (← sortItems items)
  | .dictionary entries => do return .dictionary (← sortEntries (← sortEach entries))
  | v => .ok v

def sortItems : List Value → Except Fault (List Value)
  | [] => .ok []
  | v :: rest => do return (← sortKeys v) :: (← sortItems rest)

/-- The entries in their order, the value of each sorted. -/
def sortEach : List (Value × Value) → Except Fault (List (Value × Value))
  | [] => .ok []
  | (key, v) :: rest => do return (key, ← sortKeys v) :: (← sortEach rest)

end

/-- A value on one line, its entries sorted. -/
def canonicalText (v : Value) : Except Fault String := do
  (document .line (← sortKeys v)).toExcept

end BaseGateway.Json
