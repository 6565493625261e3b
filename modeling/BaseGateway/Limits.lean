import BaseGateway.Value.Basic

/-!
# Limits

Bounds on the size of every input and of every request.
-/

namespace BaseGateway.Limits

/-- Records that one listing returns at most. -/
def records : Nat := 1000

def fields : Nat := 100

def sortFields : Nat := 10

def conditions : Nat := 20

/-- Values and options of one query. -/
def values : Nat := 100

/-- Characters of a text that is not a formula. -/
def textLength : Nat := 1000

/-- Characters of a formula. -/
def formulaLength : Nat := 10000

def ageRanges : Nat := 50

/-- Records that the service takes in one request. -/
def batch : Nat := 10

/-- The limits as they are shown. -/
def shown : List (String × Nat) :=
  [("max_records", records), ("max_fields", fields), ("max_sort_fields", sortFields),
   ("max_conditions", conditions), ("max_values", values), ("max_string_length", textLength),
   ("max_formula_length", formulaLength), ("max_batch_size", batch)]

def toValue : Value := .record (shown.map fun (name, n) => (name, .int n))

end BaseGateway.Limits
