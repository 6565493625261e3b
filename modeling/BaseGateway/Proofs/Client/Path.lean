import BaseGateway.Client.Session
import BaseGateway.Proofs.Text.Percent

/-!
# Paths of tables and records

The path of a table or of a record has one segment for the base, one for the table and one for the
record if there is one, whatever the names are made of, so that it tells which of them is meant
(`Account.tablePath_decodes_injective`). The base stands in it as it is and must not have a slash in
it; IDs of bases have none.
-/

namespace BaseGateway

/-- The parts of a path between its slashes. -/
def Text.segments (path : String) : List String := (path.split '/').toList.map (·.copy)

theorem Text.segments_intercalate {parts : List String} (plain : ∀ s ∈ parts, '/' ∉ s.toList)
    (some : parts ≠ []) : segments ("/".intercalate parts) = parts :=
  (String.toList_split_intercalate plain).trans (if_neg some)

namespace Account

variable (base table : String) (record : Option String)

theorem tablePath_eq_intercalate (named : record ≠ some "") :
    tablePath base table (record.getD "") =
      "/".intercalate (base :: (table :: record.toList).map Text.percentEncode) := by
  cases record with
  | none => rfl
  | some id =>
    have given : id.isEmpty = false := by
      rw [Bool.eq_false_iff, Ne, String.isEmpty_iff]
      exact fun empty => named (congrArg some empty)
    unfold tablePath
    rw [Option.getD_some, given, if_neg Bool.false_ne_true]
    rfl

/-- The names are one segment each. -/
theorem segments_tablePath (plain : '/' ∉ base.toList) (named : record ≠ some "") :
    Text.segments (tablePath base table (record.getD "")) =
      base :: (table :: record.toList).map Text.percentEncode := by
  rw [tablePath_eq_intercalate base table record named]
  refine Text.segments_intercalate ?_ (List.cons_ne_nil _ _)
  refine List.forall_mem_cons.mpr ⟨plain, List.forall_mem_map.mpr fun name _ => ?_⟩
  exact Text.slash_not_mem_percentEncode name

theorem percentDecode?_segments (names : List String) :
    (names.map Text.percentEncode).map Text.percentDecode? = names.map some := by
  rw [List.map_map]
  exact List.map_congr_left fun name _ => Text.percentDecode?_percentEncode name

/-- A path is made of the base, a segment that reads as the table and, for a record, one that reads as
the record, and it is the path of nothing else. -/
theorem tablePath_decodes_injective (plain : '/' ∉ base.toList) (named : record ≠ some "") :
    (∃ segments, Text.segments (tablePath base table (record.getD "")) = base :: segments ∧
      segments.map Text.percentDecode? = (table :: record.toList).map some) ∧
    ∀ base' table' record', '/' ∉ base'.toList → record' ≠ some "" →
      tablePath base' table' (record'.getD "") = tablePath base table (record.getD "") →
      base' = base ∧ table' = table ∧ record' = record := by
  have split := segments_tablePath base table record plain named
  refine ⟨⟨_, split, percentDecode?_segments _⟩, fun base' table' record' plain' named' same => ?_⟩
  -- Equal paths have equal segments, and a segment is read back as the one name it was written for.
  have split' := segments_tablePath base' table' record' plain' named'
  rw [same, split] at split'
  obtain ⟨sameBase, sameNames⟩ := List.cons.inj split'
  have names := congrArg (List.map Text.percentDecode?) sameNames
  rw [percentDecode?_segments, percentDecode?_segments] at names
  obtain ⟨sameTable, sameRecords⟩ :=
    List.cons.inj ((List.map_inj_right fun _ _ => Option.some.inj).mp names)
  have sameRecord := congrArg List.head? sameRecords
  rw [Option.head?_toList, Option.head?_toList] at sameRecord
  exact ⟨sameBase.symm, sameTable.symm, sameRecord.symm⟩

/-- A table whose name looks like a path, and a record whose name has a letter of two bytes. -/
theorem tablePath_decodes_injective_slashes :
    '/' ∉ "appABCDEFGHIJKLMN".toList ∧ (some "ré?" : Option String) ≠ some "" ∧
    (∃ segments, Text.segments (tablePath "appABCDEFGHIJKLMN" "A/B 50%" "ré?") =
        "appABCDEFGHIJKLMN" :: segments ∧
      segments.map Text.percentDecode? = [some "A/B 50%", some "ré?"]) ∧
    tablePath "appABCDEFGHIJKLMN" "A/B 50%" "ré?" = "appABCDEFGHIJKLMN/A%2FB%2050%25/r%C3%A9%3F" ∧
    tablePath "appABCDEFGHIJKLMN" "A" "B 50%/ré?" ≠
      tablePath "appABCDEFGHIJKLMN" "A/B 50%" "ré?" := by
  have plain : '/' ∉ "appABCDEFGHIJKLMN".toList := by decide
  have named : (some "ré?" : Option String) ≠ some "" := by decide
  have other : (some "B 50%/ré?" : Option String) ≠ some "" := by decide
  obtain ⟨read, only⟩ :=
    tablePath_decodes_injective "appABCDEFGHIJKLMN" "A/B 50%" (some "ré?") plain named
  refine ⟨plain, named, read, by decide +kernel, fun same => ?_⟩
  obtain ⟨-, sameTable, -⟩ := only "appABCDEFGHIJKLMN" "A" (some "B 50%/ré?") plain other same
  revert sameTable
  decide

end Account

end BaseGateway
