import BaseGateway.Intake.Label

/-!
# The labels of arguments

The name of every argument of the tools and of the conditions of a query, in both spellings.
-/

namespace BaseGateway.Label

def type : Label := .word "type"

def fieldName : Label := ⟨"fieldName", "field_name"⟩

def minAge : Label := ⟨"minAge", "min_age"⟩

def maxAge : Label := ⟨"maxAge", "max_age"⟩

def availableOptions : Label := ⟨"availableOptions", "available_options"⟩

def matchType : Label := ⟨"matchType", "match_type"⟩

def values : Label := .word "values"

def useFuzzyMatch : Label := ⟨"useFuzzyMatch", "use_fuzzy_match"⟩

/-- The spelling of a bound that counts is a single word. -/
def minValue : Label := ⟨"min", "min_value"⟩

def maxValue : Label := ⟨"max", "max_value"⟩

def startDate : Label := ⟨"startDate", "start_date"⟩

def endDate : Label := ⟨"endDate", "end_date"⟩

def formula : Label := .word "formula"

def field : Label := .word "field"

def direction : Label := .word "direction"

def baseId : Label := ⟨"baseId", "base_id"⟩

def table : Label := .word "table"

def refresh : Label := .word "refresh"

def filterByFormula : Label := ⟨"filterByFormula", "filter_by_formula"⟩

def maxRecords : Label := ⟨"maxRecords", "max_records"⟩

def view : Label := .word "view"

def fields : Label := .word "fields"

def excludeFields : Label := ⟨"excludeFields", "exclude_fields"⟩

def excludeAttachments : Label := ⟨"excludeAttachments", "exclude_attachments"⟩

def excludeLongText : Label := ⟨"excludeLongText", "exclude_long_text"⟩

def preset : Label := .word "preset"

def sort : Label := .word "sort"

def recordId : Label := ⟨"recordId", "record_id"⟩

def id : Label := .word "id"

def name : Label := .word "name"

def options : Label := .word "options"

def ageFieldName : Label := ⟨"ageFieldName", "age_field_name"⟩

def availableAgeRanges : Label := ⟨"availableAgeRanges", "available_age_ranges"⟩

def additionalFilters : Label := ⟨"additionalFilters", "additional_filters"⟩

def conditions : Label := .word "conditions"

def combineWith : Label := ⟨"combineWith", "combine_with"⟩

def records : Label := .word "records"

def updates : Label := .word "updates"

def recordIds : Label := ⟨"recordIds", "record_ids"⟩

end BaseGateway.Label
