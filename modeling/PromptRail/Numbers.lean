import PromptRail.Library.Document

/-!
# Reading numbers (`lerouter_modal_api.py`)

What the service takes for a number, in its four readings of a value. A number is exact: a value that reads as an infinity or as
no number has none.
-/

namespace PromptRail

open Document (Value)

/-- `finite_profile_number`. -/
def finiteProfileNumber (float : String → Option ℚ) (value : Value) (positive : Bool := false) : Option ℚ :=
  match value with
  | .null | .bool _ => none
  | value =>
    match value.float? float with
    | none => none
    | some number => if positive ∧ number ≤ 0 then none else some number

/-- `as_float`. -/
def asFloat (float : String → Option ℚ) (value : Value) (fallback : ℚ := 0) : ℚ := (value.float? float).getD fallback

/-- `parse_required_number`, or the field that is required. -/
def parseRequiredNumber (float : String → Option ℚ) (value : Value) (fieldName : String) : Except String ℚ :=
  match value.float? float with
  | none => .error fieldName
  | some number => .ok number

/-- `parse_optional_number`. -/
def parseOptionalNumber (float : String → Option ℚ) (value : Value) : Option ℚ :=
  match value with
  | .null => none
  | value => value.float? float

@[simp] theorem finiteProfileNumber_number (float : String → Option ℚ) (x : ℚ) :
    finiteProfileNumber float (.number x) = some x := by
  simp [finiteProfileNumber, Value.float?]

@[simp] theorem asFloat_number (float : String → Option ℚ) (x fallback : ℚ) : asFloat float (.number x) fallback = x := rfl

@[simp] theorem parseRequiredNumber_number (float : String → Option ℚ) (x : ℚ) (fieldName : String) :
    parseRequiredNumber float (.number x) fieldName = .ok x := rfl

end PromptRail
