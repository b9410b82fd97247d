import Longhand.Value.Basic

/-!
What can be wrong with the fields of a record.
-/

namespace Longhand

/-- One step to the place of a problem: a field by its name or an item by its index. -/
inductive Place where
  | field (name : String)
  | item (index : Nat)
deriving DecidableEq, Repr, Inhabited

/-- What is wrong at one place of a record. -/
inductive Defect where
  | missing
  | notTuple
  /-- Neither a signature nor a mapping of its fields. -/
  | notSignature
  /-- A tuple that needs an item has no valid one. -/
  | tooShort
  | notOperation
  /-- Text or a number that is no truth value. -/
  | unreadableBool
  | notBool
  | notString
  /-- Bytes that are no UTF-8 text. -/
  | notUnicode
  /-- A value with other characters than the ten digits. -/
  | notDigits
  | frozen
  /-- A successful result without a value or with an error code. -/
  | successIncomplete
  /-- A failed result without an error code or with a value. -/
  | failureIncomplete
deriving DecidableEq, Repr, Inhabited

namespace Defect

def code : Defect → String
  | .missing => "missing"
  | .notTuple => "tuple_type"
  | .notSignature => "model_type"
  | .tooShort => "too_short"
  | .notOperation => "enum"
  | .unreadableBool => "bool_parsing"
  | .notBool => "bool_type"
  | .notString => "string_type"
  | .notUnicode => "string_unicode"
  | .notDigits => "string_pattern_mismatch"
  | .frozen => "frozen_instance"
  | .successIncomplete | .failureIncomplete => "value_error"

def message : Defect → String
  | .missing => "Field required"
  | .notTuple => "Input should be a valid tuple"
  | .notSignature => "Input should be a valid dictionary or instance of Signature"
  | .tooShort => "Tuple should have at least 1 item after validation, not 0"
  | .notOperation => "Input should be 'add', 'subtract', 'modulo' or 'multiply'"
  | .unreadableBool => "Input should be a valid boolean, unable to interpret input"
  | .notBool => "Input should be a valid boolean"
  | .notString => "Input should be a valid string"
  | .notUnicode => "Input should be a valid string, unable to parse raw data as a unicode string"
  | .notDigits => "String should match pattern '^[0-9]+$'"
  | .frozen => "Instance is frozen"
  | .successIncomplete => "Value error, successful result must carry value and no error_code"
  | .failureIncomplete => "Value error, failed result must carry error_code and no value"

end Defect

structure Problem where
  place : List Place
  defect : Defect
deriving DecidableEq, Repr, Inhabited

end Longhand
