import Longhand.Fault
import Longhand.Record.Problem

/-!
Every way to fail, by cause, with the wording in `Error.message`. Causes of the engine carry a
coded kind (`Cause.fault`); the others are failures of settings, records, contracts, schema files
and of the functions that are called.
-/

namespace Longhand

/-- The largest number of decimal digits that integers are converted with. -/
def digitLimit : Nat := 4300

/-- A conversion between an integer and its decimal text that would exceed the limit. -/
inductive LimitExceeded where
  | printing
  | reading (digits : Nat)
deriving DecidableEq, Repr, Inhabited

def LimitExceeded.message : LimitExceeded → String
  | .printing => "Exceeds the limit (4300 digits) for integer string conversion; "
      ++ "use sys.set_int_max_str_digits() to increase the limit"
  | .reading n => s!"Exceeds the limit (4300 digits) for integer string conversion: value has {n} "
      ++ "digits; use sys.set_int_max_str_digits() to increase the limit"

/-- Why an operand is malformed. Values are given as they are shown. -/
inductive Malformed where
  | notDigit (shown : String)
  | emptyInit
  | emptyLast
  | lastNotDigit (shown : String)
  | notText (typeName : String)
  | empty
  | character (shown : String) (position : Nat)
  | notNatural (typeName : String)
  | negative (shown : String)
  | unprintable (limit : LimitExceeded)
  | unreadable (limit : LimitExceeded)
  /-- A text that breaks the contract for digit strings. -/
  | rejected (shown : String) (violation : String)
deriving DecidableEq, Repr, Inhabited

def Malformed.message : Malformed → String
  | .notDigit v => s!"Expected a digit 0-9, got {v}"
  | .emptyInit => "prefix of an empty digit sequence is undefined"
  | .emptyLast => "last digit of an empty digit sequence is undefined"
  | .lastNotDigit v => s!"Last element {v} is not a digit"
  | .notText t => s!"Digit sequence must be a string, got {t}"
  | .empty => "Digit sequence must not be empty"
  | .character v i => s!"Invalid character {v} at position {i} in digit sequence"
  | .notNatural t => s!"Expected a non-negative int, got {t}"
  | .negative v => s!"Natural number must be non-negative, got {v}"
  | .unprintable l => "Integer exceeds the host conversion limit, pass decimal text instead: "
      ++ l.message
  | .unreadable l => "Digit sequence exceeds the host conversion limit: " ++ l.message
  | .rejected v m => s!"Invalid digit sequence {v}: {m}"

/-- Which internal condition does not hold. -/
inductive Precondition where
  | flag (name shown : String)
  | incrementNine
  | decrementZero
  /-- More subtractions than a remainder may take. -/
  | iterations (cap : Nat)
deriving DecidableEq, Repr, Inhabited

def Precondition.message : Precondition → String
  | .flag name v => s!"{name} must be 0 or 1, got {v}"
  | .incrementNine => "increment is undefined for digit '9'"
  | .decrementZero => "decrement is undefined for digit '0'"
  | .iterations cap => s!"modulo exceeded max_modulo_iterations={cap}"

/-- Why call arguments are refused. Shapes and argument types are given as they are shown. -/
inductive Mismatch where
  | noOverload (shape arguments : String)
  | secondStage (shape arguments : String)
  | argument (index : Nat) (expected actual : String)
deriving DecidableEq, Repr, Inhabited

def Mismatch.message : Mismatch → String
  | .noOverload s a => s!"No overload of {s} accepts {a}"
  | .secondStage s a => s!"Second stage {s} does not accept {a}"
  | .argument i t a => s!"Argument {i} expects {t}, got {a}"

/-- How a parameter takes its arguments. -/
inductive ParameterKind where
  | positionalOnly | positional | variadic | keywordOnly | variadicKeyword
deriving DecidableEq, Repr, Inhabited

def ParameterKind.description : ParameterKind → String
  | .positionalOnly => "positional-only"
  | .positional => "positional or keyword"
  | .variadic => "variadic positional"
  | .keywordOnly => "keyword-only"
  | .variadicKeyword => "variadic keyword"

/-- Why a parameter cannot be curried. -/
inductive Unsupported where
  | kind (kind : ParameterKind)
  | default
deriving DecidableEq, Repr, Inhabited

/-- A failure of the engine. -/
inductive Cause where
  | malformed (why : Malformed)
  /-- The subtrahend is larger than the minuend. -/
  | negativeResult (minuend subtrahend : String)
  | divisionByZero (dividend : String)
  | precondition (why : Precondition)
  | mismatch (why : Mismatch)
  | unsupported (shownParameter : String) (why : Unsupported)
  /-- A failure of a known kind with a given text. -/
  | reported (kind : Fault) (text : String)
deriving DecidableEq, Repr, Inhabited

namespace Cause

def fault : Cause → Fault
  | .malformed _ => .malformedInput
  | .negativeResult _ _ => .negativeResult
  | .divisionByZero _ => .divisionByZero
  | .precondition _ => .precondition
  | .mismatch _ => .signatureMismatch
  | .unsupported _ _ => .unsupportedSignature
  | .reported k _ => k

def message : Cause → String
  | .malformed why => why.message
  | .negativeResult a b => s!"Cannot subtract {b} from smaller number {a}"
  | .divisionByZero a => s!"Modulo by zero: {a} mod 0"
  | .precondition why => why.message
  | .mismatch why => why.message
  | .unsupported p (.kind k) => s!"Parameter {p} of kind {k.description} cannot be curried"
  | .unsupported p .default => s!"Parameter {p} has a default value and cannot be curried"
  | .reported _ text => text

end Cause

inductive BadSetting where
  /-- A word that is none of the choices of a setting. -/
  | unknown (shown choice : String)
  /-- A count that must be positive and is not. -/
  | notPositive (setting shown : String)
deriving DecidableEq, Repr, Inhabited

def BadSetting.message : BadSetting → String
  | .unknown v choice => s!"{v} is not a valid {choice}"
  | .notPositive name v => s!"{name} must be positive, got {v}"

inductive PatternLimit where
  /-- A count of copies that is not below the largest one. -/
  | copies
  /-- Classes of ASCII and of all characters are both asked for. -/
  | alphabet
deriving DecidableEq, Repr, Inhabited

def PatternLimit.message : PatternLimit → String
  | .copies => "the repetition number is too large"
  | .alphabet => "ASCII and UNICODE flags are incompatible"

inductive SchemaFailure where
  | noDirectory
  | missing
  | unreadable
  /-- The file is no valid schema. -/
  | invalid (name : String)
  /-- The file has a regular expression that cannot be used. -/
  | unusable (why : PatternLimit)
deriving DecidableEq, Repr, Inhabited

inductive NotPlain where
  /-- A type or another object; its own type is given as it is shown. -/
  | unknownType (shownType : String)
  /-- Bytes that spell no text: the first bad byte, as two digits, and its position. -/
  | notText (shownByte : String) (position : Nat)
deriving DecidableEq, Repr, Inhabited

def NotPlain.message : NotPlain → String
  | .unknownType t => s!"Unable to serialize unknown type: {t}"
  | .notText b i => s!"'utf-8' codec can't decode byte 0x{b} in position {i}: invalid utf-8"

/-- The kinds of failure that the evaluation of an annotation ends with. -/
inductive EvaluationFault where
  | attribute | position | key | zeroDivision | value | overflow | recursion | exhausted
  | memory | undecodable | unencodable | lookup | runtime | assertion | spelling | missingFile
  /-- A failure of a class that the annotation itself names. -/
  | named (cls : String)
deriving DecidableEq, Repr, Inhabited

inductive Error where
  | engine (cause : Cause)
  | limit (why : LimitExceeded)
  | setting (why : BadSetting)
  /-- An overloaded shape of no signatures. -/
  | noSignatures
  | notIterable (typeName : String)
  | unhashable (typeName : String)
  /-- A call with the wrong number or types of arguments. -/
  | badCall
  /-- A failure of what is called from outside: a function, or the test for the members of a
  class. -/
  | raised (kind text : String)
  /-- An annotation that is not an expression. -/
  | notExpression (shown : String)
  | noAttribute (owner name : String)
  /-- A failure while an annotation is evaluated. -/
  | evaluation (kind : EvaluationFault) (text : String)
  /-- The fields of a record are refused. -/
  | record (kind : RecordKind) (problems : List Problem)
  | notPlain (why : NotPlain)
  /-- Data breaks a contract. -/
  | contract (violation : String)
  | schema (why : SchemaFailure)
deriving Inhabited

namespace Error

/-- The coded kind of a failure of the engine. -/
def fault? : Error → Option Fault
  | .engine c => some c.fault
  | _ => none

def message : Error → String
  | .engine c => c.message
  | .limit l => l.message
  | .setting s => s.message
  | .noSignatures => "intersect_all requires at least one signature"
  | .notIterable t => s!"'{t}' object is not iterable"
  | .unhashable t => s!"unhashable type: '{t}'"
  | .badCall => ""
  | .raised _ text => text
  | .notExpression v => s!"Forward reference must be an expression -- got {v}"
  | .noAttribute owner name => s!"{owner} has no attribute '{name}'"
  | .evaluation _ text => text
  | .record kind _ => kind.name
  | .notPlain why => why.message
  | .contract m => m
  | .schema .noDirectory => "Schema directory not found"
  | .schema .missing => "Schema not found"
  | .schema .unreadable => "Schema is not JSON"
  | .schema (.invalid name) => s!"Invalid JSON Schema in {name}.json"
  | .schema (.unusable why) => why.message

end Error

end Longhand
