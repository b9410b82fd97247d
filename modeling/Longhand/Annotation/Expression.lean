import Longhand.Error

/-!
The expressions of textual annotations.
-/

namespace Longhand

namespace Annotation

/-- What stands between two operands. -/
inductive Operator where
  | or | and
  | add | subtract | multiply | divide | floor | remainder | power | matrix
  | shiftLeft | shiftRight | alternative | exclusive | both
deriving DecidableEq, Repr, Inhabited

/-- How two operands are compared. -/
inductive Comparison where
  | less | greater | atMost | atLeast | equal | different
  /-- Membership. -/
  | within | outside
  /-- Identity. -/
  | same | distinct
deriving DecidableEq, Repr, Inhabited

inductive Sign where
  | not | minus | plus | complement
deriving DecidableEq, Repr, Inhabited

inductive Passing where
  | plain
  /-- Each item is an argument. -/
  | spread
  | named (name : String)
  /-- Each entry is a named argument. -/
  | spreadNamed
deriving DecidableEq, Repr, Inhabited

inductive Collection where
  | list | set | stream
deriving DecidableEq, Repr, Inhabited

/-- How the value of a field is made a text before it is laid out. -/
inductive FieldForm where
  | plain | text | quoted | ascii
deriving DecidableEq, Repr, Inhabited

inductive Expression where
  | name (s : String)
  | value (v : Value)
  | attribute (owner : Expression) (name : String)
  | subscript (owner index : Expression)
  | slice (start stop step : Option Expression)
  | call (function : Expression) (arguments : List (Passing × Expression))
  | list (items : List Expression)
  | tuple (items : List Expression)
  | set (items : List Expression)
  /-- A mapping; an entry without a key stands for all entries of another mapping. -/
  | dict (entries : List (Option Expression × Expression))
  /-- All items of something, in a display, an index or a target. -/
  | starred (items : Expression)
  | sign (op : Sign) (operand : Expression)
  | binary (op : Operator) (left right : Expression)
  | comparison (first : Expression) (rest : List (Comparison × Expression))
  | conditional (condition yes no : Expression)
  /-- Gives a name to a value. -/
  | naming (name : String) (value : Expression)
  | function (params : List (String × ParameterKind × Option Expression)) (body : Expression)
  /-- Collects items; a clause has a target, what it runs through, and conditions. -/
  | comprehension (what : Collection) (item : Expression)
      (clauses : List (Expression × Expression × List Expression))
  | dictComprehension (key value : Expression)
      (clauses : List (Expression × Expression × List Expression))
  /-- A text with fields: its parts in order. -/
  | joined (parts : List Expression)
  | field (value : Expression) (form : FieldForm) (layout : Option Expression)
  /-- Suspends a function: well formed inside functions, but without a value of its own. -/
  | suspension (value : Option Expression)
deriving Inhabited

end Annotation

end Longhand
