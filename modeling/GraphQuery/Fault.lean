import GraphQuery.Refusal

/-!
Faults: every way in which a call can fail. A refusal is the library's own answer to a wrong
assembly; the other faults are found by the operations that a wrong argument reaches.
-/

namespace GraphQuery

/-- One field that validation rejects: where, by which rule, and in which words. -/
structure Issue where
  field : String
  rule : String
  message : String
  deriving DecidableEq, Repr

/-- Why a call fails. -/
inductive Fault where
  /-- The call assembles a query wrongly. -/
  | refused (cause : Refusal)
  /-- Fields of a validated record are rejected. -/
  | invalid (issues : List Issue)
  /-- There is no setting of that name. -/
  | unknownSetting (key : String)
  /-- A value does not have the operation or attribute that is asked of it. -/
  | missing
  /-- A value is of a class that an operation cannot take. -/
  | wrongType
  /-- A value is of the right class and names nothing. -/
  | wrongValue
  /-- A number is too large for what it is wanted for. -/
  | outOfRange
  /-- Nothing is stored under a key. -/
  | missingKey
  /-- An attribute of an unchangeable object is assigned. -/
  | frozen
  /-- A variable of the process environment is set without a name. -/
  | unnamed
  /-- A name stands for nothing. -/
  | unbound
  /-- An object contains itself, so that writing it out would not end. -/
  | endless
  /-- A closing tag of a text for a console closes nothing, or an action is given no literal. -/
  | brokenMarkup
  deriving DecidableEq, Repr

namespace Fault

/-- The name of the kind of fault. -/
def kind : Fault → String
  | refused cause => cause.kind
  | invalid _ => "ValidationError"
  | unknownSetting _ | missing => "AttributeError"
  | wrongType => "TypeError"
  | wrongValue => "ValueError"
  | outOfRange => "OverflowError"
  | missingKey => "KeyError"
  | frozen => "FrozenInstanceError"
  | unnamed => "OSError"
  | unbound => "Unbound"
  | endless => "RecursionError"
  | brokenMarkup => "MarkupError"

/-- The message that goes with a fault. -/
def message? : Fault → Option String
  | refused cause => some cause.message
  | unknownSetting key => some ("Unknown configuration key: " ++ key)
  | _ => none

end Fault

end GraphQuery
