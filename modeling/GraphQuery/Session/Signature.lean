import GraphQuery.Fault
import GraphQuery.Value.Basic

/-!
Signatures: which arguments a call takes, by place and by name, and how given arguments are matched
with them.
-/

namespace GraphQuery

/-- What becomes of a parameter that is not given. -/
inductive Absence where
  /-- The call cannot be made. -/
  | refused
  /-- It has this value. -/
  | filled (v : Value)
  /-- It stays away. -/
  | kept

/-- A parameter of a call: its name, and what becomes of it when it is not given. -/
structure Parameter where
  name : String
  absence : Absence

/-- The parameters of a call. `rest` tells whether further arguments are taken by place, `further`
whether further ones are taken by name. -/
structure Signature where
  placed : List Parameter
  named : List Parameter
  rest : Bool
  further : Bool

/-- The arguments of a call, matched with its parameters. -/
structure Arguments where
  values : List (String × Value)
  rest : List Value
  further : List (String × Value)

namespace Arguments

/-- The argument for a parameter that can stay away. -/
def get? (a : Arguments) (name : String) : Option Value := a.values.lookup name

/-- The argument for a parameter. -/
def get (a : Arguments) (name : String) : Value := (a.get? name).getD .null

end Arguments

namespace Signature

/-- A call with these parameters and no others. -/
def exactly (required : List String) (optional : List (String × Value)) : Signature :=
  ⟨required.map (⟨·, .refused⟩) ++ optional.map fun p => ⟨p.1, .filled p.2⟩, [], false, false⟩

/-- The same call, taking further arguments by place. -/
def withRest (s : Signature) : Signature := { s with rest := true }

/-- The same call, with parameters that are given by name only. -/
def withNamed (s : Signature) (named : List (String × Value)) : Signature :=
  { s with named := s.named ++ named.map fun p => ⟨p.1, .filled p.2⟩ }

/-- The same call, with a parameter that is given by name only, or not at all. -/
def withOptional (s : Signature) (name : String) : Signature :=
  { s with named := s.named ++ [⟨name, .kept⟩] }

/-- The same call, taking any further arguments by name. -/
def withFurther (s : Signature) : Signature := { s with further := true }

/-- All parameters. -/
def parameters (s : Signature) : List Parameter := s.placed ++ s.named

/-- The parameter of a name is among the parameters. -/
def declares (s : Signature) (name : String) : Bool := s.parameters.any (·.name == name)

/-- Matches arguments with the parameters. There must not be too many, none twice, none under an
unknown name, and none may be missing. -/
def bind (s : Signature) (placed : List Value) (named : List (String × Value)) :
    Except Fault Arguments := do
  let byPlace := (s.placed.map Parameter.name).zip placed
  let rest := placed.drop s.placed.length
  if !rest.isEmpty && !s.rest then throw .wrongType
  if named.any fun n => byPlace.any (·.1 == n.1) then throw .wrongType
  let (byName, further) := named.partition fun n => s.declares n.1
  if !further.isEmpty && !s.further then throw .wrongType
  let given := byPlace ++ byName
  let values ← s.parameters.mapM fun p =>
    match given.lookup p.name, p.absence with
    | some v, _ | none, .filled v => .ok (some (p.name, v))
    | none, .kept => .ok none
    | none, .refused => .error Fault.wrongType
  return ⟨values.filterMap id, rest, further⟩

end Signature

end GraphQuery
