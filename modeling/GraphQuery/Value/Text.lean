import GraphQuery.Text.Quoted
import GraphQuery.Value.Basic

/-!
The text of a value: quoted, as a message shows it, and plain, as it is written into running text.
The two differ on texts, directions and some objects.
-/

namespace GraphQuery

/-- The name of the class of an atom. -/
def Atom.typeName : Atom → String
  | null => "NoneType"
  | bool _ => "bool"
  | int _ => "int"
  | text _ => "str"
  | float _ => "float"
  | bytes _ => "bytes"
  | direction _ => "Direction"

/-- The text of an atom in a message. -/
def Atom.quoted : Atom → String
  | null => "None"
  | bool true => "True"
  | bool false => "False"
  | int i => toString i
  | text s => Text.quoted s
  | float s => s
  | bytes data => Text.quotedBytes data
  | direction d => "<" ++ d.running ++ ": " ++ Text.quoted d.word ++ ">"

/-- The text of an atom in running text. -/
def Atom.plain (a : Atom) : String :=
  match a.name? with
  | some n => n.running
  | none => a.quoted

namespace Value

/-- The name of the class of a value. -/
def typeName (view : ObjectView) : Value → String
  | atom a _ => a.typeName
  | object h => view.typeName h

/-- The text of a value in a message. -/
def quoted (view : ObjectView) : Value → Except Fault String
  | atom a _ => .ok a.quoted
  | object h => view.quoted h

/-- The text of a value in running text. -/
def plain (view : ObjectView) : Value → Except Fault String
  | atom a _ => .ok a.plain
  | object h => view.plain h

end Value

end GraphQuery
