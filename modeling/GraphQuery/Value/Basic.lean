import GraphQuery.Fault
import GraphQuery.Value.Decimal

/-!
Values: what can be handed to the library as a literal, an option or an operand.

A query is assembled from arguments that nothing has checked yet, so an argument may be any value.
A value is an atom or the handle of an object; collections are objects too, since they can be held
in several places and changed in all of them at once. What a call accepts is decided by the call.

* `Name`: a text in the place of a name. A direction is a text as well, its word, but it is written
  differently into running text.
* `ObjectView`: how the objects behind handles look from outside.
-/

namespace GraphQuery

/-- A value without parts. Floating-point numbers are kept as their shortest text. -/
inductive Atom where
  | null
  | bool (b : Bool)
  | int (i : Int)
  | text (s : String)
  | float (s : String)
  | bytes (data : List UInt8)
  | direction (d : Direction)
  deriving DecidableEq, Inhabited

/-- A value. Two atoms of the same contents may still be different ones: the mark tells which one it
is, and an atom of mark nought is like no other. -/
inductive Value where
  | atom (a : Atom) (mark : Nat)
  | object (handle : Nat)
  deriving DecidableEq, Inhabited

/-- A text in the place of a name. -/
inductive Name where
  | text (s : String)
  | direction (d : Direction)
  deriving DecidableEq, Repr, Inhabited

namespace Name

/-- The text that a name is. -/
def word : Name → String
  | text s => s
  | direction d => d.word

/-- A name as it is written into running text. -/
def running : Name → String
  | text s => s
  | direction d => d.running

/-- The name as an atom. -/
def atom : Name → Atom
  | text s => .text s
  | direction d => .direction d

/-- The name as a value. -/
def value (n : Name) : Value := .atom n.atom 0

end Name

/-- The name that an atom is. -/
def Atom.name? : Atom → Option Name
  | text s => some (.text s)
  | direction d => some (.direction d)
  | _ => none

/-- An atom counts as true unless it is nothing, false, nought or empty. -/
def Atom.truth : Atom → Bool
  | null => false
  | bool b => b
  | int i => i != 0
  | text s => !s.isEmpty
  | float s => !((Decimal.ofText? s).any Decimal.isZero)
  | bytes data => !data.isEmpty
  | direction _ => true

/-- What an object holds when it is taken as a collection. -/
inductive Content where
  /-- It is none. -/
  | nothing
  | list (items : List Value)
  | tuple (items : List Value)
  /-- A dictionary: pairs of a key and a value, in order of insertion. -/
  | dict (entries : List (Value × Value))
  /-- A record of some number of named fields. -/
  | record (size : Nat)
  deriving Inhabited

/-- A collection counts as true unless it is empty, and what is none always. -/
def Content.truth : Content → Bool
  | list items | tuple items => !items.isEmpty
  | dict entries => !entries.isEmpty
  | nothing | record _ => true

/-- How the objects behind handles look from outside: the name of their class, what they hold, their
text in a message and in running text, which of them are equal, and which can be keys. -/
structure ObjectView where
  typeName : Nat → String
  content : Nat → Content
  quoted : Nat → Except Fault String
  plain : Nat → Except Fault String
  equal : Nat → Nat → Bool
  hashable : Nat → Bool

namespace Value

/-! ### Atoms as values -/

/-- Nothing. -/
def null : Value := .atom .null 0

/-- A truth value. -/
def bool (b : Bool) : Value := .atom (.bool b) 0

/-- A whole number. -/
def int (i : Int) : Value := .atom (.int i) 0

/-- A text. -/
def text (s : String) : Value := .atom (.text s) 0

/-- A byte string. -/
def bytes (data : List UInt8) : Value := .atom (.bytes data) 0

/-- A direction. -/
def direction (d : Direction) : Value := .atom (.direction d) 0

/-- The value is nothing. -/
def isNull : Value → Bool
  | atom .null _ => true
  | _ => false

/-- The value unless it is nothing. -/
def given? (v : Value) : Option Value := if v.isNull then none else some v

/-- The name that a value is. -/
def name? : Value → Option Name
  | atom a _ => a.name?
  | object _ => none

/-- The text that a value is: a direction is the text of its word. -/
def text? (v : Value) : Option String := v.name?.map Name.word

/-- The value is the given text. -/
def isText (v : Value) (s : String) : Bool := v.text? == some s

/-! ### Values as collections -/

/-- What a value holds when it is taken as a collection. -/
def content (view : ObjectView) : Value → Content
  | atom _ _ => .nothing
  | object h => view.content h

/-- A value counts as true unless it is nothing, false, nought or empty. -/
def truth (view : ObjectView) : Value → Bool
  | atom a _ => a.truth
  | object h => (view.content h).truth

/-- The characters of a text, each a text of its own. -/
def characters (s : String) : List Value := s.toList.map fun c => text c.toString

/-- The items that a value runs through, if it is a collection: a text runs through its characters,
a byte string through its numbers, a dictionary through its keys. A record stands for each of its
fields. -/
def items? (view : ObjectView) : Value → Option (List Value)
  | atom (.text s) _ => some (characters s)
  | atom (.direction d) _ => some (characters d.word)
  | atom (.bytes data) _ => some (data.map fun b => int b.toNat)
  | atom _ _ => none
  | object h =>
    match view.content h with
    | .list items | .tuple items => some items
    | .dict entries => some (entries.map (·.1))
    | .record size => some (List.replicate size (object h))
    | .nothing => none

/-- The number of things that a collection holds. A record is none. -/
def size? (view : ObjectView) (v : Value) : Option Nat :=
  match v.content view with
  | .record _ => none
  | _ => (v.items? view).map List.length

/-- The entries of a dictionary. -/
def entries? (view : ObjectView) (v : Value) : Option (List (Value × Value)) :=
  match v.content view with
  | .dict entries => some entries
  | _ => none

end Value

end GraphQuery
