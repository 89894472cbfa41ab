import GraphQuery.Value.Basic

/-!
Equality of values, and the dictionaries that rest on it.

* Numbers are equal by value: whole numbers, truth values (one and nought) and floating-point
  numbers are compared with each other, and the undefined number equals nothing.
* A direction equals the text of its word.
* Two values are the same one if they are one object, or one atom. Inside collections, what is the
  same counts as equal.
-/

namespace GraphQuery

/-- The whole number that an atom is as a number. -/
def Atom.int? : Atom → Option Int
  | bool b => some (if b then 1 else 0)
  | int i => some i
  | float s => (Decimal.ofText? s).bind Decimal.toInt?
  | _ => none

/-- Two atoms are equal. -/
def Atom.equal : Atom → Atom → Bool
  | null, null => true
  | bytes a, bytes b => a == b
  | float a, float b =>
    a != "nan" && (a == b || ((float a).int?.isSome && (float a).int? == (float b).int?))
  | a, b =>
    match a.name?, b.name? with
    | some s, some t => s.word == t.word
    | none, none =>
      match a.int?, b.int? with
      | some i, some j => i == j
      | _, _ => false
    | _, _ => false

/-- There is only one atom of these contents: nothing, the truth values, the directions, small
numbers, and texts and byte strings of at most one sign. -/
def Atom.isUnique : Atom → Bool
  | null | bool _ | direction _ => true
  | int i => -5 ≤ i && i ≤ 256
  | text s => s.length ≤ 1 && s.toList.all (·.toNat < 0x100)
  | bytes data => data.length ≤ 1
  | float _ => false

namespace Value

/-- The whole number that a value is as a number. -/
def int? : Value → Option Int
  | atom a _ => a.int?
  | object _ => none

/-- The value is at most a whole number, if it is a number. The undefined number never is. -/
def atMost? (v : Value) (i : Int) : Option Bool :=
  match v, v.int? with
  | _, some j => some (j ≤ i)
  | atom (.float s) _, none => some (((Decimal.ofText? s).map (·.atMost i)).getD (s == "-inf"))
  | _, none => none

/-- The object is the tuple of nothing, of which there is only one. -/
def isUnit (view : ObjectView) (h : Nat) : Bool :=
  match view.content h with
  | .tuple [] => true
  | _ => false

/-- Two values are one and the same. -/
def same (view : ObjectView) : Value → Value → Bool
  | atom a m, atom b n => a == b && (a.isUnique || (m == n && m != 0))
  | object g, object h => g == h || (isUnit view g && isUnit view h)
  | _, _ => false

/-- Two values are equal. -/
def equal (view : ObjectView) : Value → Value → Bool
  | atom a _, atom b _ => a.equal b
  | object g, object h => view.equal g h
  | _, _ => false

/-- Two values are equal as parts of collections. -/
def matched (view : ObjectView) (a b : Value) : Bool := same view a b || equal view a b

/-- The value can be a key. -/
def hashable (view : ObjectView) : Value → Bool
  | atom _ _ => true
  | object h => view.hashable h

/-- A run of characters occurs in another. -/
def occursIn (part : List Char) : List Char → Bool
  | [] => part.isEmpty
  | c :: cs => part.isPrefixOf (c :: cs) || occursIn part cs

/-- A collection holds a value: as an item, as a key, or a text as a part of it. -/
def holds (view : ObjectView) (collection v : Value) : Except Fault Bool :=
  match collection.content view, collection.text?, v.text? with
  | .list items, _, _ | .tuple items, _, _ => .ok (items.any (matched view · v))
  | .dict entries, _, _ =>
    if v.hashable view then .ok (entries.any fun entry => matched view entry.1 v)
    else .error .wrongType
  | .record _, _, _ => .ok false
  | .nothing, some s, some part => .ok (occursIn part.toList s.toList)
  | .nothing, _, _ => .error .wrongType

/-- The value stored under a key. -/
def stored? (view : ObjectView) (entries : List (Value × Value)) (key : Value) : Option Value :=
  (entries.find? fun entry => matched view entry.1 key).map (·.2)

/-- The entries with the value stored under the key: in the place of an equal key, which stays, or
else at the end. -/
def store (view : ObjectView) (entries : List (Value × Value)) (key value : Value) :
    List (Value × Value) :=
  if entries.any fun entry => matched view entry.1 key then
    entries.map fun entry => if matched view entry.1 key then (entry.1, value) else entry
  else entries ++ [(key, value)]

/-- The value stored under a text. -/
def lookup? (entries : List (Value × Value)) (key : String) : Option Value :=
  (entries.find? fun entry => entry.1.isText key).map (·.2)

/-- The entries without the one stored under a text. -/
def remove (entries : List (Value × Value)) (key : String) : List (Value × Value) :=
  entries.filter fun entry => !entry.1.isText key

end Value

end GraphQuery
