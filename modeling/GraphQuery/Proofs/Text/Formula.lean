import GraphQuery.Proofs.Store.Likeness
import GraphQuery.Proofs.Text.Lexeme
import GraphQuery.Text.Blank

/-!
Predicates as they are written and read.

A reader goes by precedence: `OR` binds loosest, then `AND`, then `NOT`, then comparisons and
checks. Parentheses make a group, which is read by itself and stands as one operand where it was.

* `Formula`: a predicate over whatever its operands are made of.
* `Formula.chars`: a predicate of texts as it is written, with combinations in parentheses where
  they are operands of others.
* `Formula.parse?`: the predicate that a text is.
-/

namespace GraphQuery

open Text (Lexeme)

/-- A predicate. -/
inductive Formula (α : Type) where
  | atom (a : α)
  | comparison (operator : String) (left right : Formula α)
  | check (operator : String) (operand : Formula α)
  | junction (operator : String) (operands : List (Formula α))
  | negation (operand : Formula α)

namespace Formula

/-- The predicate is an operand by itself. -/
def isAtom {α : Type} : Formula α → Bool
  | atom _ => true
  | _ => false

/-- The predicate is a combination of others. -/
def isJunction {α : Type} : Formula α → Bool
  | junction .. => true
  | _ => false

section Maps

variable {α β : Type} (f : α → β)

mutual

/-- The predicate with something else for its operands. -/
def map : Formula α → Formula β
  | atom a => .atom (f a)
  | comparison operator l r => .comparison operator l.map r.map
  | check operator x => .check operator x.map
  | junction operator xs => .junction operator (maps xs)
  | negation x => .negation x.map

/-- Predicates with something else for their operands. -/
def maps : List (Formula α) → List (Formula β)
  | [] => []
  | x :: xs => x.map :: maps xs

end

theorem maps_eq (xs : List (Formula α)) : maps f xs = xs.map (map f) := by
  induction xs with
  | nil => rfl
  | cons x xs ih => rw [maps, ih, List.map_cons]

/-- What is an operand by itself stays one. -/
theorem isAtom_map (x : Formula α) : (x.map f).isAtom = x.isAtom := by
  cases x <;> rfl

/-- Combinations stay what they are with other operands. -/
theorem isJunction_map (x : Formula α) : (x.map f).isJunction = x.isJunction := by
  cases x <;> rfl

end Maps

mutual

/-- What the operands of a predicate are made of, from left to right. -/
def atoms {α : Type} : Formula α → List α
  | atom a => [a]
  | comparison _ l r => l.atoms ++ r.atoms
  | check _ x => x.atoms
  | junction _ xs => atomsOf xs
  | negation x => x.atoms

/-- What the operands of predicates are made of. -/
def atomsOf {α : Type} : List (Formula α) → List α
  | [] => []
  | x :: xs => x.atoms ++ atomsOf xs

end

theorem atomsOf_eq {α : Type} (xs : List (Formula α)) : atomsOf xs = xs.flatMap atoms := by
  induction xs with
  | nil => rfl
  | cons x xs ih => rw [atomsOf, ih, List.flatMap_cons]

section Maps

variable {α β : Type} (f : α → β)

mutual

/-- With something else for its operands a predicate is made of that. -/
theorem atoms_map : ∀ x : Formula α, (x.map f).atoms = x.atoms.map f
  | atom _ => rfl
  | comparison _ l r => by rw [map, atoms, atoms, atoms_map l, atoms_map r, List.map_append]
  | check _ x => atoms_map x
  | junction _ xs => atomsOf_maps xs
  | negation x => atoms_map x

theorem atomsOf_maps : ∀ xs : List (Formula α), atomsOf (maps f xs) = (atomsOf xs).map f
  | [] => rfl
  | x :: xs => by rw [maps, atomsOf, atomsOf, atoms_map x, atomsOf_maps xs, List.map_append]

end

end Maps

/-! ### Writing -/

mutual

/-- A predicate as it is written. -/
def chars : Formula String → List Char
  | atom a => a.toList
  | comparison operator l r => l.chars ++ ' ' :: operator.toList ++ ' ' :: r.chars
  | check operator x => x.chars ++ ' ' :: operator.toList
  | junction operator xs => (' ' :: operator.toList ++ [' ']).intercalate (operandChars xs)
  | negation x => "NOT ".toList ++ if x.isJunction then '(' :: x.chars ++ [')'] else x.chars

/-- Predicates as operands: combinations are put in parentheses. -/
def operandChars : List (Formula String) → List (List Char)
  | [] => []
  | x :: xs => (if x.isJunction then '(' :: x.chars ++ [')'] else x.chars) :: operandChars xs

end

/-- A predicate that is an operand as it is written. -/
def operandText (x : Formula String) : List Char :=
  if x.isJunction then '(' :: x.chars ++ [')'] else x.chars

theorem operandChars_eq (xs : List (Formula String)) : operandChars xs = xs.map operandText := by
  induction xs with
  | nil => rfl
  | cons x xs ih => rw [operandChars, ih, List.map_cons, operandText]

end Formula

/-! ### Reading -/

/-- A word of a predicate, or a group that has been read. -/
inductive Phrasing where
  | word (s : String)
  | group (f : Formula String)

namespace Phrasing

/-- The word that stands alone, if one does. -/
def word? : Phrasing → Option String
  | word s => some s
  | group _ => none

/-- It is the given word. -/
def isWord (s : String) : Phrasing → Bool
  | word t => t == s
  | group _ => false

/-- The words that put predicates together. -/
def reserved : List String := ["OR", "AND", "NOT"]

/-- What can be compared: a word that is not reserved, or a group. -/
def operand? : Phrasing → Option (Formula String)
  | word s => if s ∈ reserved then none else some (.atom s)
  | group f => some f

end Phrasing

/-- The words of an operator. -/
def operatorWords (operator : String) : List String :=
  (Text.words operator.toList).map String.ofList

namespace Formula

/-- An operand alone, one with the words of a check behind it, or two with those of a comparison
between them. -/
def comparison? : List Phrasing → Option (Formula String)
  | [] => none
  | [x] => x.operand?
  | x :: y :: rest =>
    match checkOperators.find? fun o =>
      (y :: rest).mapM Phrasing.word? = some (operatorWords o) with
    | some o => x.operand?.map (.check o)
    | none =>
      match comparisonOperators.find? fun o =>
        (y :: rest).dropLast.mapM Phrasing.word? = some (operatorWords o) with
      | some o => x.operand?.bind fun l =>
        ((y :: rest).getLast?.bind Phrasing.operand?).map fun r => .comparison o l r
      | none => none

/-- A comparison behind any number of negations. -/
def negation? : List Phrasing → Option (Formula String)
  | [] => none
  | x :: rest => if x.isWord "NOT" then (negation? rest).map .negation else comparison? (x :: rest)

/-- A predicate alone, or a combination of several. -/
def joined (operator : String) : List (Formula String) → Formula String
  | [x] => x
  | xs => .junction operator xs

/-- Negations with `AND` between them. -/
def conjunction? (xs : List Phrasing) : Option (Formula String) :=
  ((xs.splitOnP (Phrasing.isWord "AND")).mapM negation?).map (joined "AND")

/-- Conjunctions with `OR` between them. -/
def disjunction? (xs : List Phrasing) : Option (Formula String) :=
  ((xs.splitOnP (Phrasing.isWord "OR")).mapM conjunction?).map (joined "OR")

/-- The predicate that the rest of a text is, behind what has been read of the group that is open
and of those around it. -/
def parseFrom : (around : List (List Phrasing)) → (soFar : List Phrasing) → List Lexeme →
    Option (Formula String)
  | [], soFar, [] => disjunction? soFar
  | _ :: _, _, [] => none
  | around, soFar, .word s :: rest => parseFrom around (soFar ++ [.word s]) rest
  | around, soFar, .opens :: rest => parseFrom (soFar :: around) [] rest
  | outer :: around, soFar, .closes :: rest =>
    match disjunction? soFar with
    | some f => parseFrom around (outer ++ [.group f]) rest
    | none => none
  | [], _, .closes :: _ => none

/-- The predicate that a text is, if it is one. -/
def parse? (blank : Char → Bool) (s : String) : Option (Formula String) :=
  parseFrom [] [] (Text.lexemes blank s)

end Formula

end GraphQuery
