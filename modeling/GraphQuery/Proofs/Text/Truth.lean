import GraphQuery.Proofs.Text.Formula

/-!
What predicates say, in three values.

A comparison with something that is missing is neither true nor false. Combinations and negations
follow Kleene: what is not known does not matter where the other operand settles the matter alone.

* `Truth.and`, `Truth.or`, `Truth.not`: the values of combinations and negations.
* `Formula.eval`: the value of a predicate, told by those of its comparisons and checks.
-/

namespace GraphQuery

/-- True, false, or null where it is not known. -/
abbrev Truth := Option Bool

namespace Truth

/-- False if one of the two is, and true if both are. -/
def and : Truth → Truth → Truth
  | some false, _ | _, some false => some false
  | some true, some true => some true
  | _, _ => none

/-- True if one of the two is, and false if both are. -/
def or : Truth → Truth → Truth
  | some true, _ | _, some true => some true
  | some false, some false => some false
  | _, _ => none

/-- True if the other is false, and false if it is true. -/
def not : Truth → Truth
  | some b => some !b
  | none => none

theorem and_assoc (a b c : Truth) : (a.and b).and c = a.and (b.and c) := by
  rcases a with _ | _ | _ <;> rcases b with _ | _ | _ <;> rcases c with _ | _ | _ <;> rfl

@[simp] theorem and_true (a : Truth) : a.and (some true) = a := by
  rcases a with _ | _ | _ <;> rfl

@[simp] theorem true_and (a : Truth) : and (some true) a = a := by
  rcases a with _ | _ | _ <;> rfl

@[simp] theorem or_false (a : Truth) : a.or (some false) = a := by
  rcases a with _ | _ | _ <;> rfl

/-- The value of all together. -/
def all (values : List Truth) : Truth := values.foldr and (some true)

/-- The value of any of them. -/
def any (values : List Truth) : Truth := values.foldr or (some false)

theorem all_append (xs ys : List Truth) : all (xs ++ ys) = (all xs).and (all ys) := by
  induction xs with
  | nil => exact (true_and _).symm
  | cons x xs ih =>
    change x.and (all (xs ++ ys)) = (x.and (all xs)).and (all ys)
    rw [ih, and_assoc]

end Truth

namespace Formula

variable {α : Type} (truth : Formula α → Truth)

mutual

/-- The value of a predicate. What is no combination and no negation has the value that it is
given. -/
def eval : Formula α → Truth
  | junction operator xs =>
    if operator = "AND" then .all (evals xs)
    else if operator = "OR" then .any (evals xs)
    else truth (.junction operator xs)
  | negation x => x.eval.not
  | atom a => truth (.atom a)
  | comparison operator l r => truth (.comparison operator l r)
  | check operator x => truth (.check operator x)

/-- The values of predicates. -/
def evals : List (Formula α) → List Truth
  | [] => []
  | x :: xs => x.eval :: evals xs

end

theorem evals_eq (xs : List (Formula α)) : evals truth xs = xs.map (eval truth) := by
  induction xs with
  | nil => rfl
  | cons x xs ih => rw [evals, ih, List.map_cons]

@[simp] theorem eval_and (xs : List (Formula α)) :
    eval truth (.junction "AND" xs) = .all (xs.map (eval truth)) := by
  rw [eval, if_pos rfl, evals_eq]

@[simp] theorem eval_or (xs : List (Formula α)) :
    eval truth (.junction "OR" xs) = .any (xs.map (eval truth)) := by
  rw [eval, if_neg (by decide), if_pos rfl, evals_eq]

end Formula

end GraphQuery
