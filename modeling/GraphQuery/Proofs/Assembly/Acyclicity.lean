import GraphQuery.Proofs.Assembly.Sources

/-!
Nothing comes to contain itself unless it is handed to itself.

No call looks whether what it is handed contains the object that it changes, so an object can be
made to contain itself. That takes a call that is handed its own object, or something that this
object is in. All other calls leave the objects in such an order that none contains itself: what is
new is made of older objects, and what is changed is made of objects that it is not in.

* `Store.Changes.acyclic`: a change that takes in nothing but what is apart closes no circle.
* `Construction.KeepsApart`: a call hands its object nothing that this object is in.
* `Store.AssembledApart.acyclic`: after such calls, nothing contains itself.
-/

namespace GraphQuery

open Relation

namespace Store

/-! ### Changes that close no circle -/

namespace Changes

variable {given : Nat → Prop} {h : Nat} {s t : Store} (changes : s.Changes given h t)
include changes

/-- An object other than the changed one contains what it contained before. -/
theorem contains_iff {i : Nat} (lt : i < s.next) (other : i ≠ h) (g : Nat) :
    t.Contains i g ↔ s.Contains i g := by
  rw [Contains, Contains, changes.get?_eq lt other]

variable (complete : s.IsComplete)
include complete

/-- From an object that is apart one comes to what one came to before, and that is apart as well. -/
theorem of_apart {i g : Nat} (apart : s.Apart h i) (path : TransGen t.Contains i g) :
    TransGen s.Contains i g ∧ s.Apart h g := by
  induction path with
  | single contains =>
    have before := (changes.contains_iff apart.lt apart.ne _).mp contains
    exact ⟨.single before, apart.of_contains complete before⟩
  | tail _ contains ih =>
    obtain ⟨path, apart⟩ := ih
    have before := (changes.contains_iff apart.lt apart.ne _).mp contains
    exact ⟨path.tail before, apart.of_contains complete before⟩

variable (apart : ∀ g, given g → s.next ≤ g ∨ s.Apart h g)
include apart

/-- From a new object one comes to older ones that are new as well, and to what is apart. -/
theorem of_added {i g : Nat} (le : s.next ≤ i) (path : TransGen t.Contains i g) :
    s.next ≤ g ∧ g < i ∨ s.Apart h g := by
  have step : ∀ {j k}, s.next ≤ j → t.Contains j k → s.next ≤ k ∧ k < j ∨ s.Apart h k := by
    intro j k le contains
    obtain ⟨lt, isGiven⟩ := changes.of_new le contains
    exact (apart k isGiven).imp (⟨·, lt⟩) id
  induction path with
  | single contains => exact step le contains
  | tail _ contains ih =>
    rcases ih with ⟨le, lt⟩ | isApart
    · exact (step le contains).imp (fun ⟨le, below⟩ => ⟨le, Nat.lt_trans below lt⟩) id
    · exact .inr (changes.of_apart complete isApart (.single contains)).2

variable (noCircle : ∀ g, ¬ TransGen s.Contains g g)
include noCircle

/-- From an object that was there one comes to what one came to before, or past the changed one to
what is new or apart from it. -/
theorem of_kept {i g : Nat} (lt : i < s.next) (path : TransGen t.Contains i g) :
    TransGen s.Contains i g ∨ s.next ≤ g ∨ s.Apart h g := by
  have changed : ∀ {k}, h < s.next → t.Contains h k → s.next ≤ k ∨ s.Apart h k := by
    intro k lt contains
    rcases changes.of_changed lt contains with before | isGiven
    · refine .inr ⟨complete.lt_of_contains before, fun reaches => noCircle h ?_⟩
      exact .head' before reaches
    · exact apart k isGiven
  induction path with
  | single contains =>
    by_cases eq : i = h
    · subst eq
      exact .inr (changed lt contains)
    · exact .inl (.single ((changes.contains_iff lt eq _).mp contains))
  | @tail k g _ contains ih =>
    rcases ih with path | new | isApart
    · have lt : k < s.next := complete.lt_of_reaches lt path.to_reflTransGen
      by_cases eq : k = h
      · subst eq
        exact .inr (changed lt contains)
      · exact .inl (path.tail ((changes.contains_iff lt eq _).mp contains))
    · have step := changes.of_added complete apart new (.single contains)
      exact .inr (step.imp And.left id)
    · exact .inr (.inr (changes.of_apart complete isApart (.single contains)).2)

/-- Where nothing contained itself, nothing does after a change that takes in nothing but what is
new or apart from the changed object. -/
theorem acyclic (g : Nat) : ¬ TransGen t.Contains g g := by
  intro circle
  have noneApart : ¬ s.Apart h g :=
    fun isApart => noCircle g (changes.of_apart complete isApart circle).1
  by_cases lt : g < s.next
  · rcases changes.of_kept complete apart noCircle lt circle with before | new | isApart
    · exact noCircle g before
    · exact Nat.not_lt.mpr new lt
    · exact noneApart isApart
  · rcases changes.of_added complete apart (Nat.not_lt.mp lt) circle with ⟨-, below⟩ | isApart
    · exact Nat.lt_irrefl g below
    · exact noneApart isApart

end Changes

end Store

/-! ### Calls that keep objects apart -/

/-- What a call hands to the object that it changes is not this object, and this object is not in
it. -/
def Construction.KeepsApart (s : Store) (c : Construction) : Prop :=
  ∀ h, c.receiver? = some h → ∀ g, .object g ∈ c.handed s → ¬ ReflTransGen s.Contains g h

/-- Where all objects are made of older ones, a call keeps objects apart if it hands its object
nothing but older ones. -/
theorem Construction.keepsApart_of_isLayered {s : Store} {c : Construction}
    (layered : s.isLayered = true)
    (older : ∀ h, c.receiver? = some h → (c.handed s).all (Value.isBefore h) = true) :
    c.KeepsApart s := by
  intro h receiver g handed
  have lt : g < h := of_decide_eq_true (List.all_eq_true.mp (older h receiver) _ handed)
  exact Store.not_reaches_of_isLayered layered lt

namespace Store

/-- The stores that come of calls of the library that keep objects apart, and of collections and
records that a caller makes, in any order. A call may fail. -/
inductive AssembledApart : Store → Prop where
  | empty : AssembledApart .empty
  | call {s : Store} {c : Construction} : AssembledApart s → c.Exported s → c.KeepsApart s →
      AssembledApart (outcome c.perform.run s).2
  | hold {s : Store} {o : Object} : AssembledApart s → o.isData = true → AssembledApart (s.push o)

variable {s : Store}

theorem AssembledApart.assembled (assembled : s.AssembledApart) : s.Assembled := by
  induction assembled with
  | empty => exact .empty
  | call _ exported _ ih => exact .call ih exported
  | hold _ isData ih => exact .hold ih isData

/-- What is in an object, what the object is handed and what is new is apart from the object, or it
is new. -/
theorem apart_of_sources (noCircle : ∀ g, ¬ TransGen s.Contains g g) {h : Nat}
    {handed : List Value}
    (apart : ∀ g, .object g ∈ handed → ¬ ReflTransGen s.Contains g h) (g : Nat)
    (source : s.Sources h handed g) : s.next ≤ g ∨ s.Apart h g := by
  by_cases lt : g < s.next
  · refine .inr ⟨lt, ?_⟩
    rcases source with inside | handed | new
    · exact fun reaches => noCircle h (inside.trans_left reaches)
    · exact apart g handed
    · exact absurd lt (Nat.not_lt.mpr new)
  · exact .inl (Nat.not_lt.mp lt)

/-- What is added to a store closes no circle if it is made of older objects. -/
theorem Adds.acyclic {given : Nat → Prop} {t : Store} (adds : s.Adds (Object.IsMadeOf given) t)
    (complete : s.IsComplete) (noCircle : ∀ g, ¬ TransGen s.Contains g g) (g : Nat) :
    ¬ TransGen t.Contains g g := by
  -- Nothing that was there contains the next object.
  refine Changes.acyclic (.added adds : s.Changes given s.next t) complete (fun i _ => ?_)
    noCircle g
  by_cases lt : i < s.next
  · exact .inr ⟨lt, fun reaches => Nat.lt_irrefl _ (complete.lt_of_reaches lt reaches)⟩
  · exact .inl (Nat.not_lt.mp lt)

/-- After calls that keep objects apart, nothing contains itself. -/
theorem AssembledApart.acyclic (assembled : s.AssembledApart) (g : Nat) :
    ¬ TransGen s.Contains g g := by
  induction assembled generalizing g with
  | empty =>
    intro circle
    obtain ⟨i, ⟨o, found, -⟩, -⟩ := TransGen.head'_iff.mp circle
    cases found
  | @call s c before exported keepsApart noCircle =>
    have assembled := before.assembled
    have complete := assembled.isComplete
    cases receiver : c.receiver? with
    | none =>
      exact (layers_perform assembled.sound assembled.typed complete exported receiver).acyclic
        complete noCircle g
    | some h =>
      exact (changes_perform assembled.typed exported receiver).acyclic complete
        (apart_of_sources noCircle (keepsApart h receiver)) noCircle g
  | @hold s o before isData noCircle =>
    have adds : s.Adds (Object.IsMadeOf fun _ => False) (s.push o) := .push s fun g part => by
      rw [Object.parts_of_isData isData] at part
      cases part
    exact adds.acyclic before.assembled.isComplete noCircle g

end Store

end GraphQuery
