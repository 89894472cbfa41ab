import GraphQuery.Proofs.Fault
import GraphQuery.Proofs.Store.Growth

/-!
Data: values that are made of atoms and collections alone.

A value of this kind ends somewhere: whatever collections it is made of, it is not inside itself.
What it looks like is up to these collections, so it looks the same when another object is put in
the place of one that it has nothing to do with.

* `Store.IsData`: a value is data, and some object is not in it.
* `Store.IsData.plain_eq`, `Store.IsData.truth_eq`: how data looks when that object is changed.
-/

namespace GraphQuery

namespace Store

/-- A value is an atom, or a list, tuple or dictionary of such values. A given object is none of the
collections that it is made of. -/
inductive IsData (s : Store) (outer : Nat) : Value → Prop where
  | atom {a : Atom} {mark : Nat} : IsData s outer (.atom a mark)
  | list {g : Nat} {items : List Value} : g ≠ outer → s.get? g = some (.list items) →
      (∀ v ∈ items, IsData s outer v) → IsData s outer (.object g)
  | tuple {g : Nat} {items : List Value} : g ≠ outer → s.get? g = some (.tuple items) →
      (∀ v ∈ items, IsData s outer v) → IsData s outer (.object g)
  | dict {g : Nat} {entries : List (Value × Value)} : g ≠ outer →
      s.get? g = some (.dict entries) → (∀ e ∈ entries, IsData s outer e.1) →
      (∀ e ∈ entries, IsData s outer e.2) → IsData s outer (.object g)

namespace IsData

variable {s t : Store} {outer : Nat} {v : Value}

/-- Data is quoted as before when the object is changed that is not in it. The induction is on what
it is made of, for any depth and whatever it is shown in. -/
theorem quotedWithin_eq (data : s.IsData outer v) (kept : ∀ g, g ≠ outer → t.get? g = s.get? g)
    (depth : Nat) (above : List Nat) :
    t.quotedWithin depth above v = s.quotedWithin depth above v := by
  induction data generalizing depth above with
  | atom => cases depth <;> rfl
  | list ne found _ ih =>
    cases depth with
    | zero => rfl
    | succ depth =>
      simp only [quotedWithin, kept _ ne, found, quotedObject]
      rw [mapM_congr fun v mem => ih v mem depth _]
  | tuple ne found _ ih =>
    cases depth with
    | zero => rfl
    | succ depth =>
      simp only [quotedWithin, kept _ ne, found, quotedObject]
      rw [mapM_congr fun v mem => ih v mem depth _]
  | dict ne found _ _ keys values =>
    cases depth with
    | zero => rfl
    | succ depth =>
      simp only [quotedWithin, kept _ ne, found, quotedObject, quotedEntries]
      rw [mapM_congr fun e mem => ?_]
      rw [keys e mem, values e mem]

/-- Data is data still when the object is changed that is not in it. -/
theorem of_kept (data : s.IsData outer v) (kept : ∀ g, g ≠ outer → t.get? g = s.get? g) :
    t.IsData outer v := by
  induction data with
  | atom => exact .atom
  | list ne found _ ih => exact .list ne ((kept _ ne).trans found) ih
  | tuple ne found _ ih => exact .tuple ne ((kept _ ne).trans found) ih
  | dict ne found _ _ keys values => exact .dict ne ((kept _ ne).trans found) keys values

variable (data : s.IsData outer v) (o : Object)
include data

/-- Data has the text that it had when another object is put in the place of the one that is not in
it. -/
theorem plain_eq : v.plain (s.replace outer o).view = v.plain s.view := by
  have kept : ∀ g, g ≠ outer → (s.replace outer o).get? g = s.get? g :=
    fun g ne => s.get?_replace_of_ne ne.symm o
  have depth_eq : (s.replace outer o).depth = s.depth := by rw [depth, depth, next_replace]
  have quoted_eq : (s.replace outer o).quoted v = s.quoted v := by
    rw [quoted, quoted, depth_eq]
    exact data.quotedWithin_eq kept s.depth []
  cases data with
  | atom => rfl
  | list ne found _ | tuple ne found _ | dict ne found _ _ =>
    change (s.replace outer o).plain _ = s.plain _
    rw [plain, plain, depth_eq]
    cases s.depth with
    | zero => rfl
    | succ depth =>
      simp only [plainWithin, kept _ ne, found]
      exact quoted_eq

/-- Data counts as true or not as it did before. -/
theorem truth_eq : v.truth (s.replace outer o).view = v.truth s.view := by
  cases data with
  | atom => rfl
  | list ne found _ | tuple ne found _ | dict ne found _ _ =>
    change ((s.replace outer o).content _).truth = (s.content _).truth
    rw [content, content, s.get?_replace_of_ne ne.symm o]

end IsData

end Store

end GraphQuery
