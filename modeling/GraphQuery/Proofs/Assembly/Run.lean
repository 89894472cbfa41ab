import GraphQuery.Proofs.Assembly.Construction

/-!
Runs: calls one after another, from an empty store on.

Between calls of the library a caller makes collections and records of its own. A call that fails
does not end the run; whatever it has added to the store by then stays there.

* `Act.run`: what a sequence of acts answers, `Store.after` the store that it leaves.
* `Act.RunsAlike`: two runs that differ only in literals.
* `together_run`: like runs succeed and fail together and leave like stores.
-/

namespace GraphQuery

open Assembly

/-- What a caller does: it calls the library, or makes a collection or a record. -/
inductive Act where
  | call (c : Construction)
  | hold (o : Object)

namespace Act

/-- What an act does to the store. -/
def perform : Act → Assembly Value
  | call c => c.perform
  | hold o => made o

/-- Carries out acts one after another, and answers what they make. -/
def run : List Act → StateM Store (List (Except Fault Value))
  | [] => return []
  | a :: rest => do
    let answer ← attempt a.perform
    return answer :: (← run rest)

end Act

namespace Store

/-- The store after acts. -/
def after (s : Store) (acts : List Act) : Store := (outcome (Act.run acts) s).2

/-- What acts answer. -/
def replies (s : Store) (acts : List Act) : List (Except Fault Value) :=
  (outcome (Act.run acts) s).1

@[simp] theorem after_nil (s : Store) : s.after [] = s := rfl

@[simp] theorem after_cons (s : Store) (a : Act) (acts : List Act) :
    s.after (a :: acts) = (outcome a.perform.run s).2.after acts := rfl

/-- Nothing is in the store at first. -/
@[simp] theorem get?_empty (h : Nat) : empty.get? h = none := rfl

/-- Two stores without objects are alike. -/
theorem alike_empty (R : Value → Value → Prop) : empty.Alike R empty where
  next_eq := rfl
  unassigned := rfl
  unassigned' := rfl
  objects h o o' found := by
    rw [get?_empty] at found
    cases found

end Store

variable {R : Value → Value → Prop} {s s' : Store}

/-! ### Two runs -/

/-- Two acts that differ only in literals. What a caller makes of its own is free: where it matters
to a call, the likeness of the calls says what has to be in it. -/
inductive Act.Alike (R : Value → Value → Prop) (s s' : Store) : Act → Act → Prop where
  | call {c c' : Construction} : c.Alike R s s' c' → Alike R s s' (.call c) (.call c')
  | hold {o o' : Object} : o.isData = true → o'.isData = true → Alike R s s' (.hold o) (.hold o')

/-- Two runs that differ only in literals: their acts do in turn, on the stores they happen on. -/
inductive Act.RunsAlike (R : Value → Value → Prop) :
    Store → Store → List Act → List Act → Prop where
  | nil {s s' : Store} : RunsAlike R s s' [] []
  | cons {s s' : Store} {a a' : Act} {as as' : List Act} : a.Alike R s s' a' →
      RunsAlike R (outcome a.perform.run s).2 (outcome a'.perform.run s').2 as as' →
      RunsAlike R s s' (a :: as) (a' :: as')

/-- Acts that differ only in literals go on together. -/
theorem agree_act (like : s.Alike R s') {a a' : Act} (alike : a.Alike R s s' a') :
    Agree R Same s s' a.perform a'.perform := by
  cases alike with
  | call alike => exact agree_perform like alike
  | hold isData isData' => exact agree_made like (.data isData isData')

/-- Runs that differ only in literals go on together. -/
theorem together_run (like : s.Alike R s') {as as' : List Act}
    (alike : Act.RunsAlike R s s' as as') :
    Together R (fun _ _ => List.Forall₂ (Answers Eq)) s s' (Act.run as) (Act.run as') := by
  induction alike with
  | nil => exact Together.pure like .nil
  | cons act rest ih =>
    have first := agree_act like act
    have others := ih first.alike
    refine ⟨others.alike, first.grows.trans others.grows, first.grows'.trans others.grows', ?_⟩
    exact .cons (first.results.imp fun _ _ same => same.symm) others.results

end GraphQuery
