import GraphQuery.Proofs.Assembly.Failure
import GraphQuery.Proofs.Compile.Separation

/-!
Calls that are refused leave no trace.

Whether a clause can carry what a builder would add is asked before anything else, so a call that it
cannot carry is refused in the same way whatever its arguments are. Where such a call is refused,
and where a builder that takes all its arguments first fails for any reason, every object stays just
as it was: the clause with its columns, its ordering and all its slots, and whatever it is in.

* `Store.tree_eq_of_kept`: where all objects are kept, so are their trees.
* `refused_calls_leave_no_trace`: what this comes to for the calls of the library.
-/

namespace GraphQuery

open Assembly

namespace Store

variable {s t : Store}

/-- Where all objects are kept, each of them has the tree that it had. -/
theorem tree_eq_of_kept {R : Value → Value → Prop} {strict : Prop} (grows : s.Grows t)
    (like : s.Alike R s) (typed : s.Typed strict) (unassigned : t.assignments = [])
    (complete : s.IsComplete) (kept : ∀ i, i < s.next → t.get? i = s.get? i) {g : Nat}
    (lt : g < s.next) : t.tree g = s.tree g := by
  rw [← valueTree_object, ← valueTree_object]
  refine treeFrom_of_kept grows like typed unassigned List.nodup_range List.nodup_range
    (fun i (lt : i < s.next) => ?_) (fun i lt _ => ⟨kept i lt, fun g contains => ?_⟩) lt
  · rw [List.mem_range, List.mem_range]
    exact iff_of_true (Nat.lt_of_lt_of_le lt grows.next_le) lt
  · exact complete.lt_of_contains contains

end Store

/-! ### Builder calls on a clause -/

/-- The clause behind a handle. -/
def Store.clause? (s : Store) (h : Nat) : Option Clause :=
  match s.get? h with
  | some (.clause c) => some c
  | _ => none

theorem Store.get?_of_clause? {s : Store} {h : Nat} {c : Clause} (found : s.clause? h = some c) :
    s.get? h = some (.clause c) := by
  unfold Store.clause? at found
  split at found
  · rename_i eq
    cases found
    exact eq
  · cases found

section Building

variable {s : Store} (typed : s.Typed False) {h : Nat} {c : Clause}
  (found : s.get? h = some (.clause c)) (b : Builder)
include typed found

/-- What a builder call answers. -/
theorem perform_build :
    (outcome (Construction.build h b).perform.run s).1 =
      (outcome (build c b) s).1.fault?.elim (.ok (.object h)) .error := by
  change (outcome (buildOn h b).run s).1 = _
  rw [outcome_buildOn typed.unassigned found b]

/-- What is behind the handle of a clause after a builder call. -/
theorem get?_perform_build :
    (outcome (Construction.build h b).perform.run s).2.get? h =
      some (.clause (outcome (build c b) s).1.clause) := by
  change (outcome (buildOn h b).run s).2.get? h = _
  rw [outcome_buildOn typed.unassigned found b]
  have grows := (leaves_build typed (typed.objects found) b).grows
  exact Store.get?_replace_self (Nat.lt_of_lt_of_le (Store.lt_of_get? found) grows.next_le) _

variable {b} in
/-- A builder call that fails has ended in a fault. -/
theorem fault?_of_failed {f : Fault}
    (failed : (outcome (Construction.build h b).perform.run s).1 = .error f) :
    (outcome (build c b) s).1.fault? = some f := by
  rw [perform_build typed found] at failed
  cases fault : (outcome (build c b) s).1.fault? with
  | none =>
    rw [fault] at failed
    cases failed
  | some f' =>
    rw [fault] at failed
    cases failed
    rfl

end Building

/-! ### Calls of the library -/

/-- A call that a clause refuses because it has no slot for it, because there is nothing to order or
because its patterns can share no path fails with just that fault, whatever its arguments are.
After such a call, and after any failure of a builder that replaces a projection, sets a row count,
joins a predicate or makes patterns optional, the clause is what it was before, with its columns,
its ordering and all of its slots. All other objects stay as well, so all of them, the clause among
them, are written and compiled as before. -/
theorem refused_calls_leave_no_trace {s : Store} (assembled : s.Assembled) {h : Nat} {c : Clause}
    (found : s.get? h = some (.clause c)) {b : Builder}
    (exported : (Construction.build h b).Exported s) :
    let call := Construction.build h b
    let result := (outcome call.perform.run s).1
    let t := (outcome call.perform.run s).2
    (∀ f, c.Refuses b f → result = .error f) ∧
    ∀ f, result = .error f → (c.Refuses b f ∨ b.isWhole = true) →
      t.get? h = some (.clause c) ∧
      (∀ i, i < s.next → t.get? i = s.get? i) ∧
      ∀ g, g < s.next →
        (∀ {σ : Type} [Registry σ] (e : σ), t.write g e = s.write g e) ∧
        ∀ settings : Settings, settings.IsPlain → t.compile settings g = s.compile settings g := by
  intro call result t
  have typed := assembled.typed
  refine ⟨fun f refuses => ?_, fun f failed reason => ?_⟩
  · rw [show result = _ from perform_build typed found b, build_of_refuses refuses]
    rfl
  have stays : (outcome (build c b) s).1.clause = c := by
    rcases reason with refuses | whole
    · rw [build_of_refuses refuses]
      rfl
    · exact clause_of_failed whole (fault?_of_failed typed found failed)
  have here : t.get? h = some (.clause c) := stays ▸ get?_perform_build typed found b
  have changes := Store.changes_perform typed exported (h := h) rfl
  have kept : ∀ i, i < s.next → t.get? i = s.get? i := by
    intro i lt
    by_cases eq : i = h
    · rw [eq, here, found]
    · exact changes.get?_eq lt eq
  have later : t.Assembled := .call assembled exported
  refine ⟨here, kept, fun g lt => ?_⟩
  have tree_eq : t.tree g = s.tree g := Store.tree_eq_of_kept changes.grows assembled.sound typed
    later.typed.unassigned assembled.isComplete kept lt
  refine ⟨fun e => ?_, fun settings plain => Store.compile_eq_of_tree_eq plain tree_eq ?_⟩
  · rw [Store.write, Store.write, Store.template, Store.template, tree_eq]
  · rw [Store.className, Store.className, kept g lt]

/-- Distinct columns are returned in an order. They cannot be replaced by columns with a star behind
the first one, and a clause that creates patterns cannot be filtered. -/
theorem refused_calls_leave_no_trace_star :
    let calls : List Construction := [.node .null none, .property (.object 0) [.text "age"],
      .read false (.bool false) [.object 0],
      .build 3 (.project .returning [.object 0, .object 1] (.bool true)),
      .build 3 (.orderBy [.object 1]), .create [.object 0]]
    let s := Store.empty.called calls
    let star : Construction := .build 3 (.project .returning [.object 1, .text "*"] (.bool false))
    let filter : Construction := .build 5 (.restrict (.text "x"))
    s.Assembled ∧ star.Exported s ∧ filter.Exported s ∧
    (outcome star.perform.run s).1 = .error (.refused .starPosition) ∧
    (outcome star.perform.run s).2.compile .defaults 3 = s.compile .defaults 3 ∧
    (s.compile .defaults 3).result.toOption.map CompiledQuery.text =
      some "MATCH (this0)\nRETURN DISTINCT this0, this0.age\nORDER BY this0.age" ∧
    ∃ c, s.get? 5 = some (.clause c) ∧ c.Refuses (.restrict (.text "x")) (c.unsupported .filter) ∧
      (outcome filter.perform.run s).1 = .error (c.unsupported .filter) ∧
      (outcome filter.perform.run s).2.get? 5 = some (.clause c) := by
  intro calls s star filter
  have inTurn : Store.empty.ExportedInTurn calls :=
    .plain trivial rfl (.plain trivial rfl (.plain trivial rfl (.plain trivial rfl
      (.plain trivial rfl (.plain trivial rfl .nil)))))
  have assembled : s.Assembled := Store.Assembled.empty.called inTurn
  have star_exported : star.Exported s := ⟨trivial, Store.knowsWithin_of_isPlain rfl⟩
  have filter_exported : filter.Exported s := ⟨trivial, Store.knowsWithin_of_isPlain rfl⟩
  have failed : (outcome star.perform.run s).1 = .error (.refused .starPosition) := by
    decide +kernel
  have text : (s.compile .defaults 3).result.toOption.map CompiledQuery.text =
      some "MATCH (this0)\nRETURN DISTINCT this0, this0.age\nORDER BY this0.age" := by
    decide +kernel
  have there : 3 < s.next := by decide +kernel
  have reads : (s.clause? 3).isSome = true := by decide +kernel
  have creates : (s.clause? 5).any (fun c => !c.supports .filter) = true := by decide +kernel
  have plain : Settings.defaults.IsPlain := Settings.defaults_isPlain
  -- From here on it does not matter what is in the store.
  clear_value s
  obtain ⟨c₃, found₃⟩ := Option.isSome_iff_exists.mp reads
  obtain ⟨c₅, found₅, absent⟩ := (Option.any_eq_true _ _).mp creates
  have refuses : c₅.Refuses (.restrict (.text "x")) (c₅.unsupported .filter) :=
    .unsupported rfl (by simpa using absent)
  obtain ⟨-, traceless⟩ :=
    refused_calls_leave_no_trace assembled (Store.get?_of_clause? found₃) star_exported
  obtain ⟨refused, traceless'⟩ :=
    refused_calls_leave_no_trace assembled (Store.get?_of_clause? found₅) filter_exported
  have same := (traceless _ failed (.inr rfl)).2.2 3 there
  have result := refused _ refuses
  exact ⟨assembled, star_exported, filter_exported, failed, same.2 _ plain, text, c₅,
    Store.get?_of_clause? found₅, refuses, result, (traceless' _ result (.inl refuses)).1⟩

end GraphQuery
