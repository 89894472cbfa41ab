import GraphQuery.Proofs.History.Clause

/-!
What has been called on a clause.

A clause is made with a head, and builders are called on it from then on. In between everything else
may go on: other objects are made, other clauses are built, and calls may fail. None of this touches
the clause, which holds what the calls that have succeeded on it come to.

* `Store.Told`: the calls that have succeeded on a clause.
* `Construction.clause_kept`: all other calls leave a clause alone.
* `Store.Told.follows`: a clause holds what the calls on it come to.
* `Store.Told.build`: a builder call that succeeds is one of them.
-/

namespace GraphQuery

open Assembly History

/-! ### Calls that leave a clause alone -/

/-- What spares all clauses leaves them where they were. -/
theorem Store.Spared.get?_eq {s t : Store} (spared : s.Spared t) (grows : s.Grows t) {h : Nat}
    {c : Clause} (found : s.get? h = some (.clause c)) : t.get? h = some (.clause c) := by
  obtain ⟨c', found'⟩ := grows.exists_clause found
  cases found.symm.trans (spared found')
  exact found'

section Steps

variable {α : Type} {s : Store} {m : Assembly α} {o : α → Object}

/-- What a step makes of what it has taken. -/
theorem outcome_made {a : α} (ok : (outcome m.run s).1 = .ok a) :
    outcome (m >>= fun a => made (o a)).run s =
      (.ok (.object (outcome m.run s).2.next), (outcome m.run s).2.push (o a)) := by
  rw [outcome_bind_of_ok (Prod.ext ok rfl)]
  rfl

/-- A step that makes an object leaves the clauses that are there alone. -/
theorem get?_made (spares : Spares m.run) (grows : s.Grows (outcome m.run s).2) {h : Nat}
    {c : Clause} (found : s.get? h = some (.clause c)) :
    (outcome (m >>= fun a => made (o a)).run s).2.get? h = some (.clause c) := by
  have kept := (spares s).get?_eq grows found
  cases answer : (outcome m.run s).1 with
  | ok a =>
    rw [outcome_made answer]
    exact (Store.get?_push_of_lt (Store.lt_of_get? kept) _).trans kept
  | error f =>
    change (outcome (ExceptT.bindCont (fun a => made (o a)) (outcome m.run s).1)
      (outcome m.run s).2).2.get? h = _
    rw [answer]
    exact kept

end Steps

namespace Construction

variable {s : Store}

/-- The clause that a call makes is nothing but its head. -/
theorem Heads.get?_eq {k : Construction} {head : Head} (heads : k.Heads s head) {h : Nat}
    (ok : (outcome k.perform.run s).1 = .ok (.object h)) :
    (outcome k.perform.run s).2.get? h = some (.clause (.ofHead head)) := by
  have made : ∀ {α : Type} {m : Assembly α} {f : α → Object} {a : α}, (outcome m.run s).1 = .ok a →
      (outcome (m >>= fun a => made (f a)).run s).1 = .ok (.object h) →
      (outcome (m >>= fun a => made (f a)).run s).2.get? h = some (f a) := by
    intro α m f a taken ok
    rw [outcome_made taken] at ok ⊢
    cases ok
    exact Store.get?_push_next _ _
  cases heads with
  | read taken => exact made taken ok
  | create taken => exact made taken ok
  | projection taken => exact made taken ok

/-- A call that is no builder call on a clause leaves it alone. -/
theorem clause_kept {R : Value → Value → Prop} (like : s.Alike R s) {k : Construction}
    (alike : k.Alike R s s k) {h : Nat} (other : ∀ b, k ≠ .build h b) {c : Clause}
    (found : s.get? h = some (.clause c)) :
    (outcome k.perform.run s).2.get? h = some (.clause c) := by
  obtain ⟨c', found'⟩ := (agree_perform like alike).grows.exists_clause found
  rcases k.clause_cases like.unassigned found' with old | ⟨head, heads, -⟩ | ⟨_, b, eq, -⟩
  · rw [found', ← old, found]
  · cases heads with
    | read _ =>
      exact get?_made (furnishes_patterns _ _).spares (agree_patterns like _ _).grows found
    | create _ =>
      exact get?_made (furnishes_patterns _ _).spares (agree_patterns like _ _).grows found
    | projection _ =>
      cases alike with
      | projection paired _ =>
        exact get?_made (furnishes_someColumns _ _).spares
          (agree_someColumns like _ paired).grows found
  · exact absurd eq (other b)

end Construction

/-! ### Calls on a clause -/

/-- The calls that have succeeded on a clause since it was made with a head. All other calls may
have failed. -/
inductive Store.Told (h : Nat) (head : Head) : Store → List Call → Prop where
  | made {s : Store} {k : Construction} : s.Assembled → k.Exported s → k.Heads s head →
      (outcome k.perform.run s).1 = .ok (.object h) → Told h head (outcome k.perform.run s).2 []
  | built {s : Store} {calls : List Call} {b : Builder} {call : Call} : Told h head s calls →
      (Construction.build h b).Exported s → (outcome (buildOn h b).run s).1 = .ok (.object h) →
      (outcome b.take.run s).1 = .ok call →
      Told h head (outcome (buildOn h b).run s).2 (calls ++ [call])
  | other {s : Store} {calls : List Call} {k : Construction} : Told h head s calls →
      k.Exported s → (∀ b, k ≠ .build h b) → Told h head (outcome k.perform.run s).2 calls
  | held {s : Store} {calls : List Call} {o : Object} : Told h head s calls → o.isData = true →
      Told h head (s.push o) calls

/-- A clause that is nothing but its head holds what no calls come to. -/
theorem Construction.Heads.follows {s t : Store} {k : Construction} {head : Head}
    (h : k.Heads s head) : (Clause.ofHead head).Follows t (contents head []) where
  head := by cases h <;> rfl
  path := rfl
  filter := .nil
  assignments := rfl
  removals := rfl
  deletion := rfl
  passing := rfl
  returning := rfl

namespace Store

variable {h : Nat} {head : Head} {s : Store} {calls : List Call}

/-- What a builder call that succeeds answers, and where it leaves the clause. -/
theorem clause_built (unassigned : s.assignments = []) {c : Clause}
    (found : s.get? h = some (.clause c)) {b : Builder} {v : Value}
    (ok : (outcome (buildOn h b).run s).1 = .ok v) :
    (outcome (build c b) s).1.fault? = none ∧
      (s.Grows (outcome (build c b) s).2 →
        (outcome (build c b) s).2.Grows (outcome (buildOn h b).run s).2 ∧
        (outcome (buildOn h b).run s).2.get? h =
          some (.clause (outcome (build c b) s).1.clause)) := by
  rw [outcome_buildOn unassigned found] at ok ⊢
  refine ⟨?_, fun grows => ?_⟩
  · cases fault : (outcome (build c b) s).1.fault? with
    | none => rfl
    | some f =>
      rw [fault] at ok
      cases ok
  · obtain ⟨c', kept⟩ := grows.exists_clause found
    exact ⟨.replace kept .clause, get?_replace_self (lt_of_get? kept) _⟩

theorem Told.assembled (told : Told h head s calls) : s.Assembled := by
  induction told with
  | made assembled exported _ _ => exact .call assembled exported
  | built _ exported _ _ ih => exact .call ih exported
  | other _ exported _ ih => exact .call ih exported
  | held _ isData ih => exact .hold ih isData

/-- A builder call that succeeds has taken its arguments, and the clause holds one call more. -/
theorem follows_built (like : s.Alike (fun _ _ => True) s) {c : Clause}
    (found : s.get? h = some (.clause c)) (follows : c.Follows s (contents head calls))
    (orderly : Orderly head calls) {b : Builder} (exported : (Construction.build h b).Exported s)
    {v : Value} (ok : (outcome (buildOn h b).run s).1 = .ok v) :
    ∃ call c', (outcome b.take.run s).1 = .ok call ∧
      (outcome (buildOn h b).run s).2.get? h = some (.clause c') ∧
      c'.Follows (outcome (buildOn h b).run s).2 (contents head (calls ++ [call])) ∧
      Orderly head (calls ++ [call]) := by
  cases like.objects found found with
  | clause clause =>
    obtain ⟨succeeds, placed⟩ := clause_built like.unassigned found ok
    have alike := Builder.Alike.same (R := fun _ _ => True) exported.known fun _ _ => trivial
    obtain ⟨grows, found'⟩ := placed (together_build like clause alike).grows
    obtain ⟨call, taken, follows, orderly⟩ :=
      follows.build like clause orderly exported.known succeeds
    exact ⟨call, _, taken, found', follows.mono grows, orderly⟩
  | data isData _ => cases isData

/-- A clause holds what the calls come to that have succeeded on it. -/
theorem Told.follows (told : Told h head s calls) :
    ∃ c, s.get? h = some (.clause c) ∧ c.Follows s (contents head calls) ∧
      Orderly head calls := by
  induction told with
  | made _ _ heads ok => exact ⟨_, heads.get?_eq ok, heads.follows, .nil _⟩
  | built before exported ok taken ih =>
    obtain ⟨c, found, follows, orderly⟩ := ih
    obtain ⟨call, c', taken', found', follows'⟩ :=
      follows_built before.assembled.sound found follows orderly exported ok
    cases taken.symm.trans taken'
    exact ⟨c', found', follows'⟩
  | other before exported other ih =>
    obtain ⟨c, found, follows, orderly⟩ := ih
    have like := before.assembled.sound
    exact ⟨c, Construction.clause_kept like exported.alike other found,
      follows.mono (agree_perform like exported.alike).grows, orderly⟩
  | held _ _ ih =>
    obtain ⟨c, found, follows, orderly⟩ := ih
    exact ⟨c, (get?_push_of_lt (lt_of_get? found) _).trans found, follows.mono (.push _ _), orderly⟩

/-- Whatever builder call succeeds on a clause, it is one call more. -/
theorem Told.build (told : Told h head s calls) {b : Builder}
    (exported : (Construction.build h b).Exported s)
    (ok : (outcome (buildOn h b).run s).1 = .ok (.object h)) :
    ∃ call, (outcome b.take.run s).1 = .ok call ∧
      Told h head (outcome (buildOn h b).run s).2 (calls ++ [call]) := by
  obtain ⟨c, found, follows, orderly⟩ := told.follows
  obtain ⟨call, _, taken, -⟩ :=
    follows_built told.assembled.sound found follows orderly exported ok
  exact ⟨call, taken, .built told exported ok taken⟩

/-- Where there can be a filter, a predicate that is taken is always joined to it, and that is one
call more. -/
theorem Told.join (told : Told h head s calls) (supported : .filter ∈ head.manifest)
    (connective : Connective) {v p : Value}
    (exported : (Construction.build h (connective.builder v)).Exported s)
    (taken : (outcome (expression v).run s).1 = .ok p) :
    (outcome (buildOn h (connective.builder v)).run s).1 = .ok (.object h) ∧
      Told h head (outcome (buildOn h (connective.builder v)).run s).2
        (calls ++ [.join connective p]) := by
  have like := told.assembled.sound
  obtain ⟨c, found, follows, -⟩ := told.follows
  have ok : (outcome (buildOn h (connective.builder v)).run s).1 = .ok (.object h) := by
    cases like.objects found found with
    | clause clause =>
      have supports : c.supports .filter = true := by
        rw [Clause.supports, follows.head]
        change (head.after calls).manifest.contains Slot.filter = true
        rw [head.manifest_after]
        exact List.contains_iff_mem.mpr supported
      have argument : v ∈ (connective.builder v).arguments := by
        cases connective <;> exact List.mem_cons_self
      have joined := Clause.fault?_build_join like clause supports
        (.same (exported.known v argument).known trivial) taken connective
      rw [outcome_buildOn like.unassigned found, joined]
      rfl
    | data isData _ => cases isData
  refine ⟨ok, .built told exported ok ?_⟩
  cases connective <;> exact outcome_map_of_ok taken

end Store

end GraphQuery
