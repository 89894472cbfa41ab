import GraphQuery.Session.Configuring
import GraphQuery.Session.Logging

/-!
What operations on a session come to.

* `Session.outcome`: the answer of an operation, and the session that it leaves.
* `Session.outcome_bind_of_ok`, `Session.outcome_bind_of_error`: operations one after another, where
  the first failure ends all.
-/

namespace GraphQuery

namespace Session

variable {α β : Type}

/-- What an operation comes to: its answer, and the session that it leaves. -/
abbrev outcome (s : Session) (m : Operation α) : Except Fault α × Session := m.run.run s

variable {s t : Session} {m : Operation α} {f : α → Operation β}

/-- What goes well is followed by the next operation. -/
theorem outcome_bind_of_ok {a : α} (ok : s.outcome m = (.ok a, t)) :
    s.outcome (m >>= f) = t.outcome (f a) := by
  change ExceptT.bindCont f (s.outcome m).1 (s.outcome m).2 = _
  rw [ok]
  rfl

/-- A failure ends all that would follow. -/
theorem outcome_bind_of_error {fault : Fault} (failed : s.outcome m = (.error fault, t)) :
    s.outcome (m >>= f) = (.error fault, t) := by
  change ExceptT.bindCont f (s.outcome m).1 (s.outcome m).2 = _
  rw [failed]
  rfl

/-- What is answered in two steps is answered in both. -/
theorem exists_of_outcome_bind {b : β} (ok : (s.outcome (m >>= f)).1 = .ok b) :
    ∃ a t, s.outcome m = (.ok a, t) ∧ (t.outcome (f a)).1 = .ok b := by
  cases result : (s.outcome m).1 with
  | ok a =>
    have eq : s.outcome m = (.ok a, (s.outcome m).2) := Prod.ext result rfl
    rw [outcome_bind_of_ok eq] at ok
    exact ⟨a, _, eq, ok⟩
  | error fault =>
    rw [outcome_bind_of_error (Prod.ext result rfl : s.outcome m = (.error fault, _))] at ok
    cases ok

/-- What is made of an answer does not concern the session. -/
theorem outcome_map (s : Session) (m : Operation α) (g : α → β) :
    s.outcome (g <$> m) = (g <$> (s.outcome m).1, (s.outcome m).2) := by
  change ExceptT.bindCont (fun a => (pure (g a) : Operation β)) (s.outcome m).1 (s.outcome m).2 = _
  cases (s.outcome m).1 <;> rfl

@[simp] theorem outcome_get (s : Session) : s.outcome get = (.ok s, s) := rfl

@[simp] theorem outcome_set (s t : Session) :
    s.outcome (set t) = (.ok PUnit.unit, t) := rfl

@[simp] theorem outcome_view (s : Session) :
    s.outcome Operation.view = (.ok s.store.view, s) := rfl

@[simp] theorem outcome_replace (s : Session) (h : Nat) (o : Object) :
    s.outcome (Operation.replace h o) = (.ok (), { s with store := s.store.replace h o }) := rfl

@[simp] theorem outcome_freshMark (s : Session) :
    s.outcome Operation.freshMark = (.ok (s.marks + 1), { s with marks := s.marks + 1 }) := rfl

@[simp] theorem outcome_settle (s : Session) (r : Except Fault α) :
    s.outcome (Operation.settle r) = (r, s) := by
  cases r <;> rfl

@[simp] theorem outcome_check (s : Session) (c : ObjectView → Except Fault α) :
    s.outcome (Operation.check c) = (c s.store.view, s) :=
  s.outcome_settle (c s.store.view)

@[simp] theorem outcome_assemble (s : Session) (step : Assembly α) :
    s.outcome (Operation.assemble step) =
      ((step.run.run s.store).1, { s with store := (step.run.run s.store).2 }) := by
  unfold Operation.assemble
  rw [outcome_bind_of_ok s.outcome_get]
  rcases step.run.run s.store with ⟨result, store⟩
  cases result <;> exact outcome_bind_of_ok (outcome_set s _)

/-- A record that reaches the level of its logger is handed to the handlers, and what they print is
printed whatever comes of it. -/
theorem outcome_give (s : Session) (logger : String) (r : LogRecord) :
    s.outcome (Operation.give logger r) =
      if s.channel.passes logger r.rank then
        let printed := (s.store.dispatch s.channel logger r).run.run ""
        (printed.1, { s with log := s.log ++ printed.2 })
      else (.ok (), s) := by
  change s.outcome (if _ then _ else _) = _
  split
  · exact (outcome_bind_of_ok (outcome_set _ _)).trans (outcome_settle _ _)
  · rfl

end Session

end GraphQuery
