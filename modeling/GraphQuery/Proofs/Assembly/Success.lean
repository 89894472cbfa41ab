import GraphQuery.Proofs.Assembly.Conformance
import GraphQuery.Proofs.Assembly.Failure

/-!
What a call that succeeds has made sure of.

A call that does not get through one of its steps fails. So if a step makes sure that something
holds of the store, and it goes on to hold while the store grows, then it holds once the call has
succeeded. If a step cannot succeed at all, neither can the call.

* `Persists`: what goes on to hold while the store grows.
* `Ensures`: what holds of the store if a step succeeds.
* `Ensures.mapM`, `Ensures.whilePassing`: one step among others.
* `Builder.Taken`, `ensures_buildOn`: the steps in which a builder takes its arguments.
-/

namespace GraphQuery

open Assembly

/-- What holds of a store goes on to hold when the store grows. -/
def Persists (P : Store → Prop) : Prop := ∀ ⦃s t⦄, s.Grows t → P s → P t

/-- If the step succeeds, something holds of the store that it leaves. -/
abbrev Ensures {α : Type} (P : Store → Prop) (s : Store) (m : Assembly α) : Prop :=
  Yields False (fun t _ => P t) s m

/-- Something holds of the store, unless there is a fault. -/
abbrev Attains {α : Type} (fault? : α → Option Fault) (P : Store → Prop) (s : Store)
    (m : StateM Store α) : Prop :=
  Leaves False (fun t a => fault? a = none → P t) s m

theorem persists_false : Persists fun _ => False := fun _ _ _ h => h

section Steps

variable {α β : Type} {P : Store → Prop} {s : Store}

/-- What comes after a step that fails is not looked at. -/
theorem outcome_bind_of_error {m : Assembly α} {f : α → Assembly β} {fault : Fault} {t : Store}
    (failed : outcome m.run s = (.error fault, t)) :
    outcome (m >>= f).run s = (.error fault, t) := by
  change outcome (ExceptT.bindCont f (outcome m.run s).1) (outcome m.run s).2 = _
  rw [failed]
  rfl

/-- A result is as it should be in two ways. -/
theorem Yields.and {Q Q' : Store → α → Prop} {m : Assembly α} (h : Yields False Q s m)
    (h' : Yields False Q' s m) : Yields False (fun t a => Q t a ∧ Q' t a) s m :=
  ⟨h.typed, h.grows, fun a eq => ⟨h.result a eq, h'.result a eq⟩⟩

/-- A step that fails makes sure of anything. -/
theorem Ensures.of_fails (typed : s.Typed False) {m : Assembly α} (fails : Fails s m) :
    Ensures P s m := by
  obtain ⟨f, eq⟩ := fails
  refine ⟨?_, ?_, ?_⟩
  · rw [eq]
    exact typed
  · rw [eq]
    exact .refl s
  · rw [eq]
    rintro _ ⟨⟩

/-- A step that cannot succeed keeps those behind it from being reached. -/
theorem Ensures.vain {m : Assembly α} (vain : Ensures (fun _ => False) s m)
    (f : α → Assembly β) : Ensures (fun _ => False) s (m >>= f) :=
  vain.bind fun _ _ reached => reached.elim

variable (persists : Persists P)
include persists

namespace Ensures

/-- What the first step makes sure of holds in the end. -/
theorem first {Q : Store → α → Prop} {m : Assembly α} {f : α → Assembly β}
    (any : Yields False Q s m) (first : Ensures P s m)
    (next : ∀ {t a}, t.Typed False → s.Grows t → Q t a → Yields False Anything t (f a)) :
    Ensures P s (m >>= f) :=
  (Yields.and any first).bind fun typed grows h =>
    (next typed grows h.1).imp fun grows _ => persists grows h.2

/-- What the step on one item makes sure of holds in the end. -/
theorem mapM {f : α → Assembly β} (each : ∀ {t} a, t.Typed False → Yields False Anything t (f a))
    {a : α} (step : ∀ {t}, t.Typed False → s.Grows t → Ensures P t (f a)) {as : List α}
    (typed : s.Typed False) (mem : a ∈ as) : Ensures P s (as.mapM f) := by
  induction as generalizing s with
  | nil => cases mem
  | cons b as ih =>
    rw [List.mapM_cons]
    by_cases eq : a = b
    · subst eq
      refine Ensures.first persists (each a typed) (step typed (.refl s)) fun typed _ _ => ?_
      exact (Yields.each lasting_anything each as typed).bind fun typed _ _ => .ok typed trivial
    · refine (each b typed).bind fun typed grows _ => ?_
      have step := fun {u} typed' further => @step u typed' (grows.trans further)
      have others := ih step typed ((List.mem_cons.mp mem).resolve_left eq)
      refine Ensures.first persists (Yields.each lasting_anything each as typed) others ?_
      exact fun typed _ _ => .ok typed trivial

/-- The same where values are taken as far as they pass. -/
theorem whilePassing {f : Value → Assembly β}
    (each : ∀ {t} v, t.Typed False → Yields False Anything t (f v)) {v : Value}
    (step : ∀ {t}, t.Typed False → s.Grows t → Ensures P t (f v)) {vs : List Value}
    (typed : s.Typed False) (mem : v ∈ vs) : Attains Prod.snd P s (whilePassing f vs) := by
  induction vs generalizing s with
  | nil => cases mem
  | cons w vs ih =>
    unfold Assembly.whilePassing
    by_cases eq : v = w
    · subst eq
      refine Leaves.bind (step typed (.refl s)) fun {t r} typed _ holds => ?_
      cases r with
      | error f => exact .pure typed fun done => absurd done (Option.some_ne_none f)
      | ok b =>
        refine (Leaves.whilePassing lasting_anything each vs typed).bind fun typed grows _ => ?_
        exact .pure typed fun _ => persists grows (holds b rfl)
    · refine Leaves.bind (each w typed) fun {t r} typed grows _ => ?_
      cases r with
      | error f => exact .pure typed fun done => absurd done (Option.some_ne_none f)
      | ok b =>
        have step := fun {u} typed' further => @step u typed' (grows.trans further)
        refine (ih step typed ((List.mem_cons.mp mem).resolve_left eq)).bind ?_
        exact fun typed _ holds => .pure typed holds

end Ensures

end Steps

/-! ### Builders that succeed -/

namespace Clause

variable {c : Clause}

theorem done_of_onSlot {slot : Slot} {change : Clause → Built}
    (done : (c.onSlot slot change).fault? = none) : (change c).fault? = none := by
  unfold onSlot at done
  split at done
  · exact done
  · cases done

theorem done_of_onOrdering {f : Ordering → Ordering} {fault? : Option Fault}
    (done : (c.onOrdering f fault?).fault? = none) : fault? = none := by
  unfold onOrdering at done
  split at done
  · exact done
  · cases done

theorem exists_of_bindPath {r : Except Fault Reference} (done : (c.bindPath r).fault? = none) :
    ∃ is, r = .ok is := by
  unfold bindPath at done
  split at done
  · cases done
  · have done := done_of_onSlot done
    cases r with
    | ok is => exact ⟨is, rfl⟩
    | error f => cases done

theorem exists_of_filterBy {r : Except Fault Value} (done : (c.filterBy r).fault? = none) :
    ∃ v, r = .ok v := by
  have done := done_of_onSlot done
  cases r with
  | ok v => exact ⟨v, rfl⟩
  | error f => cases done

theorem exists_of_project {kind : ProjectionKind} {r : Except Fault (List Column)}
    {distinct : Value} (done : (c.project kind r distinct).fault? = none) : ∃ cs, r = .ok cs := by
  have done := done_of_onSlot done
  cases r with
  | ok cs => exact ⟨cs, rfl⟩
  | error f => cases done

theorem exists_of_skip {r : Except Fault Param} (done : (c.skip r).fault? = none) :
    ∃ p, r = .ok p := by
  cases r with
  | ok p => exact ⟨p, rfl⟩
  | error f => cases done_of_onOrdering done

theorem exists_of_limit {r : Except Fault Param} (done : (c.limit r).fault? = none) :
    ∃ p, r = .ok p := by
  cases r with
  | ok p => exact ⟨p, rfl⟩
  | error f => cases done_of_onOrdering done

end Clause

/-- The steps in which a builder takes its arguments make sure of something if the builder gets
through them. -/
def Builder.Taken (P : Store → Prop) (s : Store) : Builder → Prop
  | path v => Ensures P s (Assembly.path v)
  | restrict v | relax v => Ensures P s (expression v)
  | assign vs => Attains Prod.snd P s (whilePassing assignment vs)
  | remove vs => Attains Prod.snd P s (whilePassing removal vs)
  | delete vs _ => Attains Prod.snd P s (whilePassing deletion vs)
  | project kind vs _ => Ensures P s (someColumns kind vs)
  | orderBy vs => Attains Prod.snd P s (whilePassing sortItem vs)
  | skip v => Ensures P s (rowCount "SKIP" v)
  | limit v => Ensures P s (rowCount "LIMIT" v)
  | makeOptional => P s

section Building

variable {P : Store → Prop} (persists : Persists P) {s : Store} (typed : s.Typed False)
include persists typed

/-- A builder that succeeds has taken its arguments. -/
theorem attains_build {c : Clause} (clause : c.Typed s) {b : Builder} (taken : b.Taken P s) :
    Attains Built.fault? P s (build c b) := by
  have answered : ∀ {t : Store} {α : Type} {r : Except Fault α}, (∀ a, r = .ok a → P t) →
      (∃ a, r = .ok a) → P t := fun holds ⟨a, eq⟩ => holds a eq
  cases b with
  | path v =>
    exact Leaves.bind taken fun typed _ holds =>
      .pure typed fun done => answered holds (Clause.exists_of_bindPath done)
  | restrict v =>
    refine Leaves.bind (P := fun t r => ∀ a, r = .ok a → P t) ?_ fun typed _ holds =>
      .pure typed fun done => answered holds (Clause.exists_of_filterBy done)
    exact Ensures.first persists (yields_expression typed v) taken fun typed _ stands =>
      (yields_conjoined typed stands).imp fun _ _ => trivial
  | relax v =>
    refine Leaves.bind (P := fun t r => ∀ a, r = .ok a → P t) ?_ fun typed _ holds =>
      .pure typed fun done => answered holds (Clause.exists_of_filterBy done)
    exact Ensures.first persists (yields_expression typed v) taken fun typed grows stands =>
      (yields_disjoined typed (clause.mono grows).filter stands).imp fun _ _ => trivial
  | assign vs =>
    exact Leaves.bind taken fun typed _ holds =>
      .pure typed fun done => holds (Clause.done_of_onSlot done)
  | remove vs =>
    exact Leaves.bind taken fun typed _ holds =>
      .pure typed fun done => holds (Clause.done_of_onSlot done)
  | delete vs detach =>
    exact Leaves.bind taken fun typed _ holds =>
      .pure typed fun done => holds (Clause.done_of_onSlot done)
  | project kind vs distinct =>
    exact Leaves.bind taken fun typed _ holds =>
      .pure typed fun done => answered holds (Clause.exists_of_project done)
  | orderBy vs =>
    exact Leaves.bind taken fun typed _ holds =>
      .pure typed fun done => holds (Clause.done_of_onOrdering done)
  | skip v =>
    exact Leaves.bind taken fun typed _ holds =>
      .pure typed fun done => answered holds (Clause.exists_of_skip done)
  | limit v =>
    exact Leaves.bind taken fun typed _ holds =>
      .pure typed fun done => answered holds (Clause.exists_of_limit done)
  | makeOptional => exact .pure typed fun _ => taken

/-- A builder call that succeeds has taken its arguments. -/
theorem ensures_buildOn (h : Nat) {b : Builder} (taken : b.Taken P s) :
    Ensures P s (buildOn h b) := by
  by_cases isClause : ∃ c, s.get? h = some (.clause c)
  · obtain ⟨c, found⟩ := isClause
    have built := attains_build persists typed (typed.objects found) taken
    have any := yields_buildOn typed h b
    obtain ⟨c', found'⟩ := built.grows.exists_clause found
    refine ⟨any.typed, any.grows, fun v answer => ?_⟩
    rw [outcome_buildOn typed.unassigned found] at answer ⊢
    refine persists (.replace found' .clause) (built.result ?_)
    cases fault : (outcome (build c b) s).1.fault? with
    | none => rfl
    | some f =>
      rw [fault] at answer
      cases answer
  · exact .of_fails typed (fails_buildOn (fun c eq => isClause ⟨c, eq⟩) b)

end Building

end GraphQuery
