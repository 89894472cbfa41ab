import GraphQuery.Proofs.Assembly.Failure
import GraphQuery.Proofs.Assembly.Furnishing

/-!
What becomes of a builder call that fails half way.

Assignments, removals, deletions and sort items are taken one by one, and the first one that does
not pass ends the call. By then those in front of it have been taken over, just as if the call had
been made on them alone. A path is put into a slot that is made before it is looked at.

* `Builder.entries`, `Builder.on`: the arguments that are taken one by one, and the same call on
  others.
* `Clause.Interrupted`: a call has been made on some of the arguments alone.
* `build_interrupted`: what a call that fails has come to.
* `Clause.Interrupted.populated_eq_iff`: when the slots that exist stay the same.
-/

namespace GraphQuery

open Assembly

/-! ### Steps that fail without a trace -/

/-- Where the step fails, it changes nothing. -/
def Inert {α : Type} (m : Assembly α) : Prop :=
  ∀ s f, (outcome m.run s).1 = .error f → (outcome m.run s).2 = s

namespace Inert

variable {α β : Type}

theorem of_reads {m : Assembly α} (reads : Reads m) : Inert m := fun s _ _ => reads s

/-- A step that does not fail. -/
theorem of_ok {m : Assembly α} (ok : ∀ s, ∃ a, (outcome m.run s).1 = .ok a) : Inert m := by
  intro s f failed
  obtain ⟨a, eq⟩ := ok s
  rw [eq] at failed
  cases failed

/-- A step after one that only reads. -/
theorem reading {m : Assembly α} {f : α → Assembly β} (reads : Reads m)
    (next : ∀ a, Inert (f a)) : Inert (m >>= f) := by
  intro s fault
  change (outcome (ExceptT.bindCont f (outcome m.run s).1) (outcome m.run s).2).1 = _ →
    (outcome (ExceptT.bindCont f (outcome m.run s).1) (outcome m.run s).2).2 = s
  rw [reads s]
  cases (outcome m.run s).1 with
  | ok a => exact next a s fault
  | error f => exact fun _ => rfl

end Inert

section Arguments

theorem reads_refuse {α : Type} (cause : Refusal) : Reads (refuse cause : Assembly α) := fun _ => rfl

theorem reads_refuseQuoted {α : Type} (v : Value) (cause : String → Refusal) :
    Reads (do refuse (cause (← quoted v)) : Assembly α) :=
  .andThen (reads_check v.quoted) fun _ => reads_refuse _

theorem reads_refuseTyped {α : Type} (v : Value) (cause : String → Refusal) :
    Reads (do refuse (cause (← typeName v)) : Assembly α) :=
  .andThen (fun _ => rfl) fun _ => reads_refuse _

/-- Every value is an operand. -/
theorem exists_expression (v : Value) (s : Store) :
    ∃ w, (outcome (expression v).run s).1 = .ok w := by
  cases v with
  | atom a mark => exact ⟨_, rfl⟩
  | object h =>
    cases compilable : s.isCompilable h with
    | true =>
      refine ⟨.object h, ?_⟩
      change (outcome (if s.isCompilable h = true then _ else _ : Assembly Value).run s).1 = _
      rw [if_pos compilable]
      rfl
    | false =>
      refine ⟨.object s.next, ?_⟩
      change (outcome (if s.isCompilable h = true then _ else _ : Assembly Value).run s).1 = _
      rw [if_neg (by simp [compilable])]
      rfl

theorem inert_assignment (v : Value) : Inert (assignment v) := by
  refine .reading (reads_object? v) fun o? => ?_
  split
  · refine .reading (reads_object? _) fun o? => ?_
    split
    · refine .of_ok fun s => ?_
      obtain ⟨w, ok⟩ := exists_expression _ s
      rw [outcome_bind_of_ok (Prod.ext ok rfl)]
      exact ⟨_, rfl⟩
    · exact .of_reads (reads_refuseTyped _ _)
  · exact .of_reads (reads_refuseQuoted v _)

theorem inert_removal (v : Value) : Inert (removal v) := by
  refine .of_reads (.andThen (reads_object? v) fun o? => ?_)
  split
  · exact .ok _
  · exact reads_refuseTyped v _

theorem inert_deletion (v : Value) : Inert (deletion v) := by
  refine .of_reads (.andThen (reads_reference? v) fun r? => ?_)
  split
  · exact .ok _
  · exact reads_refuseTyped v _

theorem reads_sortOrder (v : Value) : Reads (sortOrder v) := by
  refine .andThen (reads_plain v) fun s => ?_
  dsimp only
  split
  · exact .ok _
  · exact reads_refuseQuoted v _

theorem inert_sortItem (v : Value) : Inert (sortItem v) := by
  have item : ∀ p : Value × String, Reads (sortItemOf p.1 p.2) := fun p => by
    refine .andThen (reads_isExpression p.1) fun isExpression => ?_
    split
    · exact .ok _
    · exact reads_refuseQuoted p.1 _
  refine .of_reads (.andThen (reads_object? v) fun o? => ?_)
  dsimp only
  split
  · exact .andThen (reads_sortOrder _) fun order => .andThen (.ok _) item
  · exact .andThen (reads_refuse _) item
  · exact .andThen (.ok _) item

end Arguments

/-! ### Arguments one by one -/

section Passing

variable {α : Type} {pass : Value → Assembly α}

/-- The first value that does not pass ends the taking, and changes nothing. -/
theorem exists_of_whilePassing_failed (inert : ∀ v, Inert (pass v)) {s : Store} {vs : List Value}
    {f : Fault} (failed : (outcome (whilePassing pass vs) s).1.2 = some f) :
    ∃ taken v rest as t, vs = taken ++ v :: rest ∧ as.length = taken.length ∧
      outcome (whilePassing pass taken) s = ((as, none), t) ∧
      outcome (whilePassing pass (taken ++ [v])) s = ((as, some f), t) ∧
      outcome (whilePassing pass vs) s = ((as, some f), t) := by
  induction vs generalizing s with
  | nil => cases failed
  | cons v vs ih =>
    rw [whilePassing] at failed
    rcases first : outcome (pass v).run s with ⟨fault | a, u⟩
    · rw [outcome_bind_of_eq first] at failed
      cases failed
      have same : u = s := by
        have kept := inert v s f (by rw [first])
        rwa [first] at kept
      subst same
      have ended : ∀ vs, outcome (whilePassing pass (v :: vs)) u = (([], some f), u) := fun vs => by
        rw [whilePassing, outcome_bind_of_eq first]
        rfl
      exact ⟨[], v, vs, [], u, rfl, rfl, rfl, ended [], ended vs⟩
    · rw [outcome_bind_of_eq first] at failed
      have failed : (outcome (whilePassing pass vs) u).1.2 = some f := failed
      obtain ⟨taken, w, rest, as, t, rfl, length, passed, stopped, all⟩ := ih failed
      have more : ∀ {ws : List Value} {fault? : Option Fault},
          outcome (whilePassing pass ws) u = ((as, fault?), t) →
          outcome (whilePassing pass (v :: ws)) s = ((a :: as, fault?), t) := fun taken => by
        rw [whilePassing, outcome_bind_of_eq first]
        change outcome (whilePassing pass _ >>= fun r => Pure.pure (a :: r.1, r.2)) u = _
        rw [outcome_bind_of_eq taken]
        rfl
      exact ⟨v :: taken, w, rest, a :: as, t, rfl, congrArg (· + 1) length, more passed,
        more stopped, more all⟩

/-- What is made of the values that pass is the same, except for the fault, whether or not there were
others to take. `cut` is what is made of them in a call on them alone. -/
theorem interrupted_of_failed (inert : ∀ v, Inert (pass v))
    (make cut : List α → Option Fault → Built)
    (fault : ∀ as fault?, (make as fault?).fault? = fault?)
    (short : ∀ as f, cut as none = ⟨(make as (some f)).clause, none⟩)
    (same : ∀ as f, cut as (some f) = make as (some f)) {s : Store} {vs : List Value} {f : Fault} :
    let all := outcome (whilePassing pass vs) s
    (make all.1.1 all.1.2).fault? = some f →
      ∃ taken v rest, vs = taken ++ v :: rest ∧ all.1.1.length = taken.length ∧
        (let r := outcome (whilePassing pass taken) s
        (cut r.1.1 r.1.2, r.2) = (⟨(make all.1.1 all.1.2).clause, none⟩, all.2)) ∧
        (let r := outcome (whilePassing pass (taken ++ [v])) s
        (cut r.1.1 r.1.2, r.2) = (make all.1.1 all.1.2, all.2)) := by
  intro all failed
  rw [fault] at failed
  obtain ⟨taken, v, rest, as, t, eq, length, passed, stopped, ended⟩ :=
    exists_of_whilePassing_failed inert failed
  refine ⟨taken, v, rest, eq, by simp only [all, ended, length], ?_, ?_⟩
  · simp only [all, passed, ended, short as f]
  · simp only [all, stopped, ended, same]

end Passing

/-! ### Builders that take their arguments one by one -/

namespace Builder

/-- The builder takes its arguments one by one. -/
def isStepwise : Builder → Bool
  | assign _ | remove _ | delete .. | orderBy _ => true
  | _ => false

/-- The arguments that are taken one by one. -/
def entries : Builder → List Value
  | assign vs | remove vs | delete vs _ | orderBy vs => vs
  | _ => []

/-- The same call on other arguments, except that relationships are not deleted. -/
def on : Builder → List Value → Builder
  | assign _, vs => assign vs
  | remove _, vs => remove vs
  | delete _ _, vs => delete vs false
  | orderBy _, vs => orderBy vs
  | b, _ => b

end Builder

namespace Clause

variable {c : Clause}

/-- A clause that does not refuse a call has the slot that the call fills. -/
theorem supports_of_accepted {b : Builder} (accepted : ∀ f, ¬ c.Refuses b f) {slot : Slot}
    (fills : b.slot? = some slot) : c.supports slot = true := by
  by_contra absent
  exact accepted _ (.unsupported fills (Bool.not_eq_true _ ▸ absent))

/-- A clause that does not refuse to be ordered has an ordering. -/
theorem exists_mapOrdering? {b : Builder} (accepted : ∀ f, ¬ c.Refuses b f)
    (orders : b.isOrdering = true) (g : Ordering → Ordering) : ∃ c', c.mapOrdering? g = some c' := by
  refine Option.ne_none_iff_exists'.mp fun absent => accepted _ (.unordered orders ?_)
  exact mapOrdering?_eq_none absent id

theorem assign_of_supports (supports : c.supports .assignment = true)
    (es : List (Value × Value)) (fault? : Option Fault) : c.assign es fault? =
      ⟨{ c with assignments := some (c.assignments.getD [] ++ es) }, fault?⟩ :=
  onSlot_of_supports supports _

theorem removeProperties_of_supports (supports : c.supports .removal = true) (vs : List Value)
    (fault? : Option Fault) : c.removeProperties vs fault? =
      ⟨{ c with removals := some (c.removals.getD [] ++ vs) }, fault?⟩ :=
  onSlot_of_supports supports _

theorem delete_of_supports (supports : c.supports .deletion = true) (rs : List Reference)
    (detach : Bool) (fault? : Option Fault) : c.delete rs detach fault? =
      ⟨{ c with deletion := some ⟨(c.deletion.getD ⟨[], false⟩).references ++ rs,
        (c.deletion.getD ⟨[], false⟩).detach || (detach && fault?.isNone)⟩ }, fault?⟩ :=
  onSlot_of_supports supports _

theorem orderBy_of_ordered {items : List SortItem} {c' : Clause}
    (ordered : c.mapOrdering? (fun o => { o with sortItems := o.sortItems ++ items }) = some c')
    (fault? : Option Fault) : c.orderBy items fault? = ⟨c', fault?⟩ := by
  rw [orderBy, onOrdering, ordered]

end Clause

/-! ### What is left of a clause -/

/-- What a builder call that fails makes of a clause that does not refuse it, when it has taken over
some number of arguments. -/
inductive Clause.Interrupted (c : Clause) : Builder → Nat → Clause → Prop where
  | path {v : Value} : Interrupted c (.path v) 0 { c with path := some c.path.join }
  | assign {vs : List Value} {es : List (Value × Value)} : Interrupted c (.assign vs) es.length
      { c with assignments := some (c.assignments.getD [] ++ es) }
  | remove {vs ws : List Value} : Interrupted c (.remove vs) ws.length
      { c with removals := some (c.removals.getD [] ++ ws) }
  | delete {vs : List Value} {detach : Bool} {rs : List Reference} :
      Interrupted c (.delete vs detach) rs.length
        { c with deletion := some ⟨(c.deletion.getD ⟨[], false⟩).references ++ rs,
          (c.deletion.getD ⟨[], false⟩).detach⟩ }
  | orderBy {vs : List Value} {items : List SortItem} {c' : Clause}
      (ordered : c.mapOrdering? (fun o => { o with sortItems := o.sortItems ++ items }) = some c') :
      Interrupted c (.orderBy vs) items.length c'

/-- A call that fails although the clause does not refuse it has come to what the call on the
arguments in front of the first one that does not pass comes to. The arguments behind that one do
not matter. -/
theorem build_interrupted {c : Clause} {b : Builder} (stepwise : b.isStepwise = true)
    (accepted : ∀ f, ¬ c.Refuses b f) {s : Store} {f : Fault}
    (failed : (outcome (build c b) s).1.fault? = some f) :
    ∃ taken v rest, b.entries = taken ++ v :: rest ∧
      c.Interrupted b taken.length (outcome (build c b) s).1.clause ∧
      outcome (build c (b.on taken)) s =
        (⟨(outcome (build c b) s).1.clause, none⟩, (outcome (build c b) s).2) ∧
      outcome (build c (b.on (taken ++ [v]))) s = outcome (build c b) s := by
  cases b with
  | assign vs =>
    have assigned := Clause.assign_of_supports (Clause.supports_of_accepted accepted rfl)
    obtain ⟨taken, v, rest, eq, length, others⟩ := interrupted_of_failed inert_assignment
      c.assign c.assign (fun as fault? => by rw [assigned])
      (fun as f => by rw [assigned, assigned]) (fun _ _ => rfl) failed
    refine ⟨taken, v, rest, eq, ?_, others⟩
    change c.Interrupted _ _ (c.assign _ _).clause
    rw [assigned, ← length]
    exact .assign
  | remove vs =>
    have removed := Clause.removeProperties_of_supports (Clause.supports_of_accepted accepted rfl)
    obtain ⟨taken, v, rest, eq, length, others⟩ := interrupted_of_failed inert_removal
      c.removeProperties c.removeProperties (fun as fault? => by rw [removed])
      (fun as f => by rw [removed, removed]) (fun _ _ => rfl) failed
    refine ⟨taken, v, rest, eq, ?_, others⟩
    change c.Interrupted _ _ (c.removeProperties _ _).clause
    rw [removed, ← length]
    exact .remove
  | delete vs detach =>
    have deleted := Clause.delete_of_supports (Clause.supports_of_accepted accepted rfl)
    have fault : (outcome (whilePassing deletion vs) s).1.2 = some f := by
      change (c.delete _ _ _).fault? = some f at failed
      rwa [deleted] at failed
    obtain ⟨taken, v, rest, eq, length, others⟩ := interrupted_of_failed inert_deletion
      (fun rs => c.delete rs detach) (fun rs => c.delete rs false)
      (fun rs fault? => by rw [deleted]) (fun rs f => by simp [deleted])
      (fun rs f => by simp [deleted]) failed
    refine ⟨taken, v, rest, eq, ?_, others⟩
    change c.Interrupted _ _ (c.delete _ _ _).clause
    rw [deleted, ← length, fault]
    simpa using Clause.Interrupted.delete
  | orderBy vs =>
    have ordered := fun items : List SortItem => Clause.exists_mapOrdering? accepted rfl
      fun o => { o with sortItems := o.sortItems ++ items }
    obtain ⟨taken, v, rest, eq, length, others⟩ := interrupted_of_failed inert_sortItem
      c.orderBy c.orderBy
      (fun items fault? => by
        obtain ⟨c', eq⟩ := ordered items
        rw [Clause.orderBy_of_ordered eq])
      (fun items f => by
        obtain ⟨c', eq⟩ := ordered items
        rw [Clause.orderBy_of_ordered eq, Clause.orderBy_of_ordered eq])
      (fun _ _ => rfl) failed
    refine ⟨taken, v, rest, eq, ?_, others⟩
    obtain ⟨c', eq⟩ := ordered (outcome (whilePassing sortItem vs) s).1.1
    change c.Interrupted _ _ (c.orderBy _ _).clause
    rw [Clause.orderBy_of_ordered eq, ← length]
    exact .orderBy eq
  | _ => cases stepwise

/-- A path that does not pass leaves a slot for one. -/
theorem bindPath_interrupted {c : Clause} {v : Value} (accepted : ∀ f, ¬ c.Refuses (.path v) f)
    {s : Store} {f : Fault} (failed : (outcome (build c (.path v)) s).1.fault? = some f) :
    c.Interrupted (.path v) 0 (outcome (build c (.path v)) s).1.clause := by
  have supports := Clause.supports_of_accepted accepted rfl
  have single : ¬ 1 < c.head.patterns.length := fun several =>
    accepted _ (.shared supports several)
  change (c.bindPath (outcome (path v).run s).1).fault? = some f at failed
  change c.Interrupted _ _ (c.bindPath (outcome (path v).run s).1).clause
  rw [Clause.bindPath, supports, if_neg (by simpa using single),
    Clause.onSlot_of_supports supports] at failed ⊢
  cases answer : (outcome (path v).run s).1 with
  | ok r =>
    rw [answer] at failed
    cases failed
  | error f => exact .path

namespace Clause.Interrupted

variable {c c' : Clause} {b : Builder} {n : Nat}

/-- The head stays, but for what the rows of a projection are ordered by. -/
theorem head_cases (h : c.Interrupted b n c') : c'.head = c.head ∨
    ∃ p ordering, c.head = .project p ∧ c'.head = .project { p with ordering := ordering } := by
  cases h with
  | orderBy ordered =>
    unfold mapOrdering? at ordered
    split at ordered
    · rename_i p head
      cases ordered
      exact .inr ⟨p, _, head, rfl⟩
    · cases ordered
      exact .inl rfl
    · cases ordered
      exact .inl rfl
    · cases ordered
  | _ => exact .inl rfl

/-- The head keeps its kinds of slot. -/
theorem manifest_eq (h : c.Interrupted b n c') : c'.head.manifest = c.head.manifest := by
  rcases h.head_cases with eq | ⟨p, ordering, eq, eq'⟩
  · rw [eq]
  · rw [eq, eq']
    rfl

/-- The clause stays in its class. -/
theorem className_eq (h : c.Interrupted b n c') : c'.className = c.className := by
  unfold className
  rcases h.head_cases with eq | ⟨p, ordering, eq, eq'⟩
  · rw [eq]
  · rw [eq, eq']
    rfl

/-- No slot but that of the call is made. -/
theorem has_eq (h : c.Interrupted b n c') (slot : Slot) :
    c'.has slot = (c.has slot || b.slot? == some slot) := by
  cases h with
  | orderBy ordered =>
    unfold mapOrdering? at ordered
    split at ordered
    · cases ordered
      cases slot <;> simp [has, Builder.slot?]
    · rename_i p returning _
      cases ordered
      cases slot <;> simp [has, Builder.slot?, returning]
    · rename_i p _ passing _
      cases ordered
      cases slot <;> simp [has, Builder.slot?, passing]
    · cases ordered
  | _ => cases slot <;> simp [has, Builder.slot?]

/-- The slots that exist stay the same just in case that of the call is one of them. -/
theorem populated_eq_iff (h : c.Interrupted b n c') (accepted : ∀ f, ¬ c.Refuses b f) :
    c'.populated = c.populated ↔ ∀ slot, b.slot? = some slot → c.has slot = true := by
  unfold populated
  rw [h.manifest_eq]
  constructor
  · intro same slot fills
    have supports := supports_of_accepted accepted fills
    have mem : slot ∈ c.head.manifest.filter c'.has := by
      refine List.mem_filter.mpr ⟨List.contains_iff_mem.mp supports, ?_⟩
      simp [h.has_eq, fills]
    rw [same] at mem
    exact (List.mem_filter.mp mem).2
  · intro there
    refine List.filter_congr fun slot _ => ?_
    rw [h.has_eq]
    cases fills : b.slot? == some slot with
    | false => simp
    | true => simp [there slot (eq_of_beq fills)]

end Clause.Interrupted

end GraphQuery
