import GraphQuery.Proofs.History.Filter

/-!
Clauses hold what the builder calls on them come to.

A builder call that succeeds has taken all its arguments, and the clause holds one call more
afterwards. An ordering goes to where the calls before have left a projection for it. Calls that
would have nothing to order fail, so there is no ordering without columns.

* `Builder.take`: a builder call with its arguments taken.
* `Clause.Follows`: a clause holds what calls come to.
* `History.Orderly`: what is so of calls that have succeeded.
* `Clause.Follows.build`: a builder call that succeeds is one call more.
-/

namespace GraphQuery

open Assembly

/-! ### Taking arguments -/

/-- A builder call with its arguments taken. -/
def Builder.take : Builder → Assembly Call
  | path v => return .path (← Assembly.path v)
  | restrict predicate => return .join .and (← expression predicate)
  | relax predicate => return .join .or (← expression predicate)
  | assign entries => return .assign (← entries.mapM assignment)
  | remove properties => return .remove (← properties.mapM removal)
  | delete references detach => return .delete (← references.mapM deletion) detach
  | project kind values distinct => return .project kind (← someColumns kind values) distinct
  | orderBy items => return .orderBy (← items.mapM sortItem)
  | skip count => return .skip (← rowCount "SKIP" count)
  | limit count => return .limit (← rowCount "LIMIT" count)
  | makeOptional => return .makeOptional

/-- The builder call that joins a predicate to the filter of a clause. -/
def Connective.builder : Connective → Value → Builder
  | and => .restrict
  | or => .relax

section Taking

variable {α : Type} {s : Store}

/-- What is made of the result of a step that succeeds. -/
theorem outcome_map_of_ok {m : Assembly α} {f : α → Call} {a : α}
    (ok : (outcome m.run s).1 = .ok a) :
    (outcome (do return f (← m) : Assembly Call).run s).1 = .ok (f a) := by
  rw [outcome_bind_of_ok (Prod.ext ok rfl)]
  rfl

/-- Where all values pass, what they give is what they give one after another. -/
theorem mapM_of_whilePassing {f : Value → Assembly α} {vs : List Value}
    (passed : (outcome (whilePassing f vs) s).1.2 = none) :
    outcome (vs.mapM f).run s =
      (.ok (outcome (whilePassing f vs) s).1.1, (outcome (whilePassing f vs) s).2) := by
  induction vs generalizing s with
  | nil => rfl
  | cons v vs ih =>
    rw [whilePassing] at passed ⊢
    rcases first : outcome (f v).run s with ⟨fault | a, t⟩
    · rw [outcome_bind_of_eq first] at passed
      cases passed
    · rw [outcome_bind_of_eq first] at passed ⊢
      rw [List.mapM_cons, outcome_bind_of_ok first, outcome_bind_of_ok (ih passed)]
      rfl

end Taking

/-! ### What clauses hold -/

/-- A clause holds what calls come to. -/
structure Clause.Follows (s : Store) (m : Contents) (c : Clause) : Prop where
  head : c.head = m.head
  path : c.path.join = m.path
  filter : s.Joins m.predicates c.filter
  assignments : c.assignments.getD [] = m.assignments
  removals : c.removals.getD [] = m.removals
  deletion : c.deletion.getD ⟨[], false⟩ = m.deletion
  passing : c.passing = m.passing
  returning : c.returning = m.returning

theorem Clause.Follows.mono {s t : Store} {m : Contents} {c : Clause} (h : c.Follows s m)
    (grows : s.Grows t) : c.Follows t m :=
  { h with filter := h.filter.mono grows }

namespace History

/-- On a clause that stands alone nothing is projected, and on all others nothing is ordered without
columns. -/
structure Orderly (head : Head) (calls : List Call) : Prop where
  alone : ∀ p, head = .project p → ∀ kind, columns calls kind = none
  unordered : (∀ p, head ≠ .project p) → columns calls .passing = none →
    orderingOf calls .passing = .unordered

theorem Orderly.nil (head : Head) : Orderly head [] := ⟨fun _ _ _ => rfl, fun _ _ => rfl⟩

variable {head : Head} {calls : List Call} {call : Call}

/-- A call that orders nothing, and projects nothing on a clause that stands alone. -/
theorem Orderly.snoc_of_not (h : Orderly head calls) (other : call.orders = false)
    (none : ∀ p, head = .project p → ∀ kind, call.columns? kind = none) :
    Orderly head (calls ++ [call]) where
  alone p eq kind := (columns_snoc_of_none (none p eq kind)).trans (h.alone p eq kind)
  unordered pattern absent := by
    have same : orderingOf (calls ++ [call]) .passing = orderingOf calls .passing := by
      rw [orderingOf_snoc, Call.reorder_of_not other, ite_self]
    rw [same]
    refine h.unordered pattern ?_
    cases given : call.columns? .passing with
    | none => rwa [columns_snoc_of_none given] at absent
    | some columns =>
      rw [columns_snoc_of_some given] at absent
      cases absent

/-- A projection without columns has no ordering either. -/
theorem Orderly.orderingOf_eq (h : Orderly head calls) (pattern : ∀ p, head ≠ .project p)
    {kind : ProjectionKind} (absent : columns calls kind = none) :
    orderingOf calls kind = .unordered := by
  cases kind with
  | passing => exact h.unordered pattern absent
  | returning => exact (orderingOf_of_not (columns_returning_eq_none_iff.mp absent)).2

end History

open History

namespace Clause

/-- A change of a slot that succeeds is one of a slot that the clause supports. -/
theorem onSlot_of_ok {c : Clause} {slot : Slot} {change : Clause → Built}
    (ok : (c.onSlot slot change).fault? = none) :
    c.supports slot = true ∧ c.onSlot slot change = change c := by
  unfold onSlot at ok ⊢
  split
  · rename_i supports
    exact ⟨supports, rfl⟩
  · rename_i unsupported
    rw [if_neg unsupported] at ok
    cases ok

/-- On patterns an ordering goes to what is returned, or else to what is handed on. -/
theorem mapOrdering?_of_patterns {c : Clause} (pattern : ∀ p, c.head ≠ .project p)
    (f : Ordering → Ordering) : c.mapOrdering? f =
      match c.returning, c.passing with
      | some p, _ => some { c with returning := some { p with ordering := f p.ordering } }
      | none, some p => some { c with passing := some { p with ordering := f p.ordering } }
      | none, none => none := by
  unfold mapOrdering?
  cases head : c.head with
  | project p => exact absurd head (pattern p)
  | read | create => cases c.returning <;> cases c.passing <;> rfl

/-- A predicate that is taken is joined where there can be a filter. -/
theorem fault?_build_join {R : Value → Value → Prop} {s : Store} (like : s.Alike R s) {c : Clause}
    (clause : c.Alike s s c) (supports : c.supports .filter = true) {v p : Value}
    (operand : Operand R s s v v) (taken : (outcome (expression v).run s).1 = .ok p)
    (connective : Connective) :
    (outcome (Assembly.build c (connective.builder v)) s).1.fault? = none := by
  have expressed := agree_expression like operand
  have stands := expressed.results
  rw [taken] at stands
  cases stands with
  | ok stands =>
    obtain ⟨w, joined⟩ := exists_join expressed.alike
      (fun w eq => (clause.filter w eq).mono expressed.grows) stands.2 connective
    have built : (outcome (Assembly.build c (connective.builder v)) s).1 =
        c.filterBy
          (outcome (connective.join c.filter p).run (outcome (expression v).run s).2).1 := by
      have all : outcome (do connective.join c.filter (← expression v) : Assembly Value).run s =
          outcome (connective.join c.filter p).run (outcome (expression v).run s).2 :=
        outcome_bind_of_ok (Prod.ext taken rfl)
      rw [← all]
      cases connective <;> rfl
    rw [built, joined, filterBy, onSlot, if_pos supports]

/-- A change of an ordering that succeeds. -/
theorem onOrdering_of_ok {c : Clause} {f : Ordering → Ordering} {fault? : Option Fault}
    (ok : (c.onOrdering f fault?).fault? = none) :
    fault? = none ∧ c.mapOrdering? f = some (c.onOrdering f fault?).clause := by
  unfold onOrdering at ok ⊢
  cases found : c.mapOrdering? f with
  | none =>
    rw [found] at ok
    cases ok
  | some c' =>
    rw [found] at ok
    exact ⟨ok, rfl⟩

namespace Follows

variable {s : Store} {c : Clause} {head : Head} {calls : List Call}

/-- Patterns remain patterns, and what stands alone remains alone. -/
theorem head_project_iff (h : c.Follows s (contents head calls)) :
    (∃ p, c.head = .project p) ↔ ∃ p, head = .project p := by
  rw [h.head]
  change (∃ p, head.after calls = _) ↔ _
  cases head with
  | project p => exact ⟨fun _ => ⟨_, rfl⟩, fun _ => ⟨_, rfl⟩⟩
  | read | create =>
    constructor
    · rintro ⟨_, ⟨⟩⟩
    · rintro ⟨_, ⟨⟩⟩

/-- The projections of the clause are those that the calls come to. -/
theorem projection?_eq (h : c.Follows s (contents head calls)) (kind : ProjectionKind) :
    c.projection? kind = History.projection? calls kind := by
  cases kind with
  | passing => exact h.passing
  | returning => exact h.returning

section Slots

variable (h : c.Follows s (contents head calls))
include h

theorem bindPath {path : Except Fault Reference} (ok : (c.bindPath path).fault? = none) :
    ∃ r, path = .ok r ∧
      (c.bindPath path).clause.Follows s (contents head (calls ++ [.path r])) := by
  unfold Clause.bindPath at ok ⊢
  split at ok
  · cases ok
  · rename_i single
    obtain ⟨-, eq⟩ := onSlot_of_ok ok
    rw [eq] at ok
    rw [if_neg single, eq]
    cases path with
    | error f => cases ok
    | ok r =>
      refine ⟨r, rfl, ?_⟩
      rw [contents_path]
      exact { h with path := rfl }

theorem filterBy {predicate : Except Fault Value} (ok : (c.filterBy predicate).fault? = none) :
    ∃ v, predicate = .ok v ∧ ∀ {connective : Connective} {p : Value},
      s.JoinsTo c.filter (connective, p) v →
      (c.filterBy predicate).clause.Follows s (contents head (calls ++ [.join connective p])) := by
  unfold Clause.filterBy at ok ⊢
  obtain ⟨-, eq⟩ := onSlot_of_ok ok
  rw [eq] at ok ⊢
  cases predicate with
  | error f => cases ok
  | ok v =>
    refine ⟨v, rfl, fun joins => ?_⟩
    rw [contents_join]
    exact { h with filter := .snoc h.filter joins }

theorem assign {entries : List (Value × Value)} {fault? : Option Fault}
    (ok : (c.assign entries fault?).fault? = none) : fault? = none ∧
      (c.assign entries fault?).clause.Follows s (contents head (calls ++ [.assign entries])) := by
  unfold Clause.assign at ok ⊢
  obtain ⟨-, eq⟩ := onSlot_of_ok ok
  rw [eq] at ok ⊢
  rw [contents_assign]
  exact ⟨ok, { h with assignments := congrArg (· ++ entries) h.assignments }⟩

theorem removeProperties {properties : List Value} {fault? : Option Fault}
    (ok : (c.removeProperties properties fault?).fault? = none) : fault? = none ∧
      (c.removeProperties properties fault?).clause.Follows s
        (contents head (calls ++ [.remove properties])) := by
  unfold Clause.removeProperties at ok ⊢
  obtain ⟨-, eq⟩ := onSlot_of_ok ok
  rw [eq] at ok ⊢
  rw [contents_remove]
  exact ⟨ok, { h with removals := congrArg (· ++ properties) h.removals }⟩

theorem delete {references : List Reference} {detach : Bool} {fault? : Option Fault}
    (ok : (c.delete references detach fault?).fault? = none) : fault? = none ∧
      (c.delete references detach fault?).clause.Follows s
        (contents head (calls ++ [.delete references detach])) := by
  unfold Clause.delete at ok ⊢
  obtain ⟨-, eq⟩ := onSlot_of_ok ok
  rw [eq] at ok ⊢
  obtain rfl : fault? = none := ok
  rw [contents_delete]
  refine ⟨rfl, { h with deletion := ?_ }⟩
  have before := h.deletion
  simp only [Option.getD_some, before]
  simp [contents]

theorem makeOptional? {c' : Clause} (ok : c.makeOptional? = some c') :
    c'.Follows s (contents head (calls ++ [.makeOptional])) := by
  have heads : c.head = head.after calls := h.head
  rw [contents_makeOptional]
  unfold Clause.makeOptional? at ok
  cases head with
  | read optionalClass isOptional patterns =>
    rw [heads] at ok
    cases ok
    refine { h with head := ?_ }
    simp [Head.after, Call.optional]
  | create | project =>
    rw [heads] at ok
    cases ok

end Slots

section Projections

variable (h : c.Follows s (contents head calls)) (orderly : Orderly head calls)
include h orderly

/-- A projection without columns has no ordering either. -/
theorem projection?_replace (pattern : ∀ p, head ≠ .project p) (kind : ProjectionKind)
    (columns : List Column) (distinct : Value) :
    ((c.projection? kind).getD ⟨kind, [], .bool false, .unordered⟩).replace columns distinct =
      ⟨kind, columns, distinct, orderingOf calls kind⟩ := by
  rw [h.projection?_eq kind, History.projection?]
  cases given : History.columns calls kind with
  | some _ => rfl
  | none => rw [orderly.orderingOf_eq pattern given]; rfl

/-- The columns of a trailing projection are replaced, and its ordering stays. -/
theorem project {kind : ProjectionKind} {columns? : Except Fault (List Column)} {distinct : Value}
    (ok : (c.project kind columns? distinct).fault? = none) : ∃ columns, columns? = .ok columns ∧
      (c.project kind columns? distinct).clause.Follows s
        (contents head (calls ++ [.project kind columns distinct])) ∧
      Orderly head (calls ++ [.project kind columns distinct]) := by
  unfold Clause.project at ok ⊢
  obtain ⟨supports, eq⟩ := onSlot_of_ok ok
  rw [eq] at ok ⊢
  have pattern : ∀ p, head ≠ .project p := by
    rintro p rfl
    obtain ⟨p', head⟩ := h.head_project_iff.mpr ⟨p, rfl⟩
    rw [Clause.supports, head] at supports
    cases kind <;> cases kind' : p'.kind <;>
      simp [Head.manifest, kind', Slot.ofProjection] at supports
  cases columns? with
  | error f => cases ok
  | ok columns =>
    refine ⟨columns, rfl, ?_, orderly.snoc_of_not rfl fun p eq => absurd eq (pattern p)⟩
    rw [contents_project]
    dsimp only
    rw [h.projection?_replace orderly pattern]
    cases kind with
    | passing => exact { h with passing := rfl }
    | returning => exact { h with returning := rfl }

/-- A further ordering of a clause that stands alone goes to the clause itself. -/
theorem mapOrdering?_alone {p : Projection} (head_eq : head = .project p) {call : Call}
    (orders : call.orders = true) {c' : Clause} (found : c.mapOrdering? call.reorder = some c') :
    c'.Follows s (contents head (calls ++ [call])) ∧ Orderly head (calls ++ [call]) := by
  have columns : ∀ kind, History.columns (calls ++ [call]) kind = none := fun kind =>
    (columns_snoc_of_none (call.columns?_of_orders orders kind)).trans
      (orderly.alone p head_eq kind)
  have absent : ∀ kind, History.projection? (calls ++ [call]) kind = none := fun kind =>
    Option.map_eq_none_iff.mpr (columns kind)
  have absent' : ∀ kind, c.projection? kind = none := fun kind =>
    (h.projection?_eq kind).trans (Option.map_eq_none_iff.mpr (orderly.alone p head_eq kind))
  refine ⟨?_, fun _ _ kind => columns kind, fun pattern => absurd head_eq (pattern p)⟩
  have heads : c.head = head.after calls := h.head
  unfold Clause.mapOrdering? at found
  rw [heads, head_eq] at found
  cases found
  rw [contents_orders _ orders, absent, absent]
  refine { h with head := ?_, passing := absent' .passing, returning := absent' .returning }
  simp [head_eq, Head.after, ordering_snoc]

/-- A further ordering of a clause of patterns goes to where the calls before have left a projection
for it. -/
theorem mapOrdering?_patterns (pattern : ∀ p, head ≠ .project p) {call : Call}
    (orders : call.orders = true) {c' : Clause} (found : c.mapOrdering? call.reorder = some c') :
    c'.Follows s (contents head (calls ++ [call])) ∧ Orderly head (calls ++ [call]) := by
  have passing : c.passing = History.projection? calls .passing := h.passing
  have returning : c.returning = History.projection? calls .returning := h.returning
  have columns : ∀ kind, History.columns (calls ++ [call]) kind = History.columns calls kind :=
    fun kind => columns_snoc_of_none (call.columns?_of_orders orders kind)
  have heads : c.head = head.after (calls ++ [call]) := by
    rw [Head.after_snoc_of_orders pattern orders]
    exact h.head
  have pattern' : ∀ p, c.head ≠ .project p := by
    intro p eq
    obtain ⟨p', eq'⟩ := h.head_project_iff.mp ⟨p, eq⟩
    exact pattern p' eq'
  rw [Clause.mapOrdering?_of_patterns pattern'] at found
  rw [contents_orders _ orders, projection?_snoc_of_orders orders, projection?_snoc_of_orders orders,
    ← passing, ← returning]
  cases returned : c.returning with
  | some p =>
    have target : target calls = .returning := target_of_some (returning.symm.trans returned)
    rw [returned] at found
    cases found
    rw [target]
    refine ⟨{ h with head := heads, returning := rfl, passing := ?_ }, ?_, fun _ absent => ?_⟩
    · simp
    · exact fun p eq => absurd eq (pattern p)
    · rw [orderingOf_snoc, target, if_neg (by decide)]
      exact orderly.unordered pattern ((columns _).symm.trans absent)
  | none =>
    have target : target calls = .passing := target_of_none (returning.symm.trans returned)
    cases passed : c.passing with
    | none =>
      rw [returned, passed] at found
      cases found
    | some p =>
      rw [returned, passed] at found
      cases found
      rw [target]
      refine ⟨{ h with head := heads, passing := rfl, returning := rfl }, ?_, fun _ absent => ?_⟩
      · exact fun p eq => absurd eq (pattern p)
      · have none : History.projection? calls .passing = none :=
          Option.map_eq_none_iff.mpr ((columns _).symm.trans absent)
        cases (passing.symm.trans passed).symm.trans none

/-- A further ordering that succeeds is one call more. -/
theorem onOrdering (call : Call) (orders : call.orders = true)
    {fault? : Option Fault} (ok : (c.onOrdering call.reorder fault?).fault? = none) :
    fault? = none ∧
      (c.onOrdering call.reorder fault?).clause.Follows s (contents head (calls ++ [call])) ∧
      Orderly head (calls ++ [call]) := by
  obtain ⟨noFault, found⟩ := onOrdering_of_ok ok
  refine ⟨noFault, ?_⟩
  by_cases alone : ∃ p, head = .project p
  · obtain ⟨p, head_eq⟩ := alone
    exact h.mapOrdering?_alone orderly head_eq orders found
  · exact h.mapOrdering?_patterns orderly (fun p eq => alone ⟨p, eq⟩) orders found

theorem skip {count? : Except Fault Param} (ok : (c.skip count?).fault? = none) :
    ∃ count, count? = .ok count ∧
      (c.skip count?).clause.Follows s (contents head (calls ++ [.skip count])) ∧
      Orderly head (calls ++ [.skip count]) := by
  cases count? with
  | ok count => exact ⟨count, rfl, (h.onOrdering orderly (.skip count) rfl ok).2⟩
  | error f => cases (onOrdering_of_ok ok).1

theorem limit {count? : Except Fault Param} (ok : (c.limit count?).fault? = none) :
    ∃ count, count? = .ok count ∧
      (c.limit count?).clause.Follows s (contents head (calls ++ [.limit count])) ∧
      Orderly head (calls ++ [.limit count]) := by
  cases count? with
  | ok count => exact ⟨count, rfl, (h.onOrdering orderly (.limit count) rfl ok).2⟩
  | error f => cases (onOrdering_of_ok ok).1

end Projections

/-! ### One call more -/

/-- A predicate is taken and joined to the filter. -/
theorem join {R : Value → Value → Prop} (like : s.Alike R s) (clause : c.Alike s s c)
    (h : c.Follows s (contents head calls)) {v : Value} (operand : Operand R s s v v)
    (connective : Connective) {m : Assembly Value}
    (eq : m = do connective.join c.filter (← expression v))
    (ok : (c.filterBy (outcome m.run s).1).fault? = none) :
    ∃ p, (outcome (expression v).run s).1 = .ok p ∧
      (c.filterBy (outcome m.run s).1).clause.Follows (outcome m.run s).2
        (contents head (calls ++ [.join connective p])) := by
  have expressed := agree_expression like operand
  obtain ⟨w, joined, -⟩ := h.filterBy ok
  rw [eq] at joined
  obtain ⟨p, taken, joined⟩ := exists_of_bind joined
  have stands := expressed.results
  rw [taken] at stands
  cases stands with
  | ok stands =>
    obtain ⟨grows, joins⟩ := joinsTo_of_join expressed.alike
      (fun w eq => (clause.filter w eq).mono expressed.grows) stands.2 joined
    have same : outcome m.run s =
        outcome (connective.join c.filter p).run (outcome (expression v).run s).2 := by
      rw [eq, outcome_bind_of_ok (Prod.ext taken rfl)]
    rw [← same] at grows joins joined
    obtain ⟨w', joined', follows⟩ := (h.mono (expressed.grows.trans grows)).filterBy ok
    cases joined.symm.trans joined'
    exact ⟨p, taken, follows joins⟩

/-- A builder call that succeeds has taken its arguments, and is one call more. -/
theorem build (like : s.Alike (fun _ _ => True) s) (clause : c.Alike s s c)
    (h : c.Follows s (contents head calls)) (orderly : Orderly head calls) {b : Builder}
    (known : ∀ v ∈ b.arguments, s.KnowsWithin v)
    (ok : (outcome (Assembly.build c b) s).1.fault? = none) :
    ∃ call, (outcome b.take.run s).1 = .ok call ∧
      (outcome (Assembly.build c b) s).1.clause.Follows (outcome (Assembly.build c b) s).2
        (contents head (calls ++ [call])) ∧
      Orderly head (calls ++ [call]) := by
  have alike := Builder.Alike.same (R := fun _ _ => True) known fun _ _ => trivial
  have h' := h.mono (together_build like clause alike).grows
  cases b with
  | path v =>
    obtain ⟨r, taken, follows⟩ := h'.bindPath ok
    exact ⟨_, outcome_map_of_ok taken, follows, orderly.snoc_of_not rfl fun _ _ _ => rfl⟩
  | restrict v =>
    have operand : Operand (fun _ _ => True) s s v v :=
      .same (known v List.mem_cons_self).known trivial
    obtain ⟨p, taken, follows⟩ := h.join like clause operand .and rfl ok
    exact ⟨_, outcome_map_of_ok taken, follows, orderly.snoc_of_not rfl fun _ _ _ => rfl⟩
  | relax v =>
    have operand : Operand (fun _ _ => True) s s v v :=
      .same (known v List.mem_cons_self).known trivial
    obtain ⟨p, taken, follows⟩ := h.join like clause operand .or rfl ok
    exact ⟨_, outcome_map_of_ok taken, follows, orderly.snoc_of_not rfl fun _ _ _ => rfl⟩
  | assign vs =>
    obtain ⟨passed, follows⟩ := h'.assign ok
    have taken := congrArg Prod.fst (mapM_of_whilePassing passed)
    exact ⟨_, outcome_map_of_ok taken, follows, orderly.snoc_of_not rfl fun _ _ _ => rfl⟩
  | remove vs =>
    obtain ⟨passed, follows⟩ := h'.removeProperties ok
    have taken := congrArg Prod.fst (mapM_of_whilePassing passed)
    exact ⟨_, outcome_map_of_ok taken, follows, orderly.snoc_of_not rfl fun _ _ _ => rfl⟩
  | delete vs detach =>
    obtain ⟨passed, follows⟩ := h'.delete ok
    have taken := congrArg Prod.fst (mapM_of_whilePassing passed)
    exact ⟨_, outcome_map_of_ok taken, follows, orderly.snoc_of_not rfl fun _ _ _ => rfl⟩
  | project kind vs distinct =>
    obtain ⟨columns, taken, follows⟩ := h'.project orderly ok
    exact ⟨_, outcome_map_of_ok taken, follows⟩
  | orderBy vs =>
    obtain ⟨passed, follows⟩ := h'.onOrdering orderly (.orderBy _) rfl ok
    have taken := congrArg Prod.fst (mapM_of_whilePassing passed)
    exact ⟨_, outcome_map_of_ok taken, follows⟩
  | skip v =>
    obtain ⟨count, taken, follows⟩ := h'.skip orderly ok
    exact ⟨_, outcome_map_of_ok taken, follows⟩
  | limit v =>
    obtain ⟨count, taken, follows⟩ := h'.limit orderly ok
    exact ⟨_, outcome_map_of_ok taken, follows⟩
  | makeOptional =>
    change ((c.makeOptional?.map fun c => (⟨c, none⟩ : Built)).getD (c.refuse .missing)).fault? =
      none at ok
    change ∃ call, (outcome (Builder.take .makeOptional).run s).1 = .ok call ∧
      ((c.makeOptional?.map fun c => (⟨c, none⟩ : Built)).getD (c.refuse .missing)).clause.Follows
        s (contents head (calls ++ [call])) ∧ Orderly head (calls ++ [call])
    cases made : c.makeOptional? with
    | none =>
      rw [made] at ok
      cases ok
    | some c' =>
      exact ⟨_, rfl, h.makeOptional? made, orderly.snoc_of_not rfl fun _ _ _ => rfl⟩

end Follows

end Clause

end GraphQuery
