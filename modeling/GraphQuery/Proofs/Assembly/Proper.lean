import GraphQuery.Proofs.Assembly.Construction
import GraphQuery.Proofs.Assembly.Exported
import GraphQuery.Proofs.Assembly.Frame

/-!
What clauses are like, whatever has been called.

A clause starts with what its constructor has checked, and a builder only ever adds what the clause
can carry. This also holds of a builder call that fails, and of the entries in front of a faulty
one. So the slots of a clause are those of its manifest, and every projection in it has columns.

* `Projection.Proper`, `Clause.Proper`: what is so of every projection and of every clause.
* `Clause.Proper.build`: no builder takes it away.
* `Store.Assembled.proper`: it is so of every clause that the library has assembled.
-/

namespace GraphQuery

open Assembly

/-! ### What arguments come to -/

section Results

variable {α β : Type} {s : Store}

/-- What succeeds after a step does so with what the step has given. -/
theorem exists_of_bind {m : Assembly α} {f : α → Assembly β} {b : β}
    (ok : (outcome (m >>= f).run s).1 = .ok b) :
    ∃ a, (outcome m.run s).1 = .ok a ∧
      (outcome (f a).run (outcome m.run s).2).1 = .ok b := by
  change (outcome (ExceptT.bindCont f (outcome m.run s).1) (outcome m.run s).2).1 = .ok b at ok
  cases answer : (outcome m.run s).1 with
  | ok a =>
    rw [answer] at ok
    exact ⟨a, rfl, ok⟩
  | error fault =>
    rw [answer] at ok
    cases ok

/-- Steps one after another give as many results. -/
theorem length_of_mapM {f : α → Assembly β} {as : List α} {bs : List β}
    (ok : (outcome (as.mapM f).run s).1 = .ok bs) : bs.length = as.length := by
  induction as generalizing s bs with
  | nil =>
    cases ok
    rfl
  | cons a as ih =>
    rw [List.mapM_cons] at ok
    obtain ⟨b, _, ok⟩ := exists_of_bind ok
    obtain ⟨others, taken, ok⟩ := exists_of_bind ok
    cases ok
    rw [List.length_cons, List.length_cons, ih taken]

end Results

/-- A clause has one pattern at least. -/
theorem patterns_ne_nil {s : Store} {className : String} {vs : List Value} {patterns : List Nat}
    (ok : (outcome (Assembly.patterns className vs).run s).1 = .ok patterns) : patterns ≠ [] := by
  unfold Assembly.patterns at ok
  split at ok
  · obtain ⟨_, refused, _⟩ := exists_of_bind ok
    cases refused
  · rintro rfl
    have length := length_of_mapM ok
    cases vs with
    | nil => simp_all
    | cons v vs => cases length

/-! ### Projections -/

/-- There are columns, and the star comes first if at all. -/
structure Projection.Proper (p : Projection) : Prop where
  nonempty : p.columns ≠ []
  stars : ∀ c ∈ p.columns.tail, c.isStar = false

/-- The columns of a projection are what they should be. -/
theorem proper_of_someColumns {s : Store} {kind : ProjectionKind} {vs : List Value}
    {columns : List Column} (ok : (outcome (someColumns kind vs).run s).1 = .ok columns)
    {p : Projection} (eq : p.columns = columns) : p.Proper := by
  have taken : vs.isEmpty = false ∧ (outcome (Assembly.columns vs).run s).1 = .ok columns := by
    unfold someColumns at ok
    split at ok
    · obtain ⟨_, refused, _⟩ := exists_of_bind ok
      cases refused
    · exact ⟨Bool.not_eq_true _ ▸ ‹_›, ok⟩
  obtain ⟨given, ok⟩ := taken
  obtain ⟨columns', each, ok⟩ := exists_of_bind ok
  split at ok
  · obtain ⟨_, refused, _⟩ := exists_of_bind ok
    cases refused
  · rename_i stars
    cases ok
    have length := length_of_mapM each
    rw [← eq] at stars length
    refine ⟨fun none => ?_, fun c mem => ?_⟩
    · rw [none] at length
      cases vs with
      | nil => cases given
      | cons v vs => cases length
    · rw [Bool.not_eq_true, List.any_eq_false] at stars
      exact Bool.not_eq_true _ ▸ stars c mem

/-! ### Clauses -/

/-- A clause on patterns has one, only a single pattern has a path, the slots are those of the
manifest, and every projection is proper and in its place. -/
structure Clause.Proper (c : Clause) : Prop where
  patterns : c.head.patterns ≠ [] ∨ ∃ p, c.head = .project p
  body : ∀ p, c.head = .project p → p.Proper
  path : c.path.isSome → c.head.patterns.length = 1
  slots : ∀ slot, c.has slot = true → slot ∈ c.head.manifest
  passing : ∀ p, c.passing = some p → p.kind = .passing ∧ p.Proper
  returning : ∀ p, c.returning = some p → p.kind = .returning ∧ p.Proper

/-- An ordering is changed in the head, in what is returned, or in what is handed on. -/
theorem Clause.mapOrdering?_cases (c : Clause) {f : Ordering → Ordering} {c' : Clause}
    (eq : c.mapOrdering? f = some c') :
    (∃ p, c.head = .project p ∧
      c' = { c with head := .project { p with ordering := f p.ordering } }) ∨
    (∃ p, c.returning = some p ∧
      c' = { c with returning := some { p with ordering := f p.ordering } }) ∨
    ∃ p, c.passing = some p ∧
      c' = { c with passing := some { p with ordering := f p.ordering } } := by
  unfold mapOrdering? at eq
  split at eq
  · rename_i p head
    exact .inl ⟨p, head, (Option.some.inj eq).symm⟩
  · rename_i p returning _
    exact .inr (.inl ⟨p, returning, (Option.some.inj eq).symm⟩)
  · rename_i p _ passing _
    exact .inr (.inr ⟨p, passing, (Option.some.inj eq).symm⟩)
  · cases eq

namespace Clause.Proper

variable {c : Clause}

/-- What is nothing but its head. -/
theorem ofHead {head : Head} (patterns : head.patterns ≠ [] ∨ ∃ p, head = .project p)
    (body : ∀ p, head = .project p → p.Proper) : (Clause.ofHead head).Proper where
  patterns := patterns
  body := body
  path some := by cases some
  slots slot has := by cases slot <;> cases has
  passing p eq := by cases eq
  returning p eq := by cases eq

/-- A slot that the clause supports can be filled. -/
theorem slots_of (h : c.Proper) {slot : Slot} (supports : c.supports slot = true) {c' : Clause}
    (head : c'.head = c.head := by rfl)
    (others : ∀ slot', slot' ≠ slot → c'.has slot' = true → c.has slot' = true := by
      intro slot' ne has
      cases slot' <;> first | exact absurd rfl ne | exact has) :
    ∀ slot', c'.has slot' = true → slot' ∈ c'.head.manifest := by
  intro slot' has
  rw [head]
  by_cases eq : slot' = slot
  · rw [eq]
    exact List.contains_iff_mem.mp supports
  · exact h.slots slot' (others slot' eq has)

/-- A change of a slot that the clause supports, or nothing at all. -/
theorem onSlot (h : c.Proper) (slot : Slot) {change : Clause → Built}
    (changed : c.supports slot = true → (change c).clause.Proper) :
    (c.onSlot slot change).clause.Proper := by
  unfold Clause.onSlot
  split
  · exact changed ‹_›
  · exact h

/-- A path is bound to a single pattern, which a clause with a path has. -/
theorem bindPath (h : c.Proper) (path : Except Fault Reference) :
    (c.bindPath path).clause.Proper := by
  unfold Clause.bindPath
  split
  · exact h
  · rename_i guard
    refine h.onSlot _ fun supports => ?_
    have single : c.head.patterns.length = 1 := by
      rcases h.patterns with some | ⟨p, eq⟩
      · have many : ¬ 1 < c.head.patterns.length := fun lt => guard (by simp [supports, lt])
        have := List.length_pos_iff.mpr some
        omega
      · rw [Clause.supports, eq] at supports
        cases kind : p.kind <;> simp [Head.manifest, kind] at supports
    cases path with
    | ok r => exact { h with path := fun _ => single, slots := h.slots_of supports }
    | error f => exact { h with path := fun _ => single, slots := h.slots_of supports }

theorem filterBy (h : c.Proper) (predicate : Except Fault Value) :
    (c.filterBy predicate).clause.Proper := by
  refine h.onSlot _ fun supports => ?_
  cases predicate with
  | ok v => exact { h with slots := h.slots_of supports }
  | error f => exact h

theorem assign (h : c.Proper) (entries : List (Value × Value)) (fault? : Option Fault) :
    (c.assign entries fault?).clause.Proper :=
  h.onSlot _ fun supports => { h with slots := h.slots_of supports }

theorem removeProperties (h : c.Proper) (properties : List Value) (fault? : Option Fault) :
    (c.removeProperties properties fault?).clause.Proper :=
  h.onSlot _ fun supports => { h with slots := h.slots_of supports }

theorem delete (h : c.Proper) (references : List Reference) (detach : Bool)
    (fault? : Option Fault) : (c.delete references detach fault?).clause.Proper :=
  h.onSlot _ fun supports => { h with slots := h.slots_of supports }

/-- A trailing projection of proper columns. -/
theorem withProjection (h : c.Proper) {p : Projection}
    (supports : c.supports (.ofProjection p.kind) = true) (proper : p.Proper) :
    (c.withProjection p).Proper := by
  cases kind : p.kind with
  | passing =>
    have eq : c.withProjection p = { c with passing := some p } := by
      simp [Clause.withProjection, kind]
    rw [kind] at supports
    rw [eq]
    refine { h with slots := h.slots_of supports, passing := ?_ }
    rintro _ ⟨⟩
    exact ⟨kind, proper⟩
  | returning =>
    have eq : c.withProjection p = { c with returning := some p } := by
      simp [Clause.withProjection, kind]
    rw [kind] at supports
    rw [eq]
    refine { h with slots := h.slots_of supports, returning := ?_ }
    rintro _ ⟨⟩
    exact ⟨kind, proper⟩

/-- The trailing projection of a kind is of that kind. -/
theorem kind_eq (h : c.Proper) {kind : ProjectionKind} {p : Projection}
    (eq : c.projection? kind = some p) : p.kind = kind := by
  cases kind with
  | passing => exact (h.passing p eq).1
  | returning => exact (h.returning p eq).1

theorem project (h : c.Proper) (kind : ProjectionKind) {columns : Except Fault (List Column)}
    (taken : ∀ cs, columns = .ok cs → ∀ p : Projection, p.columns = cs → p.Proper)
    (distinct : Value) : (c.project kind columns distinct).clause.Proper := by
  refine h.onSlot _ fun supports => ?_
  cases columns with
  | error f => exact h
  | ok cs =>
    have same : ((c.projection? kind).getD ⟨kind, [], .bool false, .unordered⟩).kind = kind := by
      cases found : c.projection? kind with
      | none => rfl
      | some p => exact h.kind_eq found
    refine h.withProjection ?_ (taken cs rfl _ rfl)
    rw [Projection.replace, same]
    exact supports

/-- Another head with the same patterns or with proper columns, and with the same manifest. -/
theorem withHead (h : c.Proper) {head : Head} (patterns : head.patterns = c.head.patterns)
    (manifest : head.manifest = c.head.manifest)
    (projects : (∃ p, c.head = .project p) → ∃ p, head = .project p)
    (body : ∀ p, head = .project p → p.Proper) : Proper { c with head := head } where
  patterns := h.patterns.imp (fun nonempty => patterns ▸ nonempty) projects
  body := body
  path some := (congrArg List.length patterns).trans (h.path some)
  slots slot has := by
    rw [manifest]
    refine h.slots slot ?_
    cases slot <;> exact has
  passing := h.passing
  returning := h.returning

/-- An ordering lies within a projection that is there. -/
theorem onOrdering (h : c.Proper) (f : Ordering → Ordering) (fault? : Option Fault) :
    (c.onOrdering f fault?).clause.Proper := by
  have ordered : ∀ {p : Projection}, p.Proper →
      Projection.Proper { p with ordering := f p.ordering } :=
    fun proper => ⟨proper.nonempty, proper.stars⟩
  unfold Clause.onOrdering
  cases eq : c.mapOrdering? f with
  | none => exact h
  | some c' =>
    rcases c.mapOrdering?_cases eq with ⟨p, head, rfl⟩ | ⟨p, found, rfl⟩ | ⟨p, found, rfl⟩
    · refine h.withHead (by rw [head]; rfl) (by rw [head]; rfl) (fun _ => ⟨_, rfl⟩) ?_
      rintro _ ⟨⟩
      exact ordered (h.body p head)
    · have supports := h.slots .returning (by rw [Clause.has, found]; rfl)
      refine { h with slots := h.slots_of (List.contains_iff_mem.mpr supports), returning := ?_ }
      rintro _ ⟨⟩
      exact ⟨(h.returning p found).1, ordered (h.returning p found).2⟩
    · have supports := h.slots .passing (by rw [Clause.has, found]; rfl)
      refine { h with slots := h.slots_of (List.contains_iff_mem.mpr supports), passing := ?_ }
      rintro _ ⟨⟩
      exact ⟨(h.passing p found).1, ordered (h.passing p found).2⟩

theorem orderBy (h : c.Proper) (items : List SortItem) (fault? : Option Fault) :
    (c.orderBy items fault?).clause.Proper :=
  h.onOrdering _ _

theorem skip (h : c.Proper) (count : Except Fault Param) : (c.skip count).clause.Proper := by
  cases count with
  | ok p => exact h.onOrdering _ _
  | error f => exact h.onOrdering _ _

theorem limit (h : c.Proper) (count : Except Fault Param) : (c.limit count).clause.Proper := by
  cases count with
  | ok p => exact h.onOrdering _ _
  | error f => exact h.onOrdering _ _

theorem makeOptional? (h : c.Proper) {c' : Clause} (eq : c.makeOptional? = some c') :
    c'.Proper := by
  unfold Clause.makeOptional? at eq
  split at eq
  · rename_i optionalClass isOptional patterns head
    cases eq
    refine h.withHead (by rw [head]; rfl) (by rw [head]; rfl) ?_ ?_
    · rintro ⟨p, eq⟩
      cases head.symm.trans eq
    · rintro p ⟨⟩
  · cases eq

/-- A builder leaves a proper clause behind, whether or not it succeeds. -/
theorem build (h : c.Proper) (s : Store) (b : Builder) :
    (outcome (Assembly.build c b) s).1.clause.Proper := by
  cases b with
  | path v => exact h.bindPath _
  | restrict v => exact h.filterBy _
  | relax v => exact h.filterBy _
  | assign vs => exact h.assign _ _
  | remove vs => exact h.removeProperties _ _
  | delete vs detach => exact h.delete _ _ _
  | project kind vs distinct =>
    refine h.project kind (fun cs taken p eq => ?_) distinct
    exact proper_of_someColumns taken eq
  | orderBy vs => exact h.orderBy _ _
  | skip v => exact h.skip _
  | limit v => exact h.limit _
  | makeOptional =>
    change ((c.makeOptional?.map fun c => (⟨c, none⟩ : Built)).getD
      (c.refuse .missing)).clause.Proper
    cases eq : c.makeOptional? with
    | none => exact h
    | some c' => exact h.makeOptional? eq

end Clause.Proper

/-- What is made of proper columns or of patterns is a proper clause. -/
theorem Construction.Heads.proper {s : Store} {k : Construction} {head : Head}
    (h : k.Heads s head) : (Clause.ofHead head).Proper := by
  cases h with
  | read taken =>
    exact .ofHead (.inl (patterns_ne_nil taken)) fun p eq => by cases eq
  | create taken =>
    exact .ofHead (.inl (patterns_ne_nil taken)) fun p eq => by cases eq
  | projection taken =>
    refine .ofHead (.inr ⟨_, rfl⟩) ?_
    rintro p ⟨⟩
    exact proper_of_someColumns taken rfl

/-- Every clause that the library has assembled is proper. -/
theorem Store.Assembled.proper {s : Store} (assembled : s.Assembled) {h : Nat} {c : Clause}
    (found : s.get? h = some (.clause c)) : c.Proper := by
  induction assembled generalizing h c with
  | empty => cases found
  | @call s k before exported ih =>
    rcases k.clause_cases before.sound.unassigned found with old | ⟨head, made, rfl⟩ |
      ⟨old, b, -, at_h, rfl⟩
    · exact ih old
    · exact made.proper
    · exact (ih at_h).build s b
  | @hold s o before isData ih =>
    rcases Store.clause_of_push found with old | ⟨-, rfl⟩
    · exact ih old
    · cases isData

end GraphQuery
