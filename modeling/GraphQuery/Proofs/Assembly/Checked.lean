import GraphQuery.Proofs.Assembly.Interruption
import GraphQuery.Proofs.Assembly.Sources
import GraphQuery.Proofs.Assembly.Wrapping

/-!
Open chains in places where no literal can stand.

Patterns, columns, sort items, targets, row counts and parts of queries are checked to be something
that can stand in their place. An open chain can stand in none of them, so the call that is given
one there fails.

* `Store.Rejects`: how each check refuses an open chain.
* `Construction.checked`: the arguments of a call that are checked.
* `ensures_of_checked`: a call that is given an open chain among them does not succeed.
-/

namespace GraphQuery

open Assembly

/-! ### Arguments that are checked -/

/-- What a column or a sort item is given as its expression, and an assignment as its target: the
first item of a pair, or else the value itself. -/
def Store.leading (s : Store) (v : Value) : Value :=
  match s.object? v with
  | some (.tuple [a, _]) => a
  | _ => v

/-- The values that a builder is given where it checks what they are. -/
def Builder.checked (s : Store) : Builder → List Value
  | path v | skip v | limit v => [v]
  | assign vs | orderBy vs | project _ vs _ => vs.map s.leading
  | remove vs | delete vs _ => vs
  | restrict _ | relax _ | makeOptional => []

/-- The values that a call is given where it checks what they are: nodes, relationships, patterns,
columns, sort items, paths, targets, row counts and parts of queries. -/
def Construction.checked (s : Store) : Construction → List Value
  | nodeElement v _ _ | pattern v _ _ | relationshipElement v _ _ _ | related _ v _ _ _
  | close _ v _ _ | append _ v => [v]
  | read _ _ vs | create vs | statement vs | union vs => vs
  | projection _ vs _ => vs.map s.leading
  | build _ b => b.checked s
  | _ => []

/-! ### How the checks refuse -/

/-- The checks refuse an open chain, each with its own cause, and leave the store alone. -/
structure Store.Rejects (s : Store) (v : Value) (shown : String) : Prop where
  pattern : outcome (asPattern v).run s = (.error (.refused .openChain), s)
  node : ∀ labels table, outcome (nodeElement v labels table).run s =
    (.error (.refused (.notNode "PartialPattern")), s)
  relationship : ∀ type table way, outcome (relationshipElement v type table way).run s =
    (.error (.refused (.notRelationship "PartialPattern")), s)
  column : outcome (column v).run s = (.error (.refused (.column shown)), s)
  sortItem : outcome (sortItem v).run s = (.error (.refused (.sortItem shown)), s)
  path : outcome (path v).run s = (.error (.refused (.notPath "PartialPattern")), s)
  target : ∀ w b, s.object? w = some (.tuple [v, b]) → outcome (assignment w).run s =
    (.error (.refused (.assignmentTarget "PartialPattern")), s)
  removal : outcome (removal v).run s =
    (.error (.refused (.removalTarget "PartialPattern")), s)
  deletion : outcome (deletion v).run s =
    (.error (.refused (.deletionTarget "PartialPattern")), s)
  rowCount : ∀ role, outcome (rowCount role v).run s =
    (.error (.refused (.rowCount role shown)), s)
  query : outcome (compilable v).run s = (.error (.refused (.notCompilable "PartialPattern")), s)

section Rejecting

variable {s : Store} {v : Value} {c : OpenChain} (found : s.object? v = some (.chain c))
include found

/-- What a message shows of an open chain. -/
theorem outcome_quoted_chain : outcome (quoted v).run s = (.ok (Object.chain c).placed, s) := by
  cases v with
  | atom a mark => cases found
  | object h =>
    have behind : s.get? h = some (.chain c) := found
    have shown : s.quoted (.object h) = .ok (Object.chain c).placed := by
      have deep : s.depth ≠ 0 := Nat.mul_ne_zero s.next.succ_ne_zero s.next.succ_ne_zero
      obtain ⟨depth, eq⟩ := Nat.exists_eq_succ_of_ne_zero deep
      rw [Store.quoted, eq, Store.quotedWithin, behind]
      rfl
    change outcome (settle (s.quoted (.object h))).run s = _
    rw [shown]
    rfl

theorem typeName_chain : v.typeName s.view = "PartialPattern" := by
  cases v with
  | atom a mark => cases found
  | object h =>
    have behind : s.get? h = some (.chain c) := found
    change s.className h = _
    rw [Store.className, behind]
    rfl

/-- A refusal that tells the class of an open chain. -/
theorem outcome_refuseTyped_chain {α : Type} (cause : String → Refusal) :
    outcome (do refuse (cause (← typeName v)) : Assembly α).run s =
      (.error (.refused (cause "PartialPattern")), s) := by
  rw [← typeName_chain found]
  rfl

/-- A refusal that shows an open chain. -/
theorem outcome_refuseQuoted_chain {α : Type} (cause : String → Refusal) :
    outcome (do refuse (cause (← quoted v)) : Assembly α).run s =
      (.error (.refused (cause (Object.chain c).placed)), s) :=
  outcome_bind_of_ok (outcome_quoted_chain found)

/-- What looks for a reference finds none. -/
theorem outcome_reference?_chain {α : Type} (f : Option Reference → Assembly α) :
    outcome (reference? v >>= f).run s = outcome (f none).run s := by
  refine outcome_bind_of_ok (Prod.ext ?_ (reads_reference? v s))
  rw [outcome_reference?, Store.reference?, found]

/-- What looks for a parameter finds none. -/
theorem outcome_param?_chain {α : Type} (f : Option Param → Assembly α) :
    outcome (param? v >>= f).run s = outcome (f none).run s := by
  refine outcome_bind_of_ok (Prod.ext ?_ (reads_param? v s))
  rw [outcome_param?, Store.param?, found]

/-- An open chain cannot stand in a query. -/
theorem isLiteral_chain : s.IsLiteral v := by
  refine ⟨Store.knows_of_object? found, ?_⟩
  rintro ⟨o, behind, compilable⟩
  cases found.symm.trans behind
  cases compilable

theorem given?_chain : v.given? = some v := by
  cases v with
  | atom a mark => cases found
  | object h => rfl

theorem isStar_chain : isStar v = false := by
  cases v with
  | atom a mark => cases found
  | object h => rfl

/-- It is no expression. -/
theorem outcome_isExpression_chain (unassigned : s.assignments = []) {α : Type}
    (f : Bool → Assembly α) :
    outcome (isExpression v >>= f).run s = outcome (f false).run s := by
  obtain ⟨b, eq, stands⟩ := outcome_isExpression unassigned v
  cases b with
  | true => exact absurd (stands.mp rfl) (isLiteral_chain found).absent
  | false => exact outcome_bind_of_ok eq

/-- It is no column, whatever is done with columns. -/
theorem outcome_projected_chain (unassigned : s.assignments = []) {α : Type}
    (f : Value → Assembly α) : outcome (projected v >>= f).run s =
      (.error (.refused (.column (Object.chain c).placed)), s) := by
  have refused : outcome (projected v).run s =
      (.error (.refused (.column (Object.chain c).placed)), s) :=
    (outcome_isExpression_chain found unassigned _).trans (outcome_refuseQuoted_chain found _)
  exact outcome_bind_of_error refused

/-- The checks refuse an open chain. -/
theorem rejects_chain (unassigned : s.assignments = []) :
    s.Rejects v (Object.chain c).placed where
  pattern := by
    unfold asPattern
    rw [outcome_object?, found]
    rfl
  node labels table := by
    unfold nodeElement
    rw [outcome_reference?_chain found]
    exact outcome_refuseTyped_chain found _
  relationship type table way := by
    unfold relationshipElement
    rw [outcome_reference?_chain found]
    exact outcome_refuseTyped_chain found _
  column := by
    unfold column
    rw [if_neg (by simp [isStar_chain found]), outcome_object?, found]
    exact outcome_projected_chain found unassigned _
  sortItem := by
    unfold sortItem
    rw [outcome_object?, found]
    exact (outcome_isExpression_chain found unassigned _).trans
      (outcome_refuseQuoted_chain found _)
  path := by
    unfold path
    rw [outcome_reference?_chain found]
    exact outcome_refuseTyped_chain found _
  target w b pair := by
    unfold assignment
    rw [outcome_object?, pair]
    dsimp only
    rw [outcome_object?, found]
    exact outcome_refuseTyped_chain found _
  removal := by
    unfold removal
    rw [outcome_object?, found]
    exact outcome_refuseTyped_chain found _
  deletion := by
    unfold deletion
    rw [outcome_reference?_chain found]
    exact outcome_refuseTyped_chain found _
  rowCount role := by
    unfold rowCount
    rw [outcome_param?_chain found]
    cases v with
    | atom a mark => cases found
    | object h => exact outcome_refuseQuoted_chain found _
  query := by
    unfold compilable
    rw [outcome_object?, found]
    exact outcome_refuseTyped_chain found _

/-! ### Pairs that an open chain leads -/

omit found in
/-- A value leads itself and the pairs that it is the first item of. -/
theorem leading_cases {w : Value} (leads : s.leading w = v) :
    w = v ∨ ∃ b, s.object? w = some (.tuple [v, b]) := by
  unfold Store.leading at leads
  split at leads
  · rename_i b pair
    exact .inr ⟨b, leads ▸ pair⟩
  · exact .inl leads

omit found in
/-- What leads a value goes on to do so. -/
theorem Store.Grows.leads {t : Store} (grows : s.Grows t) {w : Value}
    (leads : w = v ∨ ∃ b, s.object? w = some (.tuple [v, b])) :
    w = v ∨ ∃ b, t.object? w = some (.tuple [v, b]) :=
  leads.imp id fun ⟨b, pair⟩ => ⟨b, grows.object?_eq pair⟩

variable (unassigned : s.assignments = []) {w : Value}
  (leads : w = v ∨ ∃ b, s.object? w = some (.tuple [v, b]))
include unassigned leads

theorem fails_column_chain : Fails s (column w) := by
  rcases leads with rfl | ⟨b, pair⟩
  · exact ⟨_, (rejects_chain found unassigned).column⟩
  · have noStar : isStar w = false := by
      cases w with
      | atom a mark => cases pair
      | object h => rfl
    refine ⟨.refused (.column (Object.chain c).placed), ?_⟩
    unfold column
    rw [if_neg (by simp [noStar]), outcome_object?, pair]
    exact outcome_projected_chain found unassigned _

theorem fails_sortItem_chain : Fails s (sortItem w) := by
  rcases leads with rfl | ⟨b, pair⟩
  · exact ⟨_, (rejects_chain found unassigned).sortItem⟩
  · refine .after_ok (a := some (.tuple [v, b])) (by rw [← pair]; rfl) ?_
    dsimp only
    refine .after (reads_sortOrder b) fun order => ?_
    exact ⟨_, (outcome_isExpression_chain found unassigned _).trans
      (outcome_refuseQuoted_chain found _)⟩

theorem fails_assignment_chain : Fails s (assignment w) := by
  rcases leads with rfl | ⟨b, pair⟩
  · refine ⟨.refused (.assignmentPair (Object.chain c).placed), ?_⟩
    unfold assignment
    rw [outcome_object?, found]
    exact outcome_refuseQuoted_chain found _
  · exact ⟨_, (rejects_chain found unassigned).target w b pair⟩

end Rejecting

/-! ### Calls that do not succeed -/

section Calls

variable {s : Store} (typed : s.Typed False) {v : Value} {c : OpenChain}
  (found : s.object? v = some (.chain c))
include typed found

theorem fails_asPattern_chain : Fails s (asPattern v) :=
  ⟨_, (rejects_chain found typed.unassigned).pattern⟩

/-- Patterns are not taken where one of them is an open chain. -/
theorem ensures_patterns {className : String} {vs : List Value} (mem : v ∈ vs) :
    Ensures (fun _ => False) s (patterns className vs) := by
  have each : ∀ {t : Store} (w : Value), t.Typed False →
      Yields False Anything t (do handle (← asPattern w)) := fun w typed => by
    refine (yields_asPattern typed w).bind ?_
    rintro t w typed - ⟨p, behind⟩
    cases w with
    | object h => exact .ok typed trivial
    | atom a mark => cases behind
  unfold patterns
  split
  · exact .stopped typed _ _
  · refine Ensures.mapM persists_false each (fun typed grows => ?_) typed mem
    exact .of_fails typed ((fails_asPattern_chain typed (grows.object?_eq found)).bind _)

/-- Columns are not taken where an open chain leads one of them. -/
theorem ensures_columns {vs : List Value} (kind : ProjectionKind)
    (mem : v ∈ vs.map s.leading) : Ensures (fun _ => False) s (someColumns kind vs) := by
  obtain ⟨w, listed, leads⟩ := List.mem_map.mp mem
  have taken : Ensures (fun _ => False) s (vs.mapM column) := by
    refine .mapM persists_false (fun w typed => (yields_column typed w).imp fun _ _ => trivial)
      (fun typed grows => ?_) typed listed
    exact .of_fails typed (fails_column_chain (grows.object?_eq found) typed.unassigned
      (grows.leads (leading_cases leads)))
  unfold someColumns
  split
  · exact .stopped typed _ _
  · exact taken.vain _

/-- Parts of queries are not taken where one of them is an open chain. -/
theorem ensures_compilables {vs : List Value} (mem : v ∈ vs) :
    Ensures (fun _ => False) s (vs.mapM compilable) := by
  refine .mapM persists_false (fun w typed => (yields_compilable typed w).imp fun _ _ => trivial)
    (fun typed grows => ?_) typed mem
  exact .of_fails typed ⟨_, (rejects_chain (grows.object?_eq found) typed.unassigned).query⟩

/-- A builder does not take its arguments where one that is checked is an open chain. -/
theorem taken_of_checked {b : Builder} (mem : v ∈ b.checked s) :
    b.Taken (fun _ => False) s := by
  have rejects := rejects_chain found typed.unassigned
  cases b with
  | path w =>
    obtain rfl := List.mem_singleton.mp mem
    exact .of_fails typed ⟨_, rejects.path⟩
  | skip w | limit w =>
    obtain rfl := List.mem_singleton.mp mem
    exact .of_fails typed ⟨_, rejects.rowCount _⟩
  | assign vs =>
    obtain ⟨w, listed, leads⟩ := List.mem_map.mp mem
    refine Ensures.whilePassing persists_false
      (fun w typed => (yields_assignment typed w).imp fun _ _ => trivial) (fun typed grows => ?_)
      typed listed
    exact .of_fails typed (fails_assignment_chain (grows.object?_eq found) typed.unassigned
      (grows.leads (leading_cases leads)))
  | remove vs =>
    refine Ensures.whilePassing persists_false
      (fun w typed => (yields_removal typed w).imp fun _ _ => trivial) (fun typed grows => ?_)
      typed mem
    exact .of_fails typed ⟨_, (rejects_chain (grows.object?_eq found) typed.unassigned).removal⟩
  | delete vs detach =>
    refine Ensures.whilePassing persists_false (fun w typed => yields_deletion typed w)
      (fun typed grows => ?_) typed mem
    exact .of_fails typed ⟨_, (rejects_chain (grows.object?_eq found) typed.unassigned).deletion⟩
  | project kind vs distinct => exact ensures_columns typed found kind mem
  | orderBy vs =>
    obtain ⟨w, listed, leads⟩ := List.mem_map.mp mem
    refine Ensures.whilePassing persists_false
      (fun w typed => (yields_sortItem typed w).imp fun _ _ => trivial) (fun typed grows => ?_)
      typed listed
    exact .of_fails typed (fails_sortItem_chain (grows.object?_eq found) typed.unassigned
      (grows.leads (leading_cases leads)))
  | _ => cases mem

/-- A call that is given an open chain where it checks what it is given does not succeed. -/
theorem ensures_of_checked {call : Construction} (exported : call.IsExported s)
    (mem : v ∈ call.checked s) : Ensures (fun _ => False) s call.perform := by
  have rejects := rejects_chain found typed.unassigned
  cases call with
  | nodeElement w labels table =>
    obtain rfl := List.mem_singleton.mp mem
    exact (Ensures.of_fails typed ⟨_, rejects.node labels table⟩).vain _
  | pattern w labels table =>
    obtain rfl := List.mem_singleton.mp mem
    exact (Ensures.of_fails typed ⟨_, rejects.node labels table⟩).vain _
  | relationshipElement w type table way =>
    obtain rfl := List.mem_singleton.mp mem
    exact (Ensures.of_fails typed ⟨_, rejects.relationship type table way⟩).vain _
  | related receiver w type table way =>
    obtain rfl := List.mem_singleton.mp mem
    refine Yields.object? ?_
    split
    · dsimp only
      rw [given?_chain found]
      exact (Ensures.of_fails typed ⟨_, rejects.relationship type table way⟩).vain _
    · exact .throw typed _
  | close receiver w labels table =>
    obtain rfl := List.mem_singleton.mp mem
    refine Yields.object? ?_
    split
    · refine .reading reads_view typed fun _ _ => ?_
      split
      · exact .stopped typed _ _
      · exact (Ensures.of_fails typed ⟨_, rejects.node labels table⟩).vain _
    · exact .throw typed _
  | read optionalClass isOptional vs => exact (ensures_patterns typed found mem).vain _
  | create vs => exact (ensures_patterns typed found mem).vain _
  | projection kind vs distinct => exact (ensures_columns typed found kind mem).vain _
  | statement nodes => exact (ensures_compilables typed found mem).vain _
  | union branches =>
    unfold Construction.perform union
    dsimp only
    split
    · exact .stopped typed _ _
    · exact (ensures_compilables typed found mem).vain _
  | append h w =>
    obtain rfl := List.mem_singleton.mp mem
    by_cases isStatement : ∃ nodes, s.get? h = some (.statement nodes)
    · obtain ⟨nodes, behind⟩ := isStatement
      exact .congr (outcome_append typed.unassigned behind v)
        ((Ensures.of_fails typed ⟨_, rejects.query⟩).vain _)
    · exact .of_fails typed (fails_append typed.unassigned
        (fun nodes eq => isStatement ⟨nodes, eq⟩) v)
  | build h b => exact ensures_buildOn persists_false typed h (taken_of_checked typed found mem)
  | _ => cases mem

end Calls

end GraphQuery
