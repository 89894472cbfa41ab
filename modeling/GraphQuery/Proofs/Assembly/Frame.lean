import GraphQuery.Proofs.Assembly.Furnishing

/-!
What assembling does to clauses.

Nothing but three calls makes a clause, and nothing but builders changes one. Whatever else is
called, and also where a call fails half way, every clause stays as it is.

* `Spares`: a step neither makes a clause nor changes one.
* `Construction.Heads`: the head of the clause that a call makes.
* `Construction.clause_cases`: where a clause comes from that is there after a call.
-/

namespace GraphQuery

open Assembly

/-- The object is a clause. -/
def Object.isClause : Object → Bool
  | clause _ => true
  | _ => false

/-! ### Steps that spare all clauses -/

namespace Store

/-- Every clause of the later store was there before, just as it is. -/
def Spared (s t : Store) : Prop :=
  ∀ ⦃h c⦄, t.get? h = some (.clause c) → s.get? h = some (.clause c)

namespace Spared

variable {s t u : Store}

theorem refl (s : Store) : s.Spared s := fun _ _ found => found

theorem trans (first : s.Spared t) (second : t.Spared u) : s.Spared u :=
  fun _ _ found => first (second found)

end Spared

/-- A clause is behind a handle after an object was added: an old clause, or that object. -/
theorem clause_of_push {s : Store} {o : Object} {h : Nat} {c : Clause}
    (found : (s.push o).get? h = some (.clause c)) :
    s.get? h = some (.clause c) ∨ h = s.next ∧ o = .clause c := by
  have lt : h < s.next + 1 := by simpa using lt_of_get? found
  rcases Nat.lt_succ_iff_lt_or_eq.mp lt with lt | rfl
  · rw [get?_push_of_lt lt] at found
    exact .inl found
  · rw [get?_push_next] at found
    exact .inr ⟨rfl, Option.some.inj found⟩

/-- A clause is behind a handle after an object was replaced: an old clause, or the new object. -/
theorem clause_of_replace {s : Store} {o : Object} {g h : Nat} {c : Clause}
    (found : (s.replace g o).get? h = some (.clause c)) :
    h ≠ g ∧ s.get? h = some (.clause c) ∨ h = g ∧ o = .clause c := by
  by_cases eq : g = h
  · subst eq
    have lt : g < s.next := by simpa using lt_of_get? found
    rw [get?_replace_self lt] at found
    exact .inr ⟨rfl, Option.some.inj found⟩
  · rw [get?_replace_of_ne s eq] at found
    exact .inl ⟨Ne.symm eq, found⟩

theorem spared_push (s : Store) {o : Object} (other : o.isClause = false) :
    s.Spared (s.push o) := by
  intro h c found
  rcases clause_of_push found with before | ⟨-, rfl⟩
  · exact before
  · cases other

theorem spared_replace (s : Store) (g : Nat) {o : Object} (other : o.isClause = false) :
    s.Spared (s.replace g o) := by
  intro h c found
  rcases clause_of_replace found with ⟨-, before⟩ | ⟨-, rfl⟩
  · exact before
  · cases other

end Store

/-- A step neither makes a clause nor changes one. -/
def Spares {α : Type} (m : StateM Store α) : Prop := ∀ s : Store, s.Spared (outcome m s).2

/-- Arguments are taken without touching a clause. -/
theorem Furnishes.spares {α : Type} {m : StateM Store α} (furnishes : Furnishes m) : Spares m := by
  intro s h c found
  by_cases lt : h < s.next
  · rwa [← (furnishes s).get?_eq lt]
  · cases ((furnishes s).added (Nat.not_lt.mp lt) found).2

namespace Spares

variable {α β : Type}

theorem pure (a : α) : Spares (Pure.pure a) := fun s => .refl s

theorem bind {m : StateM Store α} {f : α → StateM Store β} (first : Spares m)
    (next : ∀ a, Spares (f a)) : Spares (m >>= f) :=
  fun s => (first s).trans (next _ _)

theorem ok (a : α) : Spares (Pure.pure a : Assembly α).run := fun s => .refl s

theorem throw (f : Fault) : Spares (MonadExcept.throw f : Assembly α).run := fun s => .refl s

theorem refuse (cause : Refusal) : Spares (refuse cause : Assembly α).run := fun s => .refl s

/-- What would come after a failure is not looked at. -/
theorem stopped (f : Fault) (next : α → Assembly β) :
    Spares ((MonadExcept.throw f : Assembly α) >>= next).run := fun s => .refl s

/-- One step after another that can fail. -/
theorem andThen {m : Assembly α} {f : α → Assembly β} (first : Spares m.run)
    (next : ∀ a, Spares (f a).run) : Spares (m >>= f).run := by
  change Spares (m.run >>= ExceptT.bindCont f)
  refine first.bind fun r => ?_
  cases r with
  | ok a => exact next a
  | error f => exact fun s => .refl s

/-- A step after arguments have been taken. -/
theorem taking {m : Assembly α} {f : α → Assembly β} (furnishes : Furnishes m.run)
    (next : ∀ a, Spares (f a).run) : Spares (m >>= f).run :=
  furnishes.spares.andThen next

/-- A step after one that only reads. -/
theorem reading {m : Assembly α} {f : α → Assembly β} (reads : Reads m)
    (next : ∀ a, Spares (f a).run) : Spares (m >>= f).run :=
  taking (.of_reads reads) next

theorem add {o : Nat → Object} (other : ∀ h, (o h).isClause = false) :
    Spares (add o).run := fun s => s.spared_push (other _)

theorem made {o : Object} (other : o.isClause = false) : Spares (made o).run :=
  (add fun _ => other).andThen fun _ => ok _

theorem replace (h : Nat) {o : Object} (other : o.isClause = false) :
    Spares (modify (fun s : Store => s.replace h o) : Assembly PUnit).run :=
  fun s => s.spared_replace h other

end Spares

section Calls

/-! ### Accesses and patterns -/

theorem spares_property (base : Value) (path : List Value) : Spares (property base path).run := by
  unfold property
  split
  · exact .andThen (.refuse _) fun _ => .taking (.mapM furnishes_pathStep path) fun _ => .made rfl
  · exact .taking (.mapM furnishes_pathStep path) fun _ => .made rfl

theorem spares_propertyOf (receiver : Value) (path : List Value) :
    Spares (propertyOf receiver path).run := by
  refine .reading (reads_object? receiver) fun o? => ?_
  split
  · exact spares_property _ _
  · exact .taking (furnishes_items _) fun _ => spares_property _ _
  · exact spares_property _ _
  · exact .throw _

theorem spares_close (receiver v labels table : Value) :
    Spares (close receiver v labels table).run := by
  refine .reading (reads_object? receiver) fun o? => ?_
  split
  · refine .reading reads_view fun view => ?_
    split
    · exact .stopped _ _
    · refine .taking (furnishes_nodeElement v labels table) fun n => ?_
      refine .reading reads_view fun view => ?_
      split
      · exact .made rfl
      · exact .throw _
  · exact .throw _

/-! ### Expressions -/

theorem spares_comparison (operator : String) (left right : Value) :
    Spares (comparison operator left right).run :=
  .taking (furnishes_expression left) fun _ =>
    .taking (furnishes_expression right) fun _ => .made rfl

theorem spares_postCheck (operator : String) (operand : Value) :
    Spares (postCheck operator operand).run :=
  .taking (furnishes_expression operand) fun _ => .made rfl

theorem spares_negation (operand : Value) : Spares (negation operand).run :=
  .taking (furnishes_expression operand) fun _ => .made rfl

theorem spares_call (name : Value) (arguments : List Value) : Spares (call name arguments).run :=
  .taking (.mapM furnishes_expression arguments) fun _ => .made rfl

theorem spares_junction (operator : String) (operands : List Value) :
    Spares (junction operator operands).run := by
  unfold junction
  split
  · exact .stopped _ _
  · refine .taking (.mapM furnishes_expression operands) fun vs => ?_
    split
    · exact .ok _
    · exact .made rfl

theorem spares_disjoined (current : Option Value) (predicate : Value) :
    Spares (disjoined current predicate).run := by
  cases current with
  | none => exact .ok _
  | some v => exact spares_junction _ _

theorem spares_conjoined (current : Option Value) (predicate : Value) :
    Spares (conjoined current predicate).run := by
  cases current with
  | none => exact .andThen (m := Pure.pure none) (.ok _) fun _ => .ok _
  | some v =>
    refine .reading (reads_object? v) fun o? => ?_
    dsimp only
    split
    · cases ‹some v = none›
    · split
      · split
        · exact .andThen (.ok _) fun _ => .made rfl
        · exact .taking (furnishes_items _) fun _ => .made rfl
      · exact spares_junction _ _
    · exact spares_junction _ _

/-! ### Arguments of builders -/

/-- A builder call takes its arguments and leaves it to others to change the clause. -/
theorem spares_build (c : Clause) (b : Builder) : Spares (build c b) := by
  cases b with
  | path v => exact (furnishes_path v).spares.bind fun _ => .pure _
  | restrict v =>
    exact .bind (.taking (furnishes_expression v) fun _ => spares_conjoined _ _) fun _ => .pure _
  | relax v =>
    exact .bind (.taking (furnishes_expression v) fun _ => spares_disjoined _ _) fun _ => .pure _
  | assign vs => exact (Furnishes.whilePassing furnishes_assignment vs).spares.bind fun _ => .pure _
  | remove vs => exact (Furnishes.whilePassing furnishes_removal vs).spares.bind fun _ => .pure _
  | delete vs detach =>
    exact (Furnishes.whilePassing furnishes_deletion vs).spares.bind fun _ => .pure _
  | project kind vs distinct => exact (furnishes_someColumns kind vs).spares.bind fun _ => .pure _
  | orderBy vs => exact (Furnishes.whilePassing furnishes_sortItem vs).spares.bind fun _ => .pure _
  | skip v => exact (furnishes_rowCount _ v).spares.bind fun _ => .pure _
  | limit v => exact (furnishes_rowCount _ v).spares.bind fun _ => .pure _
  | makeOptional => exact .pure _

/-! ### Statements and unions -/

theorem spares_statement (nodes : List Value) : Spares (statement nodes).run :=
  .taking (.mapM furnishes_compilable nodes) fun _ => .made rfl

theorem spares_union (branches : List Value) : Spares (union branches).run := by
  unfold union
  dsimp only
  split
  · exact .stopped _ _
  · exact .taking (.mapM furnishes_compilable branches) fun _ => .made rfl

theorem spares_appendTo (nodes v : Value) : Spares (appendTo nodes v).run := by
  refine .reading (reads_object? nodes) fun o? => ?_
  split
  · exact .taking (furnishes_compilable v) fun _ => .replace _ rfl
  · exact .throw _

theorem spares_append (h : Nat) (v : Value) : Spares (append h v).run := by
  refine .reading reads_get fun s => ?_
  split
  · exact .stopped _ _
  · refine .reading reads_get fun s => .reading reads_get fun s' => ?_
    dsimp only
    split
    · exact .andThen (spares_appendTo _ v) fun _ => .ok _
    · exact .taking (furnishes_compilable v) fun _ => .andThen (.replace h rfl) fun _ => .ok _
    · exact .stopped _ _

theorem spares_keepDuplicates (h : Nat) (all : Value) : Spares (keepDuplicates h all).run := by
  refine .reading reads_get fun s => ?_
  split
  · exact .andThen (.replace h rfl) fun _ => .ok _
  · exact .throw _

end Calls

/-! ### Calls that concern clauses -/

namespace Construction

/-- The head of the clause that a call makes, from what its arguments come to. -/
inductive Heads (s : Store) : Construction → Head → Prop where
  | read {optionalClass : Bool} {isOptional : Value} {vs : List Value} {patterns : List Nat} :
      (outcome (Assembly.patterns (Head.read optionalClass isOptional []).className vs).run s).1 =
        .ok patterns →
      Heads s (.read optionalClass isOptional vs) (.read optionalClass isOptional patterns)
  | create {vs : List Value} {patterns : List Nat} :
      (outcome (Assembly.patterns (Head.create []).className vs).run s).1 = .ok patterns →
      Heads s (.create vs) (.create patterns)
  | projection {kind : ProjectionKind} {vs : List Value} {distinct : Value}
      {columns : List Column} :
      (outcome (someColumns kind vs).run s).1 = .ok columns →
      Heads s (.projection kind vs distinct) (.project ⟨kind, columns, distinct, .unordered⟩)

/-- The call is for a new clause, or a builder call. -/
def concernsClauses : Construction → Bool
  | read .. | create _ | projection .. | build .. => true
  | _ => false

/-- All other calls spare all clauses. -/
theorem spares_perform {k : Construction} (other : k.concernsClauses = false) :
    Spares k.perform.run := by
  cases k with
  | reference is stem => exact (furnishes_reference is stem).spares
  | node stem labels? => exact (furnishes_node stem labels?).spares
  | relationship stem type => exact (furnishes_relationship stem type).spares
  | param v stem => exact (furnishes_param v stem).spares
  | property base path => exact spares_property base path
  | propertyOf receiver path => exact spares_propertyOf receiver path
  | direction v =>
    unfold perform
    dsimp only
    split
    · exact .ok _
    · exact .throw _
  | nodeElement v labels table =>
    exact .taking (furnishes_nodeElement v labels table) fun _ => .made rfl
  | relationshipElement v type table way =>
    exact .taking (furnishes_relationshipElement v type table way) fun _ => .made rfl
  | pattern v labels table => exact (furnishes_pattern v labels table).spares
  | asPattern v => exact (furnishes_asPattern v).spares
  | related receiver v type table way => exact (furnishes_related receiver v type table way).spares
  | close receiver v labels table => exact spares_close receiver v labels table
  | openChain elements pending => exact .made rfl
  | expression v => exact (furnishes_expression v).spares
  | comparison operator left right => exact spares_comparison operator left right
  | check operator operand => exact spares_postCheck operator operand
  | junction operator operands => exact spares_junction operator operands
  | negation operand => exact spares_negation operand
  | call name arguments => exact spares_call name arguments
  | column v => exact .taking (furnishes_column v) fun _ => .made rfl
  | columns v =>
    exact .taking (furnishes_items v) fun vs => .taking (furnishes_columns vs) fun columns =>
      .taking (.mapM (fun _ => .made) columns) fun _ => .made rfl
  | sortItem v => exact .taking (furnishes_sortItem v) fun _ => .made rfl
  | anyComparison | anyJunction | anyNegation | anyColumn | anySortItem => exact .made rfl
  | statement nodes => exact spares_statement nodes
  | union branches => exact spares_union branches
  | append h v => exact spares_append h v
  | keepDuplicates h all => exact spares_keepDuplicates h all
  | read | create | projection | build => cases other

end Construction

/-- What comes after a step that cannot fail. -/
theorem outcome_bind_of_eq {α β : Type} {m : StateM Store α} {f : α → StateM Store β} {a : α}
    {s t : Store} (eq : outcome m s = (a, t)) : outcome (m >>= f) s = outcome (f a) t := by
  change outcome (f (outcome m s).1) (outcome m s).2 = _
  rw [eq]

/-- What comes after a step that succeeds. -/
theorem outcome_bind_of_ok {α β : Type} {m : Assembly α} {f : α → Assembly β} {a : α}
    {s t : Store}
    (ok : outcome m.run s = (.ok a, t)) : outcome (m >>= f).run s = outcome (f a).run t := by
  change outcome (ExceptT.bindCont f (outcome m.run s).1) (outcome m.run s).2 = _
  rw [ok]
  rfl

theorem outcome_get {α : Type} (f : Store → Assembly α) (s : Store) :
    outcome (get >>= f).run s = outcome (f s).run s := rfl

/-- A builder call takes its arguments, and what becomes of the clause is put in its place. -/
theorem outcome_buildOn {s : Store} (unassigned : s.assignments = []) {h : Nat} {c : Clause}
    (found : s.get? h = some (.clause c)) (b : Builder) :
    outcome (buildOn h b).run s =
      (((outcome (Assembly.build c b) s).1.fault?.elim (.ok (.object h)) .error),
        (outcome (Assembly.build c b) s).2.replace h
          (.clause (outcome (Assembly.build c b) s).1.clause)) := by
  refine (outcome_get _ s).trans ?_
  rw [found]
  refine (outcome_get _ s).trans ?_
  rw [Store.isLacking_eq_false unassigned]
  refine (outcome_get _ s).trans ?_
  rw [Store.isReassigned_eq_false unassigned]
  refine (outcome_bind_of_ok (a := (outcome (Assembly.build c b) s).1)
    (t := (outcome (Assembly.build c b) s).2) rfl).trans ?_
  refine (outcome_bind_of_ok rfl).trans ?_
  cases (outcome (Assembly.build c b) s).1.fault? <;> rfl

/-- What is no clause cannot be built on. -/
theorem fails_buildOn {s : Store} {h : Nat} (absent : ∀ c, s.get? h ≠ some (.clause c))
    (b : Builder) : Fails s (buildOn h b) := by
  refine ⟨.missing, (outcome_get _ s).trans ?_⟩
  split
  · exact absurd ‹_› (absent _)
  · rfl

/-- A call makes a clause of what its arguments come to, and spares all others. -/
theorem clause_of_made {α : Type} {s : Store} {m : Assembly α} (spares : Spares m.run)
    {f : α → Head} {h : Nat} {c : Clause}
    (found : (outcome (m >>= fun a => made (.clause (.ofHead (f a)))).run s).2.get? h =
      some (.clause c)) :
    s.get? h = some (.clause c) ∨ ∃ a, (outcome m.run s).1 = .ok a ∧ c = .ofHead (f a) := by
  change (outcome (ExceptT.bindCont (fun a => made (.clause (.ofHead (f a))))
    (outcome m.run s).1) (outcome m.run s).2).2.get? h = some (.clause c) at found
  cases answer : (outcome m.run s).1 with
  | error fault =>
    rw [answer] at found
    exact .inl (spares s found)
  | ok a =>
    rw [answer] at found
    rcases Store.clause_of_push found with before | ⟨-, made⟩
    · exact .inl (spares s before)
    · cases made
      exact .inr ⟨a, rfl, rfl⟩

namespace Construction

/-- Where nothing is assigned, a clause that is there after a call was there before, just as it is,
or is made by the call as nothing but its head, or is what a builder has made of a clause. -/
theorem clause_cases {s : Store} (unassigned : s.assignments = []) (k : Construction) {h : Nat}
    {c : Clause} (found : (outcome k.perform.run s).2.get? h = some (.clause c)) :
    s.get? h = some (.clause c) ∨
    (∃ head, k.Heads s head ∧ c = .ofHead head) ∨
    ∃ before b, k = .build h b ∧ s.get? h = some (.clause before) ∧
      c = (outcome (Assembly.build before b) s).1.clause := by
  by_cases concerns : k.concernsClauses = true
  · cases k with
    | read optionalClass isOptional vs =>
      rcases clause_of_made (furnishes_patterns _ vs).spares found with
        before | ⟨patterns, taken, rfl⟩
      · exact .inl before
      · exact .inr (.inl ⟨_, .read taken, rfl⟩)
    | create vs =>
      rcases clause_of_made (furnishes_patterns _ vs).spares found with
        before | ⟨patterns, taken, rfl⟩
      · exact .inl before
      · exact .inr (.inl ⟨_, .create taken, rfl⟩)
    | projection kind vs distinct =>
      rcases clause_of_made (furnishes_someColumns kind vs).spares found with
        before | ⟨columns, taken, rfl⟩
      · exact .inl before
      · exact .inr (.inl ⟨_, .projection taken, rfl⟩)
    | build g b =>
      change (outcome (buildOn g b).run s).2.get? h = some (.clause c) at found
      by_cases clause : ∃ before, s.get? g = some (.clause before)
      · obtain ⟨before, at_g⟩ := clause
        rw [outcome_buildOn unassigned at_g] at found
        rcases Store.clause_of_replace found with ⟨-, old⟩ | ⟨rfl, built⟩
        · exact .inl (spares_build before b s old)
        · cases built
          exact .inr (.inr ⟨before, b, rfl, at_g, rfl⟩)
      · obtain ⟨fault, eq⟩ := fails_buildOn (fun c eq => clause ⟨c, eq⟩) b
        rw [eq] at found
        exact .inl found
    | _ => cases concerns
  · exact .inl (spares_perform (Bool.not_eq_true _ ▸ concerns) s found)

end Construction

end GraphQuery
