import GraphQuery.Assembly.Construction
import GraphQuery.Proofs.Assembly.Expression
import GraphQuery.Proofs.Store.Addition

/-!
How calls take their arguments.

An argument is looked at, and a literal or a node may be put into an object of its own. That changes
nothing that is there, and what is added is made of no other object.

* `Furnishes`: a step does no more than that.
* `furnishes_expression`, `furnishes_someColumns`, `furnishes_patterns`: the arguments of
  expressions, projections and clauses.
-/

namespace GraphQuery

open Assembly

/-! ### Reading -/

namespace Reads

variable {α β : Type}

theorem ok (a : α) : Reads (Pure.pure a) := fun _ => rfl

theorem andThen {m : Assembly α} {f : α → Assembly β} (first : Reads m)
    (next : ∀ a, Reads (f a)) : Reads (m >>= f) := by
  intro s
  change (outcome (ExceptT.bindCont f (outcome m.run s).1) (outcome m.run s).2).2 = s
  rw [first s]
  cases (outcome m.run s).1 with
  | ok a => exact next a s
  | error f => rfl

end Reads

theorem reads_view : Reads view := fun _ => rfl

theorem reads_object? (v : Value) : Reads (object? v) := fun _ => rfl

theorem reads_get : Reads (MonadState.get : Assembly Store) := fun _ => rfl

theorem reads_reference? (v : Value) : Reads (reference? v) := by
  refine .andThen (reads_object? v) fun o? => ?_
  split
  · exact .ok _
  · exact .ok _

theorem reads_param? (v : Value) : Reads (param? v) := by
  refine .andThen (reads_object? v) fun o? => ?_
  split
  · exact .ok _
  · exact .ok _

theorem reads_isExpression (v : Value) : Reads (isExpression v) := by
  intro s
  cases v <;> rfl

theorem reads_plain (v : Value) : Reads (plain v) := reads_check v.plain

/-! ### Steps that add what is bare -/

/-- A step changes no object, and what it adds is made of no others. -/
def Furnishes {α : Type} (m : StateM Store α) : Prop :=
  ∀ s : Store, s.Adds Object.IsBare (outcome m s).2

namespace Furnishes

variable {α β : Type}

theorem pure (a : α) : Furnishes (Pure.pure a) := fun s => .refl s

theorem bind {m : StateM Store α} {f : α → StateM Store β} (first : Furnishes m)
    (next : ∀ a, Furnishes (f a)) : Furnishes (m >>= f) :=
  fun s => (first s).trans (next _ _)

/-- What only reads adds nothing. -/
theorem of_reads {m : Assembly α} (reads : Reads m) : Furnishes m.run := by
  intro s
  rw [reads s]
  exact .refl s

theorem ok (a : α) : Furnishes (Pure.pure a : Assembly α).run := fun s => .refl s

theorem throw (f : Fault) : Furnishes (MonadExcept.throw f : Assembly α).run := fun s => .refl s

theorem refuse (cause : Refusal) : Furnishes (refuse cause : Assembly α).run := fun s => .refl s

/-- One step after another that can fail. -/
theorem andThen {m : Assembly α} {f : α → Assembly β} (first : Furnishes m.run)
    (next : ∀ a, Furnishes (f a).run) : Furnishes (m >>= f).run := by
  change Furnishes (m.run >>= ExceptT.bindCont f)
  refine first.bind fun r => ?_
  cases r with
  | ok a => exact next a
  | error f => exact fun s => .refl s

/-- A step after one that only reads. -/
theorem reading {m : Assembly α} {f : α → Assembly β} (reads : Reads m)
    (next : ∀ a, Furnishes (f a).run) : Furnishes (m >>= f).run :=
  (of_reads reads).andThen next

theorem add {o : Nat → Object} (bare : ∀ h, (o h).IsBare h) : Furnishes (add o).run :=
  fun s => .push s (bare _)

theorem made {o : Object} (parts : o.parts = [] := by rfl)
    (fixed : o.isBuildable = false := by rfl) : Furnishes (made o).run :=
  (add fun _ => ⟨parts, fixed⟩).andThen fun _ => ok _

theorem mapM {f : α → Assembly β} (step : ∀ a, Furnishes (f a).run) (as : List α) :
    Furnishes (as.mapM f).run := by
  induction as with
  | nil => exact ok _
  | cons a as ih =>
    rw [List.mapM_cons]
    exact (step a).andThen fun _ => ih.andThen fun _ => ok _

theorem whilePassing {f : Value → Assembly α} (step : ∀ v, Furnishes (f v).run)
    (vs : List Value) : Furnishes (whilePassing f vs) := by
  induction vs with
  | nil => exact pure _
  | cons v vs ih =>
    unfold Assembly.whilePassing
    refine (step v).bind fun r => ?_
    cases r with
    | ok a => exact ih.bind fun _ => pure _
    | error f => exact pure _

end Furnishes

section Calls

/-- A refusal that says something about a value. -/
theorem furnishes_refuseQuoted {α : Type} (v : Value) (cause : String → Refusal) :
    Furnishes (do refuse (cause (← quoted v)) : Assembly α).run :=
  .reading (reads_quoted v) fun _ => .refuse _

theorem furnishes_refuseTyped {α : Type} (v : Value) (cause : String → Refusal) :
    Furnishes (do refuse (cause (← typeName v)) : Assembly α).run :=
  .reading (reads_typeName v) fun _ => .refuse _

/-! ### Collections -/

theorem furnishes_fieldPairs (fields : List (String × Value)) : Furnishes (fieldPairs fields).run :=
  .mapM (fun _ => .made) fields

theorem furnishes_listed (v : Value) : Furnishes (listed v).run := by
  refine .reading reads_view fun view => ?_
  split
  · exact .ok _
  · exact .throw _

theorem furnishes_items (v : Value) : Furnishes (items v).run := by
  refine .reading (reads_object? v) fun o? => ?_
  split
  · exact .andThen (.made) fun _ => furnishes_fieldPairs _
  · exact furnishes_fieldPairs _
  · exact furnishes_listed v

theorem furnishes_labels (role : String) (v : Value) : Furnishes (labels role v).run := by
  unfold labels
  split
  · exact .reading (reads_check _) fun _ => .ok _
  · exact .andThen (furnishes_items v) fun vs => .mapM (fun _ => .of_reads (reads_check _)) vs

/-! ### References and parameters -/

theorem furnishes_reference (is : RefClass) (stem : Value) : Furnishes (reference is stem).run :=
  .reading (reads_check _) fun _ => .andThen (.add fun _ => ⟨rfl, rfl⟩) fun _ => .ok _

theorem furnishes_node (stem : Value) (labels? : Option Value) :
    Furnishes (node stem labels?).run := by
  refine .reading (reads_check _) fun _ => .andThen ?_ fun _ =>
    .andThen (.add fun _ => ⟨rfl, rfl⟩) fun _ => .ok _
  cases labels? with
  | none => exact .ok _
  | some v => exact furnishes_labels _ v

theorem furnishes_relationship (stem type : Value) : Furnishes (relationship stem type).run :=
  .reading (reads_check _) fun _ => .reading (reads_check _) fun _ =>
    .andThen (.add fun _ => ⟨rfl, rfl⟩) fun _ => .ok _

theorem furnishes_param (v stem : Value) : Furnishes (param v stem).run :=
  .reading (reads_check _) fun _ => .andThen (.add fun _ => ⟨rfl, rfl⟩) fun _ => .ok _

theorem furnishes_wrap (v : Value) : Furnishes (wrap v).run :=
  .andThen (.add fun _ => ⟨rfl, rfl⟩) fun _ => .ok _

theorem furnishes_pathStep (v : Value) : Furnishes (pathStep v).run := by
  unfold pathStep
  split
  · exact .ok _
  · exact furnishes_refuseQuoted v _

/-! ### Patterns -/

theorem furnishes_propertyEntry (entry : Value × Value) : Furnishes (propertyEntry entry).run := by
  unfold propertyEntry
  split
  · refine .andThen ?_ fun _ => .ok _
    refine .reading (reads_param? _) fun p? => ?_
    split
    · exact .ok _
    · refine .reading (reads_isExpression _) fun isExpression => ?_
      split
      · exact .reading (reads_quoted _) fun _ => .reading (reads_typeName _) fun _ =>
          .andThen (.refuse _) fun _ => furnishes_wrap _
      · exact furnishes_wrap _
  · exact furnishes_refuseQuoted _ _

theorem furnishes_properties (v : Value) : Furnishes (properties v).run := by
  refine .reading reads_view fun view => ?_
  split
  · exact .ok _
  · exact .mapM furnishes_propertyEntry _
  · exact furnishes_refuseTyped _ _

theorem furnishes_nodeElement (v labels table : Value) :
    Furnishes (nodeElement v labels table).run := by
  refine .reading (reads_reference? v) fun r? => ?_
  split
  · dsimp only
    split
    · exact .andThen (.ok _) fun _ => .andThen (furnishes_properties table) fun _ => .ok _
    · exact .andThen (furnishes_labels _ _) fun _ =>
        .andThen (furnishes_properties table) fun _ => .ok _
  · exact furnishes_refuseTyped _ _

theorem furnishes_direction (v : Value) : Furnishes (direction v).run := by
  unfold direction
  split
  · exact .ok _
  · exact furnishes_refuseQuoted _ _

theorem furnishes_relationshipElement (v type table way : Value) :
    Furnishes (relationshipElement v type table way).run := by
  refine .reading (reads_reference? v) fun r? => ?_
  split
  · exact .andThen (furnishes_properties table) fun _ =>
      .andThen (furnishes_direction way) fun _ => .ok _
  · exact furnishes_refuseTyped _ _

theorem furnishes_pattern (v labels table : Value) : Furnishes (pattern v labels table).run :=
  .andThen (furnishes_nodeElement v labels table) fun _ => .made

theorem furnishes_asPattern (v : Value) : Furnishes (asPattern v).run := by
  refine .reading (reads_object? v) fun o? => ?_
  split
  · exact .ok _
  · exact furnishes_pattern _ _ _
  · exact .refuse _
  · exact furnishes_refuseTyped _ _

theorem furnishes_related (receiver v type table way : Value) :
    Furnishes (related receiver v type table way).run := by
  refine .reading (reads_object? receiver) fun o? => ?_
  split
  · dsimp only
    split
    · exact .andThen (furnishes_reference _ _) fun _ =>
        .andThen (furnishes_relationshipElement _ type table way) fun _ => .made
    · exact .andThen (.ok _) fun _ =>
        .andThen (furnishes_relationshipElement _ type table way) fun _ => .made
  · exact .throw _

/-! ### Operands, columns and sort items -/

theorem furnishes_expression (v : Value) : Furnishes (expression v).run := by
  refine .reading (reads_isExpression v) fun isExpression => ?_
  split
  · exact .ok _
  · exact .andThen (furnishes_wrap v) fun _ => .ok _

theorem furnishes_columnName (v : Value) : Furnishes (columnName v).run := by
  refine .reading (reads_reference? v) fun r? => ?_
  split
  · exact .ok _
  · exact .reading (reads_check _) fun _ => .ok _

theorem furnishes_projected (v : Value) : Furnishes (projected v).run := by
  refine .reading (reads_isExpression v) fun isExpression => ?_
  split
  · exact .ok _
  · exact furnishes_refuseQuoted v _

theorem furnishes_column (v : Value) : Furnishes (column v).run := by
  unfold column
  split
  · exact .ok _
  · refine .reading (reads_object? v) fun o? => ?_
    split
    · exact .andThen (furnishes_projected _) fun _ =>
        .andThen (furnishes_columnName _) fun _ => .ok _
    · exact .refuse _
    · exact .andThen (furnishes_projected _) fun _ => .ok _

theorem furnishes_columns (vs : List Value) : Furnishes (columns vs).run := by
  refine .andThen (.mapM furnishes_column vs) fun columns => ?_
  split
  · exact .andThen (.refuse _) fun _ => .ok _
  · exact .ok _

theorem furnishes_someColumns (kind : ProjectionKind) (vs : List Value) :
    Furnishes (someColumns kind vs).run := by
  unfold someColumns
  split
  · exact .andThen (.refuse _) fun _ => furnishes_columns vs
  · exact furnishes_columns vs

theorem furnishes_sortOrder (v : Value) : Furnishes (sortOrder v).run := by
  refine .reading (reads_plain v) fun s => ?_
  dsimp only
  split
  · exact .ok _
  · exact furnishes_refuseQuoted v _

theorem furnishes_sortItemOf (e : Value) (order : String) : Furnishes (sortItemOf e order).run := by
  refine .reading (reads_isExpression e) fun isExpression => ?_
  split
  · exact .ok _
  · exact furnishes_refuseQuoted e _

theorem furnishes_sortItem (v : Value) : Furnishes (sortItem v).run := by
  refine .reading (reads_object? v) fun o? => ?_
  dsimp only
  split
  · exact .andThen (furnishes_sortOrder _) fun order => .andThen (.ok _) fun p =>
      furnishes_sortItemOf p.1 p.2
  · exact .andThen (.refuse _) fun p => furnishes_sortItemOf p.1 p.2
  · exact .andThen (.ok _) fun p => furnishes_sortItemOf p.1 p.2

theorem furnishes_rowCount (role : String) (v : Value) : Furnishes (rowCount role v).run := by
  refine .reading (reads_param? v) fun p? => ?_
  split
  · exact .ok _
  · exact furnishes_wrap _
  · exact furnishes_refuseQuoted v _

/-! ### Arguments of clauses and builders -/

theorem furnishes_handle (v : Value) : Furnishes (handle v).run := by
  cases v with
  | object h => exact .ok h
  | atom a mark => exact .throw _

theorem furnishes_patterns (className : String) (vs : List Value) :
    Furnishes (patterns className vs).run := by
  have each : Furnishes (vs.mapM fun v => do handle (← asPattern v) : Assembly (List Nat)).run :=
    .mapM (fun v => .andThen (furnishes_asPattern v) fun _ => furnishes_handle _) vs
  unfold patterns
  split
  · exact .andThen (.refuse _) fun _ => each
  · exact each

theorem furnishes_path (v : Value) : Furnishes (path v).run := by
  refine .reading (reads_reference? v) fun r? => ?_
  split
  · exact .ok _
  · exact furnishes_refuseTyped v _

theorem furnishes_assignment (v : Value) : Furnishes (assignment v).run := by
  refine .reading (reads_object? v) fun o? => ?_
  split
  · refine .reading (reads_object? _) fun o? => ?_
    split
    · exact .andThen (furnishes_expression _) fun _ => .ok _
    · exact furnishes_refuseTyped _ _
  · exact furnishes_refuseQuoted v _

theorem furnishes_removal (v : Value) : Furnishes (removal v).run := by
  refine .reading (reads_object? v) fun o? => ?_
  split
  · exact .ok _
  · exact furnishes_refuseTyped v _

theorem furnishes_deletion (v : Value) : Furnishes (deletion v).run := by
  refine .reading (reads_reference? v) fun r? => ?_
  split
  · exact .ok _
  · exact furnishes_refuseTyped v _

theorem furnishes_compilable (v : Value) : Furnishes (compilable v).run := by
  refine .reading (reads_object? v) fun o? => ?_
  split
  · exact furnishes_handle v
  · exact furnishes_refuseTyped v _

end Calls

end GraphQuery
