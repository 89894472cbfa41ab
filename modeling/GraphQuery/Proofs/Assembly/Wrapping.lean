import GraphQuery.Proofs.Assembly.Exported
import GraphQuery.Proofs.Assembly.Success

/-!
What becomes of literals.

A value that cannot stand in a query is a literal. Where a call that succeeds is given one in a
place for literals, it has put it into a parameter. No other parameters come to have the value.

* `Store.HasParam`: there is a parameter with the value.
* `Construction.Exported.hasParam_iff`: which parameters have a literal as their value after a call
  that succeeds.
* `Store.AssembledWithout`: what the library assembles if it is never given a value in a place for
  literals.
-/

namespace GraphQuery

open Assembly

/-- Like objects are alike in whatever way the values of parameters are related. -/
theorem Object.Alike.of_param {R Q : Value → Value → Prop} {s s' : Store} {h : Nat}
    {o o' : Object} (like : Object.Alike R s s' h o o')
    (related : ∀ p p', o = .param p → o' = .param p' → Q p.value p'.value) :
    Object.Alike Q s s' h o o' := by
  cases like with
  | param _ => exact .param (related _ _ rfl rfl)
  | reference eq => exact .reference eq
  | expression exported => exact .expression exported
  | nodeElement n => exact .nodeElement n
  | relationshipElement r => exact .relationshipElement r
  | pattern es => exact .pattern es
  | chain c => exact .chain c
  | clause c => exact .clause c
  | statement => exact .statement
  | union all => exact .union all
  | data isData isData' => exact .data isData isData'

namespace Store

/-- There is a parameter with the value. -/
def HasParam (s : Store) (v : Value) : Prop := ∃ h p, s.get? h = some (.param p) ∧ p.value = v

/-- The value is there, and it cannot stand in a query. -/
structure IsLiteral (s : Store) (v : Value) : Prop where
  known : s.Knows v
  absent : ¬ s.Stands v

variable {s t : Store} {v : Value}

theorem IsLiteral.mono (h : s.IsLiteral v) (grows : s.Grows t) : t.IsLiteral v :=
  ⟨h.known.mono grows, fun stands => h.absent (h.known.stands_of_stands grows stands)⟩

theorem persists_hasParam (v : Value) : Persists fun s => s.HasParam v := by
  rintro s t grows ⟨h, p, found, eq⟩
  exact ⟨h, p, grows.get?_eq found, eq⟩

/-! ### Values that are kept out -/

/-- A sound store is like itself in whatever way the values of its parameters are related to
themselves. -/
theorem Alike.of_params {R Q : Value → Value → Prop} (like : s.Alike R s)
    (related : ∀ v, s.HasParam v → Q v v) : s.Alike Q s where
  next_eq := rfl
  unassigned := like.unassigned
  unassigned' := like.unassigned'
  objects := by
    intro h o o' found found'
    obtain rfl : o = o' := Option.some_inj.mp (found.symm.trans found')
    refine (like.objects found found).of_param fun p p' eq eq' => ?_
    subst eq
    cases eq'
    exact related p.value ⟨h, p, found, rfl⟩

/-- The values of parameters are related to themselves in a store that is like itself. -/
theorem Alike.related_of_hasParam {R : Value → Value → Prop} (like : s.Alike R s)
    (has : s.HasParam v) : R v v := by
  obtain ⟨h, p, found, rfl⟩ := has
  cases like.objects found found with
  | param related => exact related
  | data isData => cases isData

/-- A call is like itself apart from a value that it is not given where a literal can stand. -/
theorem alike_without {c : Construction} (exported : c.Exported s) (elsewhere : v ∉ c.literals s) :
    c.Alike (fun a _ => a ≠ v) s s c :=
  exported.alike_of_related fun _ mem eq => elsewhere (eq ▸ mem)

/-- No parameter comes to have a value that a call is not given where a literal can stand. -/
theorem not_hasParam_perform (like : s.Alike (fun _ _ => True) s) {c : Construction}
    (exported : c.Exported s) (elsewhere : v ∉ c.literals s) (absent : ¬ s.HasParam v) :
    ¬ (outcome c.perform.run s).2.HasParam v := by
  have without : s.Alike (fun a _ => a ≠ v) s :=
    like.of_params fun _ has eq => absent (eq ▸ has)
  have after := (agree_perform without (alike_without exported elsewhere)).alike
  exact fun has => after.related_of_hasParam has rfl

/-- The stores that come of calls of the library that are not given a value where a literal can
stand, and of collections and records that a caller makes, in any order. A call may fail. -/
inductive AssembledWithout (v : Value) : Store → Prop where
  | empty : AssembledWithout v .empty
  | call {s : Store} {c : Construction} : AssembledWithout v s → c.Exported s → v ∉ c.literals s →
      AssembledWithout v (outcome c.perform.run s).2
  | hold {s : Store} {o : Object} : AssembledWithout v s → o.isData = true →
      AssembledWithout v (s.push o)

theorem AssembledWithout.assembled (h : s.AssembledWithout v) : s.Assembled := by
  induction h with
  | empty => exact .empty
  | call _ exported _ ih => exact .call ih exported
  | hold _ isData ih => exact .hold ih isData

/-- What is never given where a literal can stand is in no parameter. -/
theorem AssembledWithout.not_hasParam (h : s.AssembledWithout v) : ¬ s.HasParam v := by
  have like : s.Alike (fun a _ => a ≠ v) s := by
    induction h with
    | empty => exact alike_empty _
    | call _ exported elsewhere ih =>
      exact (agree_perform ih (alike_without exported elsewhere)).alike
    | hold _ isData ih => exact ih.push (.data isData isData)
  exact fun has => like.related_of_hasParam has rfl

end Store

/-! ### Values that are wrapped -/

section Wrapping

variable {s : Store} {v : Value} (typed : s.Typed False)
include typed

/-- A value that is wrapped is in a parameter. -/
theorem wraps_wrap (v : Value) : Ensures (·.HasParam v) s (wrap v) :=
  (Yields.add typed (o := fun h => .param ⟨h, v, none⟩) (by rintro _ ⟨⟩)).bind
    fun typed _ found => .ok typed ⟨_, _, found, rfl⟩

theorem wraps_param (v stem : Value) : Ensures (·.HasParam v) s (param v stem) := by
  refine .reading (reads_check _) typed fun _ ok => ?_
  have identifier := isIdentifier_of_checkStem (outcome_check ok)
  exact (Yields.add typed (o := fun h => .param ⟨h, v, _⟩) identifier).bind
    fun typed _ found => .ok typed ⟨_, _, found, rfl⟩

variable (literal : s.IsLiteral v)
include literal

/-- An operand that cannot stand in a query is wrapped. -/
theorem wraps_expression : Ensures (·.HasParam v) s (expression v) := by
  refine Yields.isExpression typed (fun stands => absurd stands literal.absent) ?_
  exact (wraps_wrap typed v).bind fun typed _ has => .ok typed has

/-- One of the operands is wrapped. -/
theorem wraps_operands {vs : List Value} (mem : v ∈ vs) :
    Ensures (·.HasParam v) s (vs.mapM expression) :=
  .mapM (Store.persists_hasParam v)
    (fun w typed => (yields_expression typed w).imp fun _ _ => trivial)
    (fun typed grows => wraps_expression typed (literal.mono grows)) typed mem

/-! ### Expressions -/

theorem wraps_comparison (operator : String) {left right : Value} (mem : v ∈ [left, right]) :
    Ensures (·.HasParam v) s (comparison operator left right) := by
  have persists := Store.persists_hasParam v
  rcases List.mem_pair.mp mem with rfl | rfl
  · refine .first persists (yields_expression typed v) (wraps_expression typed literal) ?_
    refine fun typed _ left => (yields_expression typed right).bind fun typed grows right => ?_
    exact .makes typed (.comparison (left.mono grows) right)
  · refine (yields_expression typed left).bind fun typed grows left => ?_
    refine Ensures.first persists (yields_expression typed v)
      (wraps_expression typed (literal.mono grows)) fun typed grows right => ?_
    exact .makes typed (.comparison (left.mono grows) right)

theorem wraps_postCheck (operator : String) : Ensures (·.HasParam v) s (postCheck operator v) :=
  .first (Store.persists_hasParam v) (yields_expression typed v) (wraps_expression typed literal)
    fun typed _ operand => .makes typed (.check operand)

theorem wraps_negation : Ensures (·.HasParam v) s (negation v) :=
  .first (Store.persists_hasParam v) (yields_expression typed v) (wraps_expression typed literal)
    fun typed _ operand => .makes typed (.negation operand)

theorem wraps_call {name : String} {vs : List Value} (mem : v ∈ vs) :
    Ensures (·.HasParam v) s (call (.text name) vs) :=
  .first (Store.persists_hasParam v) (yields_operands typed vs)
    (wraps_operands typed literal mem) fun typed _ operands => .makes typed (.call operands.2)

theorem wraps_junction (operator : String) {vs : List Value} (mem : v ∈ vs) :
    Ensures (·.HasParam v) s (junction operator vs) := by
  unfold junction
  split
  · exact .stopped typed _ _
  · rename_i given
    refine .first (Store.persists_hasParam v) (yields_operands typed vs)
      (wraps_operands typed literal mem) fun {t ws} typed _ operands => ?_
    split
    · exact .ok typed trivial
    · rename_i several
      exact .makes typed (.junction (two_le_length given operands.1 several) operands.2)

/-! ### Properties of patterns -/

/-- The value of a property is wrapped. -/
theorem wraps_propertyEntry (key : Value) : Ensures (·.HasParam v) s (propertyEntry (key, v)) := by
  have absent : s.param? v = none := Store.param?_of_not_stands literal.absent
  unfold propertyEntry
  split
  · refine Yields.bind (P := fun t _ => t.HasParam v) ?_ fun typed _ has => .ok typed has
    refine .reading (reads_param? v) typed fun p? found => ?_
    rw [outcome_param?, absent] at found
    cases found
    refine Yields.isExpression typed (fun stands => absurd stands literal.absent) ?_
    exact wraps_wrap typed v
  · exact .refuseQuoted typed _ _

/-- What is listed in a table of properties is wrapped. -/
theorem wraps_properties {table : Value} (mem : v ∈ s.entryValues table) :
    Ensures (·.HasParam v) s (properties table) := by
  unfold Store.entryValues at mem
  split at mem
  · rename_i entries found
    obtain ⟨⟨key, _⟩, listed, rfl⟩ := List.mem_map.mp mem
    have given : table.given? = some table := by
      cases table with
      | atom a mark => cases found
      | object h => rfl
    have known := (s.entries?_eq_some_iff table entries).mpr found
    refine .reading reads_view typed fun view eq => ?_
    obtain rfl : view = s.view := (Except.ok.inj eq).symm
    rw [given, known]
    exact Ensures.mapM (Store.persists_hasParam _)
      (fun entry typed => yields_propertyEntry typed entry)
      (fun typed grows => wraps_propertyEntry typed (literal.mono grows) key) typed listed
  · cases mem

omit typed literal in
/-- What stands in a table of properties stands there when the store has grown. -/
theorem Store.Grows.mem_entryValues {t : Store} (grows : s.Grows t) {table : Value}
    (mem : v ∈ s.entryValues table) : v ∈ t.entryValues table := by
  unfold Store.entryValues at mem
  split at mem
  · rename_i entries found
    rw [Store.entryValues_of_dict (grows.object?_eq found)]
    exact mem
  · cases mem

theorem wraps_nodeElement (n labels : Value) {table : Value} (mem : v ∈ s.entryValues table) :
    Ensures (·.HasParam v) s (nodeElement n labels table) := by
  refine Yields.reference? typed fun r? _ => ?_
  split
  · rename_i id stem own _
    have others : ∀ {t : Store} (labels : List Name), t.Typed False → s.Grows t →
        Ensures (·.HasParam v) t (do
          let table ← properties table
          return (⟨.made ⟨id, stem, .node own⟩, .made labels, .made table⟩ : NodeElement)) :=
      fun _ typed grows => .first (Store.persists_hasParam v) (yields_properties typed table)
        (wraps_properties typed (literal.mono grows) (grows.mem_entryValues mem))
        fun typed _ _ => .ok typed trivial
    dsimp only
    split
    · exact others _ typed (.refl s)
    · exact (yields_labels typed _ _).bind fun typed grows _ => others _ typed grows
  · exact .refuseTyped typed _ _

theorem wraps_relationshipElement (r type : Value) {table : Value} (way : Value)
    (mem : v ∈ s.entryValues table) :
    Ensures (·.HasParam v) s (relationshipElement r type table way) := by
  refine Yields.reference? typed fun r? _ => ?_
  split
  · refine Ensures.first (Store.persists_hasParam v) (yields_properties typed table)
      (wraps_properties typed literal mem) fun typed _ _ => ?_
    exact (yields_direction typed way).bind fun typed _ _ => .ok typed trivial
  · exact .refuseTyped typed _ _

/-! ### Patterns and chains -/

omit typed literal in
/-- Nothing is asked of the elements of a chain if callers need not be strict. -/
theorem Element.typed_lax (e : Element) : e.Typed False := by
  cases e with
  | relationship r => exact False.elim
  | node n => exact trivial
  | given v => exact trivial

theorem wraps_pattern (n labels : Value) {table : Value} (mem : v ∈ s.entryValues table) :
    Ensures (·.HasParam v) s (pattern n labels table) :=
  .first (Store.persists_hasParam v) (yields_nodeElement typed n labels table)
    (wraps_nodeElement typed literal n labels mem) fun typed _ _ =>
    .makes (o := .pattern _) typed fun _ _ e _ => e.typed_lax

theorem wraps_related (receiver r type : Value) {table : Value} (way : Value)
    (mem : v ∈ s.entryValues table) :
    Ensures (·.HasParam v) s (related receiver r type table way) := by
  refine Yields.object? ?_
  split
  · rename_i p _
    have chained : ∀ {t : Store} (r : Value), t.Typed False → s.Grows t →
        Ensures (·.HasParam v) t
          (do made (.chain (p.related (← relationshipElement r type table way)))) :=
      fun r typed grows => .first (Store.persists_hasParam v)
        (yields_relationshipElement typed r type table way)
        (wraps_relationshipElement typed (literal.mono grows) r type way (grows.mem_entryValues mem))
        fun typed _ _ => .makes (o := .chain _) typed ⟨fun _ _ e _ => e.typed_lax, Element.typed_lax _⟩
    dsimp only
    split
    · exact (yields_reference typed _ _).bind fun typed grows _ => chained _ typed grows
    · exact chained _ typed (.refl s)
  · exact .throw typed _

theorem wraps_close (receiver n labels : Value) {table : Value} (mem : v ∈ s.entryValues table) :
    Ensures (·.HasParam v) s (close receiver n labels table) := by
  refine Yields.object? ?_
  split
  · refine .reading reads_view typed fun view _ => ?_
    split
    · exact .stopped typed _ _
    · refine Ensures.first (Store.persists_hasParam v) (yields_nodeElement typed n labels table)
        (wraps_nodeElement typed literal n labels mem) fun typed _ _ => ?_
      refine .reading reads_view typed fun view _ => ?_
      split
      · exact .makes (o := .pattern _) typed fun _ _ e _ => e.typed_lax
      · exact .throw typed _
  · exact .throw typed _

/-! ### Builders -/

omit typed literal in
/-- What is the second item of a pair is still so when the store has grown. -/
theorem Store.Grows.second?_eq {t : Store} (grows : s.Grows t) {w : Value}
    (second : s.second? w = some v) : t.second? w = some v := by
  unfold Store.second? at second
  split at second
  · rename_i found
    cases second
    exact Store.second?_of_pair (grows.object?_eq found)
  · cases second

/-- The value of an assignment is wrapped. -/
theorem wraps_assignment {w : Value} (second : s.second? w = some v) :
    Ensures (·.HasParam v) s (assignment w) := by
  unfold Store.second? at second
  split at second
  · rename_i target _ found
    cases second
    refine Yields.object? ?_
    rw [found]
    refine Yields.object? ?_
    dsimp only
    split
    · exact (wraps_expression typed literal).bind fun typed _ has => .ok typed has
    · exact .refuseTyped typed _ _
  · cases second

theorem wraps_rowCount (role : String) : Ensures (·.HasParam v) s (rowCount role v) := by
  have absent : s.param? v = none := Store.param?_of_not_stands literal.absent
  refine .reading (reads_param? v) typed fun p? found => ?_
  rw [outcome_param?, absent] at found
  cases found
  split
  · cases ‹none = some _›
  · exact wraps_wrap typed _
  · exact .refuseQuoted typed _ _

/-- What a builder is given in a place for literals is wrapped. -/
theorem wraps_build {b : Builder} (mem : v ∈ b.literals s) : b.Taken (·.HasParam v) s := by
  cases b with
  | restrict w | relax w =>
    obtain rfl := List.mem_singleton.mp mem
    exact wraps_expression typed literal
  | skip w | limit w =>
    obtain rfl := List.mem_singleton.mp mem
    exact wraps_rowCount typed literal _
  | assign ws =>
    obtain ⟨w, listed, second⟩ := List.mem_filterMap.mp mem
    refine Ensures.whilePassing (Store.persists_hasParam v)
      (fun w typed => (yields_assignment typed w).imp fun _ _ => trivial) (fun typed grows => ?_)
      typed listed
    exact wraps_assignment typed (literal.mono grows) (grows.second?_eq second)
  | _ => cases mem

/-! ### Calls -/

/-- What a call is given in a place for literals is wrapped, if the call succeeds. -/
theorem wraps_perform {c : Construction} (exported : c.Exported s) (mem : v ∈ c.literals s) :
    Ensures (·.HasParam v) s c.perform := by
  have persists := Store.persists_hasParam v
  cases c with
  | param w stem =>
    obtain rfl := List.mem_singleton.mp mem
    exact wraps_param typed v stem
  | nodeElement n labels table =>
    exact .first persists (yields_nodeElement typed n labels table)
      (wraps_nodeElement typed literal n labels mem)
      fun typed _ _ => .makes (o := .nodeElement _) typed trivial
  | relationshipElement r type table way =>
    exact .first persists (yields_relationshipElement typed r type table way)
      (wraps_relationshipElement typed literal r type way mem)
      fun typed _ _ => .makes (o := .relationshipElement _) typed False.elim
  | pattern n labels table => exact wraps_pattern typed literal n labels mem
  | related receiver r type table way =>
    exact wraps_related typed literal receiver r type way mem
  | close receiver n labels table => exact wraps_close typed literal receiver n labels mem
  | comparison operator left right => exact wraps_comparison typed literal operator mem
  | check operator w =>
    obtain rfl := List.mem_singleton.mp mem
    exact wraps_postCheck typed literal operator
  | junction operator vs => exact wraps_junction typed literal operator mem
  | negation w =>
    obtain rfl := List.mem_singleton.mp mem
    exact wraps_negation typed literal
  | call name vs =>
    obtain ⟨word, -, rfl⟩ := exported.isExported
    exact wraps_call typed literal mem
  | build h b => exact ensures_buildOn persists typed h (wraps_build typed literal mem)
  | _ => cases mem

end Wrapping

/-- After a call that succeeds a literal is in a parameter just in case it was in one before, or the
call was given it in a place for literals. -/
theorem Construction.Exported.hasParam_iff {s : Store} (assembled : s.Assembled) {c : Construction}
    (exported : c.Exported s) {v : Value} (literal : s.IsLiteral v) {w : Value}
    (answer : (outcome c.perform.run s).1 = .ok w) :
    (outcome c.perform.run s).2.HasParam v ↔ s.HasParam v ∨ v ∈ c.literals s := by
  have any := yields_perform assembled.typed exported.isExported False.elim
  constructor
  · intro has
    by_contra neither
    push Not at neither
    exact Store.not_hasParam_perform assembled.sound exported neither.2 neither.1 has
  · rintro (before | mem)
    · exact Store.persists_hasParam v any.grows before
    · exact (wraps_perform assembled.typed literal exported mem).result w answer

end GraphQuery
