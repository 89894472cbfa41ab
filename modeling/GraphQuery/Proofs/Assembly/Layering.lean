import GraphQuery.Proofs.Assembly.Conformance

/-!
What calls add to a store.

A call that is none of a builder adds objects that are made of older ones, and changes nothing. A
builder does the same before it changes its object. What it adds is made of its arguments, and of
what the filter of its clause is made of.

* `Layers`: a step does no more than that.
* `Construction.receiver?`: the object that a call changes.
* `supplies_conjoined`, `supplies_disjoined`: what a filter is made of.
* `layers_perform`: what calls add that change nothing.
-/

namespace GraphQuery

open Assembly

/-! ### Steps that add layer upon layer -/

/-- A step changes no object, and what it adds is made of older objects that are among some given
ones. -/
def Layers {α : Type} (given : Nat → Prop) (s : Store) (m : StateM Store α) : Prop :=
  s.Adds (Object.IsMadeOf given) (outcome m s).2

/-- The object that a value stands for, if any, is among some given ones. -/
def Value.IsOf (given : Nat → Prop) (v : Value) : Prop := ∀ g, v = .object g → given g

variable {α β : Type} {given : Nat → Prop} {s : Store}

/-- An object is made of known objects that are among the given ones. -/
theorem Object.isMadeOf_next {o : Object} (known : ∀ v ∈ o.parts, s.Knows v)
    (isOf : ∀ v ∈ o.parts, v.IsOf given) : o.IsMadeOf given s.next :=
  fun g part => ⟨(known _ part).lt, isOf _ part g rfl⟩

namespace Layers

theorem ok (a : α) : Layers given s (Pure.pure a : Assembly α).run := .refl s

theorem throw (f : Fault) : Layers given s (MonadExcept.throw f : Assembly α).run := .refl s

/-- What would come after a failure is not looked at. -/
theorem stopped (f : Fault) (next : α → Assembly β) :
    Layers given s ((MonadExcept.throw f : Assembly α) >>= next).run := .refl s

theorem of_furnishes {m : StateM Store α} (furnishes : Furnishes m) : Layers given s m :=
  (furnishes s).imp fun _ _ bare => bare.isMadeOf given

theorem made {o : Object} (parts : o.IsMadeOf given s.next) : Layers given s (made o).run :=
  .push s parts

/-- A result is worked on further. -/
theorem map {m : StateM Store α} (first : Layers given s m) (f : α → β) :
    Layers given s (m >>= fun a => pure (f a)) := first

/-- A step after another one, which keeps the store typed. -/
theorem bind {P : Store → α → Prop} {m : Assembly α} {f : α → Assembly β}
    (first : Layers given s m.run) (yields : Yields False P s m)
    (next : ∀ {t a}, t.Typed False → s.Grows t → P t a → Layers given t (f a).run) :
    Layers given s (m >>= f).run := by
  change s.Adds _ (outcome (ExceptT.bindCont f (outcome m.run s).1) (outcome m.run s).2).2
  refine first.trans ?_
  have result := yields.result
  cases answer : (outcome m.run s).1 with
  | ok a => exact next yields.typed yields.grows (result a answer)
  | error f => exact .refl _

/-- A step after arguments have been taken. -/
theorem taking {P : Store → α → Prop} {m : Assembly α} {f : α → Assembly β}
    (furnishes : Furnishes m.run) (yields : Yields False P s m)
    (next : ∀ {t a}, t.Typed False → s.Grows t → P t a → Layers given t (f a).run) :
    Layers given s (m >>= f).run :=
  bind (of_furnishes furnishes) yields next

/-- A step after one that only reads. -/
theorem reading {m : Assembly α} {f : α → Assembly β} (reads : Reads m)
    (next : ∀ a, (outcome m.run s).1 = .ok a → Layers given s (f a).run) :
    Layers given s (m >>= f).run := by
  change s.Adds _ (outcome (ExceptT.bindCont f (outcome m.run s).1) (outcome m.run s).2).2
  rw [reads s]
  cases answer : (outcome m.run s).1 with
  | ok a => exact next a answer
  | error f => exact .refl _

theorem object? {v : Value} {f : Option Object → Assembly α}
    (next : Layers given s (f (s.object? v)).run) :
    Layers given s (Assembly.object? v >>= f).run := next

end Layers

/-! ### Operands -/

section Operands

variable (typed : s.Typed False) (new : ∀ g, s.next ≤ g → given g)
include typed new

/-- An operand can be written. It is the value itself, or new. -/
theorem yields_givenOperand {v : Value} (isOf : v.IsOf given) :
    Yields False (fun t w => t.Stands w ∧ w.IsOf given) s (expression v) := by
  refine .isExpression typed (fun stands => ?_) ?_
  · exact .ok typed ⟨stands, isOf⟩
  · have handle : Yields False (fun t p => t.Stands (.object p.id) ∧ p.id = s.next) s (wrap v) := by
      refine ⟨(yields_wrap typed v).typed, (yields_wrap typed v).grows, fun p ok => ?_⟩
      refine ⟨(yields_wrap typed v).result p ok, ?_⟩
      cases ok
      rfl
    refine handle.bind ?_
    rintro t p typed - ⟨stands, eq⟩
    refine .ok typed ⟨stands, ?_⟩
    rintro g ⟨⟩
    exact new _ (Nat.le_of_eq eq.symm)

theorem yields_givenOperands {vs : List Value} (isOf : ∀ v ∈ vs, v.IsOf given) :
    Yields False (fun t ws => ws.length = vs.length ∧ ∀ w ∈ ws, t.Stands w ∧ w.IsOf given) s
      (vs.mapM expression) := by
  let ready (t : Store) (v : Value) : Prop := v.IsOf given ∧ ∀ g, t.next ≤ g → given g
  have lasting : Lasting ready := by
    rintro t u v grows ⟨isOf, new⟩
    exact ⟨isOf, fun g le => new g (Nat.le_trans (Store.Grows.next_le grows) le)⟩
  exact Yields.mapM (A := ready) (Q := fun t w => t.Stands w ∧ w.IsOf given) lasting
    (fun _ _ _ grows h => ⟨h.1.mono grows, h.2⟩)
    (fun typed h => yields_givenOperand typed h.2 h.1) typed
    (fun v mem => ⟨isOf v mem, new⟩)

end Operands

/-! ### Filters -/

/-- What a step adds is made of given objects, and so is what it answers. -/
structure Supplies (given : Nat → Prop) (s : Store) (m : Assembly Value) : Prop where
  layers : Layers given s m.run
  yields : Yields False (fun t v => t.Stands v ∧ v.IsOf given) s m

namespace Supplies

theorem ok (typed : s.Typed False) {v : Value} (stands : s.Stands v) (isOf : v.IsOf given) :
    Supplies given s (pure v) :=
  ⟨.ok v, .ok typed ⟨stands, isOf⟩⟩

theorem object? {v : Value} {f : Option Object → Assembly Value}
    (next : Supplies given s (f (s.object? v))) :
    Supplies given s (Assembly.object? v >>= f) :=
  ⟨next.layers, .object? next.yields⟩

theorem taking {P : Store → α → Prop} {m : Assembly α} {f : α → Assembly Value}
    (furnishes : Furnishes m.run) (yields : Yields False P s m)
    (next : ∀ {t a}, t.Typed False → s.Grows t → P t a → Supplies given t (f a)) :
    Supplies given s (m >>= f) where
  layers := .taking furnishes yields fun typed grows result => (next typed grows result).layers
  yields := yields.bind fun typed grows result => (next typed grows result).yields

/-- A new expression of given objects. -/
theorem made (typed : s.Typed False) (new : given s.next) {e : Expression}
    (object : e.Typed False s) (known : ∀ v ∈ e.parts, s.Knows v)
    (isOf : ∀ v ∈ e.parts, v.IsOf given) : Supplies given s (made (.expression e)) where
  layers := .made (Object.isMadeOf_next known isOf)
  yields := by
    refine ⟨typed.push object, .push s _, ?_⟩
    rintro _ ⟨⟩
    exact ⟨⟨_, s.get?_push_next _, rfl⟩, by rintro _ ⟨⟩; exact new⟩

end Supplies

section Filters

variable (typed : s.Typed False) (new : ∀ g, s.next ≤ g → given g)
include typed new

theorem supplies_junction (operator : String) {vs : List Value} (isOf : ∀ v ∈ vs, v.IsOf given) :
    Supplies given s (junction operator vs) := by
  unfold junction
  split
  · exact ⟨.stopped _ _, .stopped typed _ _⟩
  · rename_i nonempty
    refine .taking (.mapM furnishes_expression vs) (yields_givenOperands typed new isOf) ?_
    rintro t ws typed grows ⟨length, operands⟩
    split
    · obtain ⟨stands, isOf⟩ := operands _ List.mem_cons_self
      exact .ok typed stands isOf
    · rename_i several
      refine .made typed (new _ grows.next_le)
        (.junction (two_le_length nonempty length several) fun w mem => (operands w mem).1) ?_ ?_
      · exact fun w mem => (operands w mem).1.knows
      · exact fun w mem => (operands w mem).2

variable {predicate : Value} (stands : s.Stands predicate) (isOf : predicate.IsOf given)
include stands isOf

theorem supplies_disjoined {current : Option Value}
    (before : ∀ v, current = some v → v.IsOf given) :
    Supplies given s (disjoined current predicate) := by
  cases current with
  | none => exact .ok typed stands isOf
  | some v =>
    refine supplies_junction typed new "OR" (List.forall_mem_cons.mpr ⟨before v rfl, ?_⟩)
    exact List.forall_mem_singleton.mpr isOf

/-- What is joined by `AND` is made of the predicates before, or of what they are made of. -/
theorem supplies_conjoined {current : Option Value}
    (before : ∀ v, current = some v → v.IsOf given ∧
      ∀ e, s.object? v = some (.expression e) → ∀ w ∈ e.parts, w.IsOf given) :
    Supplies given s (conjoined current predicate) := by
  cases current with
  | none => exact ⟨.ok predicate, .congr (n := pure predicate) rfl (.ok typed ⟨stands, isOf⟩)⟩
  | some v =>
    obtain ⟨beforeOf, inside⟩ := before v rfl
    have joined : ∀ w, some v = some w → Supplies given s (junction "AND" [w, predicate]) := by
      rintro _ ⟨⟩
      refine supplies_junction typed new "AND" (List.forall_mem_cons.mpr ⟨beforeOf, ?_⟩)
      exact List.forall_mem_singleton.mpr isOf
    refine .object? ?_
    dsimp only
    split
    · cases ‹some v = none›
    · rename_i operator operands found
      cases v with
      | atom a mark => cases found
      | object h =>
        cases typed.objects found with
        | @junction _ operands several stand =>
          have inside : ∀ w ∈ operands, w.IsOf given := inside _ found
          split
          · have object : Expression.Typed False s
                (.junction (.text "AND") (.made (operands ++ [predicate]))) := by
              refine .junction ?_ ?_
              · rw [List.length_append]
                exact Nat.le_add_right_of_le several
              · exact List.forall_mem_append.mpr ⟨stand, List.forall_mem_singleton.mpr stands⟩
            refine .made typed (new _ (Nat.le_refl _)) object ?_ ?_
            · exact List.forall_mem_append.mpr ⟨fun w mem => (stand w mem).knows,
                List.forall_mem_singleton.mpr stands.knows⟩
            · exact List.forall_mem_append.mpr ⟨inside, List.forall_mem_singleton.mpr isOf⟩
          · exact joined _ ‹_›
    · exact joined _ ‹_›

end Filters

/-! ### Calls that change nothing -/

section Calls

/-- A new object is made of known ones. -/
theorem Layers.made_of_known {o : Object} (known : ∀ v ∈ o.parts, s.Knows v) :
    Layers (fun _ => True) s (Assembly.made o).run :=
  .made (Object.isMadeOf_next known fun _ _ _ _ => trivial)

variable (typed : s.Typed False)
include typed

theorem layers_property {base : Value} (known : s.Knows base) (path : List Value) :
    Layers (fun _ => True) s (property base path).run := by
  have steps := Yields.each lasting_anything (fun v typed => yields_pathStep typed v) path typed
  unfold property
  split
  · exact .stopped _ _
  · refine .taking (.mapM furnishes_pathStep path) steps fun typed grows _ => ?_
    exact .made_of_known (List.forall_mem_singleton.mpr (known.mono grows))

theorem layers_propertyOf (complete : s.IsComplete) (receiver : Value) (path : List Value) :
    Layers (fun _ => True) s (propertyOf receiver path).run := by
  refine .object? ?_
  split
  · rename_i base first found
    cases receiver with
    | atom a mark => cases found
    | object h => exact layers_property typed (complete.knows found base List.mem_cons_self) _
  · rename_i base v found
    cases receiver with
    | atom a mark => cases found
    | object h => cases typed.objects found
  · rename_i r found
    exact layers_property typed (Store.knows_of_object? found) path
  · exact .throw _

omit typed in
/-- What was given as an element is known. -/
theorem Element.Alike.knows {e e' : Element} (alike : e.Alike s s e') :
    ∀ v ∈ e.parts, s.Knows v := by
  cases alike with
  | node _ | relationship _ => exact fun v mem => absurd mem List.not_mem_nil
  | given isElement _ =>
    refine List.forall_mem_singleton.mpr ?_
    rcases isElement with ⟨n, found⟩ | ⟨r, found⟩
    · exact Store.knows_of_object? found
    · exact Store.knows_of_object? found

/-- What was given for the elements of a chain is known when it is closed. -/
theorem layers_close (like : s.Alike (fun _ _ => True) s) (receiver v labels table : Value) :
    Layers (fun _ => True) s (close receiver v labels table).run := by
  refine .object? ?_
  split
  · rename_i c found
    have alike : c.Alike s s c := by
      cases receiver with
      | atom a mark => cases found
      | object h =>
        cases like.objects found found with
        | chain alike => exact alike
        | data isData _ => cases isData
    refine .reading reads_view fun view _ => ?_
    split
    · exact .stopped _ _
    · refine .taking (furnishes_nodeElement v labels table)
        (yields_nodeElement typed v labels table)
        fun {t n} _ grows _ => ?_
      refine .reading reads_view fun view ok => ?_
      split
      · rename_i p closed
        obtain rfl : t.view = view := Except.ok.inj ok
        obtain ⟨es, es', listed, -, elements⟩ := (alike.mono grows grows).elementsOf?
        rw [OpenChain.close?, listed] at closed
        cases closed
        refine .made_of_known fun w part => ?_
        obtain ⟨e, mem, part⟩ := List.mem_flatMap.mp part
        rcases List.mem_append.mp mem with mem | mem
        · obtain ⟨i, lt, rfl⟩ := List.getElem_of_mem mem
          exact (elements.get lt (elements.length_eq ▸ lt)).knows w part
        · rcases List.mem_pair.mp mem with rfl | rfl
          · exact (alike.mono grows grows).pending.knows w part
          · cases part
      · exact .throw _
  · exact .throw _

theorem layers_comparison (operator : String) (left right : Value) :
    Layers (fun _ => True) s (comparison operator left right).run := by
  refine .taking (furnishes_expression left) (yields_expression typed left) ?_
  intro t left typed _ left_stands
  refine .taking (furnishes_expression right) (yields_expression typed right) ?_
  intro u right typed grows right_stands
  exact .made_of_known (List.forall_mem_cons.mpr ⟨(left_stands.mono grows).knows,
    List.forall_mem_singleton.mpr right_stands.knows⟩)

theorem layers_postCheck (operator : String) (operand : Value) :
    Layers (fun _ => True) s (postCheck operator operand).run := by
  refine .taking (furnishes_expression operand) (yields_expression typed operand) ?_
  intro t operand typed _ stands
  exact .made_of_known (List.forall_mem_cons.mpr ⟨stands.knows,
    List.forall_mem_singleton.mpr (t.knows_atom _ _)⟩)

theorem layers_negation (operand : Value) :
    Layers (fun _ => True) s (negation operand).run := by
  refine .taking (furnishes_expression operand) (yields_expression typed operand) ?_
  exact fun _ _ stands => .made_of_known (List.forall_mem_singleton.mpr stands.knows)

theorem layers_call (name : Value) (arguments : List Value) :
    Layers (fun _ => True) s (call name arguments).run :=
  .taking (.mapM furnishes_expression arguments) (yields_operands typed arguments)
    fun _ _ operands => .made_of_known fun v mem => (operands.2 v mem).knows

/-- A clause is made of the patterns that it is given. -/
theorem layers_patterns (className : String) (vs : List Value) {head : List Nat → Head}
    (patterns_eq : ∀ hs, (head hs).patterns = hs) (noBody : ∀ hs p, head hs ≠ .project p) :
    Layers (fun _ => True) s (patterns className vs >>= fun hs =>
      made (.clause (.ofHead (head hs)))).run := by
  refine .taking (furnishes_patterns _ vs) (yields_patterns typed _ vs) fun {t hs} _ _ each => ?_
  have clause : (Clause.ofHead (head hs)).Typed t := by
    refine .ofHead ?_ fun p eq => absurd eq (noBody hs p)
    rw [patterns_eq]
    exact each
  exact .made_of_known clause.knows

theorem layers_projection (kind : ProjectionKind) (vs : List Value) (distinct : Value) :
    Layers (fun _ => True) s (projection kind vs distinct).run := by
  refine .taking (furnishes_someColumns kind vs) (yields_someColumns typed kind vs) ?_
  intro t columns _ _ each
  have body : Projection.Typed t ⟨kind, columns, distinct, .unordered⟩ :=
    ⟨each, fun _ mem => absurd mem List.not_mem_nil⟩
  exact .made_of_known (Clause.Typed.ofHead (fun _ mem => absurd mem List.not_mem_nil)
    (by rintro _ ⟨⟩; exact body)).knows

theorem layers_statement (nodes : List Value) :
    Layers (fun _ => True) s (statement nodes).run :=
  .taking (.mapM furnishes_compilable nodes) (yields_compilables typed nodes)
    fun _ _ queries => .made_of_known
      (List.forall_mem_map.mpr fun h mem => (queries.2 h mem).stands.knows)

theorem layers_union (branches : List Value) :
    Layers (fun _ => True) s (union branches).run := by
  unfold union
  dsimp only
  split
  · exact .stopped _ _
  · exact .taking (.mapM furnishes_compilable branches) (yields_compilables typed branches)
      fun _ _ queries => .made_of_known
        (List.forall_mem_map.mpr fun h mem => (queries.2 h mem).stands.knows)

end Calls

/-- The object that a call changes. -/
def Construction.receiver? : Construction → Option Nat
  | build h _ | append h _ | keepDuplicates h _ => some h
  | _ => none

/-- A call that changes nothing adds objects that are made of older ones. -/
theorem layers_perform (like : s.Alike (fun _ _ => True) s) (typed : s.Typed False)
    (complete : s.IsComplete) {c : Construction} (exported : c.Exported s)
    (fixed : c.receiver? = none) : Layers (fun _ => True) s c.perform.run := by
  obtain ⟨exported, known⟩ := exported
  cases c with
  | reference is stem => exact .of_furnishes (furnishes_reference is stem)
  | node stem labels? => exact .of_furnishes (furnishes_node stem labels?)
  | relationship stem type => exact .of_furnishes (furnishes_relationship stem type)
  | param v stem => exact .of_furnishes (furnishes_param v stem)
  | property base path =>
    exact layers_property typed (known base List.mem_cons_self).known path
  | propertyOf receiver path => exact layers_propertyOf typed complete receiver path
  | direction v =>
    unfold Construction.perform
    dsimp only
    split
    · exact .ok _
    · exact .throw _
  | nodeElement v labels table =>
    exact .of_furnishes (.andThen (furnishes_nodeElement v labels table) fun _ => .made)
  | relationshipElement v type table way =>
    exact .of_furnishes (.andThen (furnishes_relationshipElement v type table way) fun _ => .made)
  | pattern v labels table => exact .of_furnishes (furnishes_pattern v labels table)
  | related receiver v type table way =>
    exact .of_furnishes (furnishes_related receiver v type table way)
  | close receiver v labels table => exact layers_close typed like receiver v labels table
  | openChain elements pending => exact .of_furnishes .made
  | comparison operator left right => exact layers_comparison typed operator left right
  | check operator operand => exact layers_postCheck typed operator operand
  | junction operator operands =>
    exact (supplies_junction typed (fun _ _ => trivial) operator fun _ _ _ _ => trivial).layers
  | negation operand => exact layers_negation typed operand
  | call name arguments => exact layers_call typed name arguments
  | read optionalClass isOptional vs =>
    exact layers_patterns typed _ vs (fun _ => rfl) (by rintro _ _ ⟨⟩)
  | create vs => exact layers_patterns typed _ vs (fun _ => rfl) (by rintro _ _ ⟨⟩)
  | projection kind vs distinct => exact layers_projection typed kind vs distinct
  | statement nodes => exact layers_statement typed nodes
  | union branches => exact layers_union typed branches
  | build | append | keepDuplicates => cases fixed
  | _ => cases exported

end GraphQuery
