import GraphQuery.Proofs.Assembly.Frame
import GraphQuery.Proofs.Assembly.Proper
import GraphQuery.Proofs.Store.Typing

/-!
Calls keep the store typed.

Whatever a call takes over it has checked before, so whether or not it succeeds, the objects that it
adds or changes have parts that can stand in their places.

* `Leaves`: the judgement on steps that cannot fail, `Yields` on those that can.
* `Construction.Documented`: a call that is strict where the library does not check.
* `yields_perform`: no call of the library takes the types away.
* `Store.Assembled.typed`, `Store.Conforming.typed`: what the library has assembled is typed, and
  strictly so if all its callers have been strict.
-/

namespace GraphQuery

open Assembly

/-! ### Steps that keep the store typed -/

section Judgements

variable {α β : Type}

/-- A step leaves a typed store that has grown, and a result that is as it should be. -/
structure Leaves (strict : Prop) (Q : Store → α → Prop) (s : Store) (m : StateM Store α) :
    Prop where
  typed : (outcome m s).2.Typed strict
  grows : s.Grows (outcome m s).2
  result : Q (outcome m s).2 (outcome m s).1

/-- A step that can fail leaves a typed store, and a result that is as it should be if there is
one. -/
def Yields (strict : Prop) (Q : Store → α → Prop) (s : Store) (m : Assembly α) : Prop :=
  Leaves strict (fun t r => ∀ a, r = .ok a → Q t a) s m.run

/-- Nothing is asked of a result. -/
def Anything (_ : Store) (_ : α) : Prop := True

/-- What is found in a store goes on to be so when the store grows. -/
def Lasting (Q : Store → α → Prop) : Prop := ∀ ⦃s t a⦄, s.Grows t → Q s a → Q t a

variable {strict : Prop} {P : Store → α → Prop} {Q : Store → β → Prop} {s : Store}

theorem lasting_anything : Lasting (Anything (α := α)) := fun _ _ _ _ h => h

namespace Leaves

theorem pure (typed : s.Typed strict) {a : α} (result : P s a) :
    Leaves strict P s (Pure.pure a) :=
  ⟨typed, .refl s, result⟩

theorem bind {m : StateM Store α} {f : α → StateM Store β} (first : Leaves strict P s m)
    (next : ∀ {t a}, t.Typed strict → s.Grows t → P t a → Leaves strict Q t (f a)) :
    Leaves strict Q s (m >>= f) := by
  have second := next first.typed first.grows first.result
  exact ⟨second.typed, first.grows.trans second.grows, second.result⟩

end Leaves

namespace Yields

theorem ok (typed : s.Typed strict) {a : α} (result : P s a) : Yields strict P s (pure a) :=
  Leaves.pure typed (by rintro _ ⟨⟩; exact result)

theorem throw (typed : s.Typed strict) (f : Fault) :
    Yields strict P s (MonadExcept.throw f) :=
  Leaves.pure typed (by rintro _ ⟨⟩)

theorem refuse (typed : s.Typed strict) (cause : Refusal) :
    Yields strict P s (Assembly.refuse cause) :=
  throw typed _

theorem bind {m : Assembly α} {f : α → Assembly β} (first : Yields strict P s m)
    (next : ∀ {t a}, t.Typed strict → s.Grows t → P t a → Yields strict Q t (f a)) :
    Yields strict Q s (m >>= f) := by
  change Leaves strict _ s (m.run >>= ExceptT.bindCont f)
  refine Leaves.bind first ?_
  intro t r typed grows result
  cases r with
  | ok a => exact next typed grows (result a rfl)
  | error f => exact Leaves.pure typed (by rintro _ ⟨⟩)

theorem imp {P' : Store → α → Prop} {m : Assembly α} (h : Yields strict P s m)
    (weaker : ∀ {t a}, s.Grows t → P t a → P' t a) : Yields strict P' s m :=
  ⟨h.typed, h.grows, fun a eq => weaker h.grows (h.result a eq)⟩

/-- Steps that come to the same. -/
theorem congr {m n : Assembly α} (eq : outcome m.run s = outcome n.run s)
    (h : Yields strict P s n) : Yields strict P s m := by
  obtain ⟨typed, grows, result⟩ := h
  rw [← eq] at typed grows result
  exact ⟨typed, grows, result⟩

/-- What would come after a failure is not looked at. -/
theorem stopped (typed : s.Typed strict) (f : Fault) (next : α → Assembly β) :
    Yields strict Q s (MonadExcept.throw f >>= next) :=
  Leaves.pure typed (by rintro _ ⟨⟩)

/-- A step after one that only reads. -/
theorem reading {m : Assembly α} {f : α → Assembly β} (reads : Reads m) (typed : s.Typed strict)
    (next : ∀ a, (outcome m.run s).1 = .ok a → Yields strict Q s (f a)) :
    Yields strict Q s (m >>= f) := by
  have store := reads s
  have first : Yields strict (fun t a => t = s ∧ (outcome m.run s).1 = .ok a) s m := by
    refine ⟨?_, ?_, fun a eq => ⟨store, eq⟩⟩
    · rw [store]
      exact typed
    · rw [store]
      exact .refl s
  refine first.bind ?_
  rintro t a - - ⟨rfl, eq⟩
  exact next a eq

theorem add (typed : s.Typed strict) {o : Nat → Object} (object : (o s.next).Typed strict s) :
    Yields strict (fun t h => t.get? h = some (o h)) s (add o) := by
  refine ⟨typed.push object, .push s _, ?_⟩
  rintro _ ⟨⟩
  exact s.get?_push_next _

theorem made (typed : s.Typed strict) {o : Object} (object : o.Typed strict s) :
    Yields strict (fun t v => t.object? v = some o) s (made o) :=
  (add typed (o := fun _ => o) object).bind fun typed _ found => ok typed found

/-- An object is made, and no more is asked for. -/
theorem makes (typed : s.Typed strict) {o : Object} (object : o.Typed strict s) :
    Yields strict Anything s (Assembly.made o) :=
  (made typed object).imp fun _ _ => trivial

/-- An object is changed by a builder. -/
theorem replace (typed : s.Typed strict) {h : Nat} {o o' : Object} (found : s.get? h = some o)
    (becomes : o.Becomes o') (object : o'.Typed strict s) :
    Yields strict Anything s (modify fun s => s.replace h o') :=
  ⟨typed.replace found becomes object, .replace found becomes, fun _ _ => trivial⟩

/-- Steps on the items of a list, one after another. -/
theorem mapM {A : Store → α → Prop} (lastingItems : Lasting A) (lasting : Lasting Q)
    {f : α → Assembly β}
    (step : ∀ {t a}, t.Typed strict → A t a → Yields strict Q t (f a)) {as : List α}
    (typed : s.Typed strict) (items : ∀ a ∈ as, A s a) :
    Yields strict (fun t bs => bs.length = as.length ∧ ∀ b ∈ bs, Q t b) s (as.mapM f) := by
  induction as generalizing s with
  | nil => exact ok typed ⟨rfl, fun _ mem => absurd mem List.not_mem_nil⟩
  | cons a as ih =>
    obtain ⟨item, items⟩ := List.forall_mem_cons.mp items
    rw [List.mapM_cons]
    refine (step typed item).bind fun typed grows first => ?_
    refine (ih typed fun a mem => lastingItems grows (items a mem)).bind ?_
    rintro t bs typed grows ⟨length, others⟩
    exact ok typed ⟨congrArg Nat.succ length,
      List.forall_mem_cons.mpr ⟨lasting grows first, others⟩⟩

/-- The same where nothing is asked of the items. -/
theorem each (lasting : Lasting Q) {f : α → Assembly β}
    (step : ∀ {t} a, t.Typed strict → Yields strict Q t (f a)) (as : List α)
    (typed : s.Typed strict) :
    Yields strict (fun t bs => bs.length = as.length ∧ ∀ b ∈ bs, Q t b) s (as.mapM f) :=
  mapM lasting_anything lasting (fun typed _ => step _ typed) typed fun _ _ => trivial

end Yields

/-- Steps on values as far as they pass. -/
theorem Leaves.whilePassingOf {A : Store → Value → Prop} (lastingItems : Lasting A)
    (lasting : Lasting Q) {f : Value → Assembly β}
    (step : ∀ {t v}, t.Typed strict → A t v → Yields strict Q t (f v)) {vs : List Value}
    (typed : s.Typed strict) (items : ∀ v ∈ vs, A s v) :
    Leaves strict (fun t r => ∀ b ∈ r.1, Q t b) s (whilePassing f vs) := by
  induction vs generalizing s with
  | nil => exact .pure typed fun _ mem => absurd mem List.not_mem_nil
  | cons v vs ih =>
    obtain ⟨item, items⟩ := List.forall_mem_cons.mp items
    unfold Assembly.whilePassing
    refine Leaves.bind (step typed item) ?_
    intro t r typed grows first
    cases r with
    | error f => exact .pure typed fun _ mem => absurd mem List.not_mem_nil
    | ok b =>
      refine (ih typed fun v mem => lastingItems grows (items v mem)).bind ?_
      rintro t ⟨others, fault?⟩ typed grows result
      exact .pure typed (List.forall_mem_cons.mpr ⟨lasting grows (first b rfl), result⟩)

/-- The same where nothing is asked of the values. -/
theorem Leaves.whilePassing (lasting : Lasting Q) {f : Value → Assembly β}
    (step : ∀ {t} v, t.Typed strict → Yields strict Q t (f v)) (vs : List Value)
    (typed : s.Typed strict) :
    Leaves strict (fun t r => ∀ b ∈ r.1, Q t b) s (whilePassing f vs) :=
  whilePassingOf lasting_anything lasting (fun typed _ => step _ typed) typed fun _ _ => trivial

end Judgements

variable {strict : Prop} {s : Store}

/-! ### Looking at objects -/

section Looking

variable {α : Type} {Q : Store → α → Prop}

theorem outcome_object? (v : Value) (f : Option Object → Assembly α) :
    outcome (Assembly.object? v >>= f).run s = outcome (f (s.object? v)).run s :=
  rfl

theorem Yields.object? {v : Value} {f : Option Object → Assembly α}
    (next : Yields strict Q s (f (s.object? v))) : Yields strict Q s (Assembly.object? v >>= f) :=
  .congr (outcome_object? v f) next

theorem Yields.get {f : Store → Assembly α} (next : Yields strict Q s (f s)) :
    Yields strict Q s (MonadState.get >>= f) := by
  refine .congr ?_ next
  rfl

theorem outcome_reference? (v : Value) :
    (outcome (Assembly.reference? v).run s).1 = .ok (s.reference? v) := by
  unfold Assembly.reference? Store.reference?
  rw [outcome_object?]
  cases s.object? v with
  | none => rfl
  | some o => cases o <;> rfl

theorem outcome_param? (v : Value) :
    (outcome (Assembly.param? v).run s).1 = .ok (s.param? v) := by
  unfold Assembly.param? Store.param?
  rw [outcome_object?]
  cases s.object? v with
  | none => rfl
  | some o => cases o <;> rfl

theorem Yields.reference? {v : Value} {f : Option Reference → Assembly α}
    (typed : s.Typed strict)
    (next : ∀ r?, (∀ r, r? = some r → s.object? v = some (.reference r)) →
      Yields strict Q s (f r?)) :
    Yields strict Q s (Assembly.reference? v >>= f) := by
  refine .reading (reads_reference? v) typed fun r? eq => next r? ?_
  rintro r rfl
  rw [outcome_reference?] at eq
  exact Store.object?_of_reference? (Except.ok.inj eq)

theorem Yields.isExpression {v : Value} {f : Bool → Assembly α} (typed : s.Typed strict)
    (standing : s.Stands v → Yields strict Q s (f true)) (other : Yields strict Q s (f false)) :
    Yields strict Q s (Assembly.isExpression v >>= f) := by
  obtain ⟨b, eq, stands⟩ := outcome_isExpression typed.unassigned v
  refine .reading (reads_isExpression v) typed fun b' eq' => ?_
  rw [eq] at eq'
  cases eq'
  cases b with
  | true => exact standing (stands.mp rfl)
  | false => exact other

/-- A refusal that says something about a value. -/
theorem Yields.refuseQuoted (typed : s.Typed strict) (v : Value) (cause : String → Refusal) :
    Yields strict Q s (do Assembly.refuse (cause (← quoted v))) :=
  .reading (reads_quoted v) typed fun _ _ => .refuse typed _

theorem Yields.refuseTyped (typed : s.Typed strict) (v : Value) (cause : String → Refusal) :
    Yields strict Q s (do Assembly.refuse (cause (← typeName v))) :=
  .reading (reads_typeName v) typed fun _ _ => .refuse typed _

/-- What a check lets pass is as it says. -/
theorem outcome_check {c : ObjectView → Except Fault α} {a : α}
    (ok : (outcome (check c).run s).1 = .ok a) : c s.view = .ok a := by
  change (outcome (settle (c s.view)).run s).1 = _ at ok
  cases checked : c s.view with
  | ok b =>
    rw [checked] at ok
    exact ok
  | error f =>
    rw [checked] at ok
    cases ok

/-- A suggested stem is an identifier. -/
theorem isIdentifier_of_checkStem {view : ObjectView} {role : String} {v : Value}
    {stem : Option Name} (ok : checkStem view role v = .ok stem) :
    ∀ n, stem = some n → Text.isIdentifier n.word = true := by
  rintro n rfl
  unfold checkStem at ok
  split at ok
  · cases ok
  · rename_i v _
    unfold checkIdentifier at ok
    split at ok
    · rename_i found
      cases ok
      exact (Option.filter_eq_some_iff.mp found).2
    · cases quoted : v.quoted view <;> rw [quoted] at ok <;> cases ok

end Looking

section Calls

variable (typed : s.Typed strict)
include typed

/-! ### Collections -/

theorem yields_fieldPairs (fields : List (String × Value)) :
    Yields strict Anything s (fieldPairs fields) := by
  refine Yields.imp (Yields.each lasting_anything (fun _ typed => ?_) fields typed)
    fun _ _ => trivial
  exact .makes (o := .tuple _) typed trivial

theorem yields_items (v : Value) : Yields strict Anything s (items v) := by
  refine Yields.object? ?_
  split
  · exact (Yields.makes (o := .dict _) typed trivial).bind fun typed _ _ =>
      yields_fieldPairs typed _
  · exact yields_fieldPairs typed _
  · refine .reading reads_view typed fun _ _ => ?_
    split
    · exact .ok typed trivial
    · exact .throw typed _

theorem yields_labels (role : String) (v : Value) : Yields strict Anything s (labels role v) := by
  unfold labels
  split
  · exact .reading (reads_check _) typed fun _ _ => .ok typed trivial
  · refine (yields_items typed v).bind fun typed _ _ => ?_
    refine (Yields.each (Q := Anything) lasting_anything (fun a typed => ?_) _ typed).imp
      fun _ _ => trivial
    exact ⟨by rw [reads_check]; exact typed, by rw [reads_check]; exact .refl _,
      fun _ _ => trivial⟩

/-! ### References, parameters and accesses -/

theorem yields_reference (is : RefClass) (stem : Value) :
    Yields strict Anything s (reference is stem) := by
  refine .reading (reads_check _) typed fun _ ok => ?_
  have identifier := isIdentifier_of_checkStem (outcome_check ok)
  exact (Yields.add typed (o := fun h => .reference ⟨h, _, is⟩) identifier).bind
    fun typed _ _ => .ok typed trivial

theorem yields_node (stem : Value) (labels? : Option Value) :
    Yields strict Anything s (node stem labels?) := by
  refine .reading (reads_check _) typed fun _ ok => ?_
  have identifier := isIdentifier_of_checkStem (outcome_check ok)
  have labelled : Yields strict Anything s (labels?.elim (pure []) (labels labelRole)) := by
    cases labels? with
    | none => exact .ok typed trivial
    | some v => exact yields_labels typed _ v
  refine labelled.bind fun {_ labels} typed _ _ => ?_
  exact (Yields.add typed (o := fun h => .reference ⟨h, _, .node labels⟩) identifier).bind
    fun typed _ _ => .ok typed trivial

theorem yields_relationship (stem type : Value) :
    Yields strict Anything s (relationship stem type) := by
  refine .reading (reads_check _) typed fun _ ok => ?_
  have identifier := isIdentifier_of_checkStem (outcome_check ok)
  refine .reading (reads_check _) typed fun type _ => ?_
  exact (Yields.add typed (o := fun h => .reference ⟨h, _, .relationship type⟩) identifier).bind
    fun typed _ _ => .ok typed trivial

theorem yields_param (v stem : Value) : Yields strict Anything s (param v stem) := by
  refine .reading (reads_check _) typed fun _ ok => ?_
  have identifier := isIdentifier_of_checkStem (outcome_check ok)
  exact (Yields.add typed (o := fun h => .param ⟨h, v, _⟩) identifier).bind
    fun typed _ _ => .ok typed trivial

/-- A literal in a parameter can be written. -/
theorem yields_wrap (v : Value) :
    Yields strict (fun t p => t.Stands (.object p.id)) s (wrap v) := by
  refine (Yields.add typed (o := fun h => .param ⟨h, v, none⟩) (by rintro _ ⟨⟩)).bind ?_
  exact fun typed _ found => .ok typed ⟨_, found, rfl⟩

theorem yields_pathStep (v : Value) : Yields strict Anything s (pathStep v) := by
  unfold pathStep
  split
  · exact .ok typed trivial
  · exact .refuseQuoted typed v _

/-- An access to a property has the base that it was given. -/
theorem yields_property {base : Value} (refers : strict → s.Refers base) (path : List Value) :
    Yields strict (fun t v => ∃ names,
      t.object? v = some (.expression (.property base (.made names)))) s (property base path) := by
  have accesses : Yields strict (fun t v => ∃ names,
      t.object? v = some (.expression (.property base (.made names)))) s (do
        let path ← path.mapM pathStep
        made (.expression (.property base (.made path)))) := by
    have steps := Yields.each lasting_anything (fun v typed => yields_pathStep typed v) path typed
    refine steps.bind ?_
    intro t path typed grows _
    have object : (Object.expression (.property base (.made path))).Typed strict t :=
      Expression.Typed.property fun asked => (refers asked).mono grows
    exact (Yields.made typed object).imp fun _ found => ⟨path, found⟩
  unfold property
  split
  · exact .stopped typed _ _
  · exact accesses

theorem yields_propertyOf (receiver : Value) (path : List Value) :
    Yields strict Anything s (propertyOf receiver path) := by
  refine Yields.object? ?_
  split
  · rename_i base first found
    cases receiver with
    | atom a mark => cases found
    | object h =>
      cases typed.objects found with
      | property refers => exact (yields_property typed refers _).imp fun _ _ => trivial
  · rename_i base v found
    cases receiver with
    | atom a mark => cases found
    | object h => cases typed.objects found
  · rename_i r found
    exact (yields_property typed (fun _ => ⟨r, found⟩) path).imp fun _ _ => trivial
  · exact .throw typed _

/-! ### Patterns -/

theorem yields_propertyEntry (entry : Value × Value) :
    Yields strict Anything s (propertyEntry entry) := by
  unfold propertyEntry
  split
  · refine Yields.bind (P := Anything) ?_ fun typed _ _ => .ok typed trivial
    refine .reading (reads_param? _) typed fun p? _ => ?_
    split
    · exact .ok typed trivial
    · refine Yields.isExpression typed (fun _ => ?_) ?_
      · refine .reading (reads_quoted _) typed fun _ _ => ?_
        exact .reading (reads_typeName _) typed fun _ _ => .stopped typed _ _
      · exact (yields_wrap typed _).imp fun _ _ => trivial
  · exact .refuseQuoted typed _ _

theorem yields_properties (v : Value) : Yields strict Anything s (properties v) := by
  refine .reading reads_view typed fun view _ => ?_
  split
  · exact .ok typed trivial
  · exact (Yields.each lasting_anything (fun entry typed => yields_propertyEntry typed entry) _
      typed).imp fun _ _ => trivial
  · exact .refuseTyped typed _ _

/-- An element holds what it was made of. -/
theorem yields_nodeElement (v labels table : Value) :
    Yields strict (fun _ n => ∃ r names ps, n = ⟨.made r, .made names, .made ps⟩) s
      (nodeElement v labels table) := by
  refine Yields.reference? typed fun r? _ => ?_
  split
  · rename_i id stem own _
    have others : ∀ {t : Store} (labels : List Name), t.Typed strict →
        Yields strict (fun _ n => ∃ r names ps, n = ⟨.made r, .made names, .made ps⟩) t (do
          let table ← properties table
          return (⟨.made ⟨id, stem, .node own⟩, .made labels, .made table⟩ : NodeElement)) :=
      fun _ typed => (yields_properties typed table).bind fun typed _ _ =>
        .ok typed ⟨_, _, _, rfl⟩
    dsimp only
    split
    · exact others _ typed
    · exact (yields_labels typed _ _).bind fun typed _ _ => others _ typed
  · exact .refuseTyped typed _ _

theorem yields_direction (v : Value) : Yields strict Anything s (direction v) := by
  unfold direction
  split
  · exact .ok typed trivial
  · exact .refuseQuoted typed _ _

/-- A relationship in a pattern has the type that is given, or else its own. -/
theorem yields_relationshipElement (v type table way : Value) :
    Yields strict (fun _ r => ∃ is own ps d, r = ⟨.made is, typeIn own type, .made ps, .made d⟩) s
      (relationshipElement v type table way) := by
  refine Yields.reference? typed fun r? _ => ?_
  split
  · rename_i id stem own _
    refine (yields_properties typed table).bind fun typed _ _ => ?_
    exact (yields_direction typed way).bind fun typed _ _ => .ok typed ⟨_, own, _, _, rfl⟩
  · exact .refuseTyped typed _ _

omit typed in
/-- If the type that is given is a name or nothing, so is the type of the relationship. -/
theorem typeIn_named (own : Option Name) {type : Value}
    (named : type.isNull = true ∨ ∃ n, type.name? = some n) :
    (typeIn own type).isNull = true ∨ ∃ n, (typeIn own type).name? = some n := by
  rcases named with null | ⟨n, name⟩
  · have absent : type.given? = none := if_pos null
    cases own with
    | none => exact .inl (by rw [typeIn, absent]; rfl)
    | some n => exact .inr ⟨n, by rw [typeIn, absent]; cases n <;> rfl⟩
  · have given : type.given? = some type := Value.given?_of_name? name
    exact .inr ⟨n, by rw [typeIn, given]; exact name⟩

/-- The pattern of a single node has it as its only element. -/
theorem yields_pattern (v labels table : Value) :
    Yields strict (fun t w => ∃ r names ps,
      t.object? w = some (.pattern (.single ⟨.made r, .made names, .made ps⟩))) s
      (pattern v labels table) := by
  refine (yields_nodeElement typed v labels table).bind ?_
  rintro t _ typed - ⟨r, names, ps, rfl⟩
  have single : Object.Typed strict t (.pattern (.single ⟨.made r, .made names, .made ps⟩)) := by
    rintro _ ⟨⟩ e mem
    rw [List.mem_singleton.mp mem]
    trivial
  exact (Yields.made typed single).imp fun _ found => ⟨r, names, ps, found⟩

theorem yields_asPattern (v : Value) :
    Yields strict (fun t w => ∃ p, t.object? w = some (.pattern p)) s (asPattern v) := by
  refine Yields.object? ?_
  split
  · rename_i p found
    exact .ok typed ⟨p, found⟩
  · exact (yields_pattern typed _ _ _).imp fun _ ⟨_, _, _, found⟩ => ⟨_, found⟩
  · exact .refuse typed _
  · exact .refuseTyped typed _ _

/-- A relationship is added to the pattern that is there. -/
theorem yields_related (receiver v : Value) {type : Value}
    (named : strict → type.isNull = true ∨ ∃ n, type.name? = some n) (table way : Value) :
    Yields strict (fun t w => ∃ p is own ps d, s.object? receiver = some (.pattern p) ∧
      t.object? w = some (.chain (p.related ⟨.made is, typeIn own type, .made ps, .made d⟩))) s
      (related receiver v type table way) := by
  refine Yields.object? ?_
  split
  · rename_i p found
    have elements : p.elements.ElementsTyped strict := by
      cases receiver with
      | atom a mark => cases found
      | object h => exact typed.objects found
    have chained : ∀ {t : Store} (v : Value), t.Typed strict →
        Yields strict (fun u w => ∃ q is own ps d, s.object? receiver = some (.pattern q) ∧
          u.object? w = some (.chain (q.related ⟨.made is, typeIn own type, .made ps, .made d⟩))) t
          (do made (.chain (p.related (← relationshipElement v type table way)))) := by
      intro t v typed
      refine (yields_relationshipElement typed v type table way).bind ?_
      rintro t _ typed - ⟨is, own, ps, d, rfl⟩
      refine (Yields.made typed (o := .chain (p.related _)) ⟨elements, ?_⟩).imp ?_
      · exact fun asked => typeIn_named own (named asked)
      · exact fun _ made => ⟨p, is, own, ps, d, found, made⟩
    dsimp only
    split
    · exact (yields_reference typed _ _).bind fun typed _ _ => chained _ typed
    · exact chained _ typed
  · exact .throw typed _

/-- A node is added to the open chain that is there. -/
theorem yields_close (receiver v labels table : Value) :
    Yields strict (fun t w => ∃ c view r names ps p, s.object? receiver = some (.chain c) ∧
      c.close? view ⟨.made r, .made names, .made ps⟩ = some p ∧
      t.object? w = some (.pattern p)) s (close receiver v labels table) := by
  refine Yields.object? ?_
  split
  · rename_i c found
    have chain : c.elements.ElementsTyped strict ∧ c.pending.Typed strict := by
      cases receiver with
      | atom a mark => cases found
      | object h => exact typed.objects found
    refine .reading reads_view typed fun view _ => ?_
    split
    · exact .stopped typed _ _
    · refine (yields_nodeElement typed v labels table).bind ?_
      rintro t _ typed - ⟨r, names, ps, rfl⟩
      refine .reading reads_view typed fun view _ => ?_
      split
      · rename_i p closed
        refine (Yields.made typed ?_).imp fun _ made =>
          ⟨c, view, r, names, ps, p, found, closed, made⟩
        rintro es eq e mem
        obtain ⟨before, listed, rfl⟩ := Option.map_eq_some_iff.mp closed
        cases eq
        rcases List.mem_append.mp mem with mem | mem
        · cases elements : c.elements with
          | made es =>
            rw [elements] at listed
            cases listed
            exact chain.1 before elements e mem
          | assigned v =>
            rw [elements] at listed
            obtain ⟨items, -, rfl⟩ := Option.map_eq_some_iff.mp listed
            obtain ⟨i, -, rfl⟩ := List.mem_map.mp mem
            trivial
        · rcases List.mem_cons.mp mem with rfl | mem
          · exact chain.2
          · rw [List.mem_singleton.mp mem]
            trivial
      · exact .throw typed _
  · exact .throw typed _

/-! ### Expressions -/

/-- An operand can be written: it is an expression, or a literal in a parameter. -/
theorem yields_expression (v : Value) :
    Yields strict (fun t v => t.Stands v) s (expression v) := by
  refine Yields.isExpression typed (fun stands => ?_) ?_
  · exact .ok typed stands
  · exact (yields_wrap typed v).bind fun typed _ stands => .ok typed stands

/-- Expressions can be written. -/
theorem Yields.madeExpression {e : Expression} (object : e.Typed strict s) :
    Yields strict (fun t v => t.Stands v) s (Assembly.made (.expression e)) :=
  (made typed (o := .expression e) object).imp fun _ found => ⟨_, found, rfl⟩

theorem yields_comparison (operator : String) (left right : Value) :
    Yields strict Anything s (comparison operator left right) := by
  refine (yields_expression typed left).bind fun typed _ left => ?_
  refine (yields_expression typed right).bind fun typed grows right => ?_
  exact .makes typed (Expression.Typed.comparison (left.mono grows) right)

theorem yields_postCheck (operator : String) (operand : Value) :
    Yields strict Anything s (postCheck operator operand) := by
  refine (yields_expression typed operand).bind fun typed _ operand => ?_
  exact .makes typed (Expression.Typed.check operand)

theorem yields_negation (operand : Value) : Yields strict Anything s (negation operand) := by
  refine (yields_expression typed operand).bind fun typed _ operand => ?_
  exact .makes typed (Expression.Typed.negation operand)

/-- All operands can be written. -/
theorem yields_operands (vs : List Value) :
    Yields strict (fun t ws => ws.length = vs.length ∧ ∀ w ∈ ws, t.Stands w) s
      (vs.mapM expression) :=
  .each (fun _ _ _ grows h => h.mono grows) (fun v typed => yields_expression typed v) vs typed

theorem yields_call {name : String} (arguments : List Value) :
    Yields strict Anything s (call (.text name) arguments) := by
  refine (yields_operands typed arguments).bind fun typed _ operands => ?_
  exact .makes typed (Expression.Typed.call operands.2)

omit typed in
/-- As many operands as there are values are several if there is a value and not only one operand.
-/
theorem two_le_length {vs ws : List Value} (given : ¬ vs.isEmpty = true)
    (length : ws.length = vs.length) (several : ∀ w, ws = [w] → False) : 2 ≤ ws.length := by
  match ws, length, several with
  | [], length, _ =>
    rw [List.length_nil, eq_comm, List.length_eq_zero_iff] at length
    exact absurd (List.isEmpty_iff.mpr length) given
  | [w], _, several => exact absurd rfl (several w)
  | _ :: _ :: _, _, _ => exact Nat.le_add_left 2 _

/-- A boolean combination has several operands: a single one is its own combination. -/
theorem yields_junction (operator : String) (operands : List Value) :
    Yields strict (fun t v => t.Stands v) s (junction operator operands) := by
  unfold junction
  split
  · exact .stopped typed _ _
  · rename_i given
    refine (yields_operands typed operands).bind ?_
    rintro t vs typed - ⟨length, stand⟩
    split
    · exact .ok typed (stand _ List.mem_cons_self)
    · rename_i several
      exact .madeExpression typed (.junction (two_le_length given length several) stand)

/-! ### Columns and sort items -/

theorem yields_columnName (v : Value) :
    Yields strict (fun t w => t.IsAlias w) s (columnName v) := by
  refine Yields.reference? typed fun r? found => ?_
  split
  · exact .ok typed (.inl ⟨_, _, found _ rfl⟩)
  · refine .reading (reads_check _) typed fun n ok => .ok typed (.inr ⟨n, ?_⟩)
    have checked := outcome_check ok
    unfold checkIdentifier at checked
    split at checked
    · rename_i found
      cases checked
      exact Option.filter_eq_some_iff.mp found
    · cases quoted : v.quoted s.view <;> rw [quoted] at checked <;> cases checked

theorem yields_projected (v : Value) :
    Yields strict (fun t w => t.Stands w) s (projected v) := by
  refine Yields.isExpression typed (fun stands => ?_) ?_
  · exact .ok typed stands
  · exact .refuseQuoted typed v _

theorem yields_column (v : Value) : Yields strict (fun t c => c.Typed t) s (column v) := by
  unfold column
  split
  · exact .ok typed .star
  · refine Yields.object? ?_
    split
    · refine (yields_projected typed _).bind fun typed _ e => ?_
      refine (yields_columnName typed _).bind fun typed grows name => ?_
      exact .ok typed (.named (e.mono grows) name)
    · exact .refuse typed _
    · exact (yields_projected typed _).bind fun typed _ e => .ok typed (.bare e)

/-- The columns of a projection are columns. -/
theorem yields_someColumns (kind : ProjectionKind) (vs : List Value) :
    Yields strict (fun t cs => ∀ c ∈ cs, c.Typed t) s (someColumns kind vs) := by
  have columns : Yields strict (fun t cs => ∀ c ∈ cs, c.Typed t) s (columns vs) := by
    refine (Yields.each (fun _ _ _ grows h => h.mono grows) (fun v typed => yields_column typed v)
      vs typed).bind ?_
    rintro t cs typed - ⟨-, each⟩
    split
    · exact .stopped typed _ _
    · exact .ok typed each
  unfold someColumns
  split
  · exact .stopped typed _ _
  · exact columns

theorem yields_sortOrder (v : Value) : Yields strict Anything s (sortOrder v) := by
  refine .reading (reads_plain v) typed fun order _ => ?_
  dsimp only
  split
  · exact .ok typed trivial
  · exact .refuseQuoted typed v _

theorem yields_sortItemOf (e : Value) (order : String) :
    Yields strict (fun t i => t.Stands i.expression) s (sortItemOf e order) := by
  refine Yields.isExpression typed (fun stands => ?_) ?_
  · exact .ok typed stands
  · exact .refuseQuoted typed e _

theorem yields_sortItem (v : Value) :
    Yields strict (fun t i => t.Stands i.expression) s (sortItem v) := by
  refine Yields.object? ?_
  dsimp only
  split
  · refine (yields_sortOrder typed _).bind fun typed _ _ => ?_
    exact yields_sortItemOf typed _ _
  · exact .stopped typed _ _
  · exact yields_sortItemOf typed _ _

theorem yields_rowCount (role : String) (v : Value) :
    Yields strict Anything s (rowCount role v) := by
  refine .reading (reads_param? v) typed fun p? _ => ?_
  split
  · exact .ok typed trivial
  · exact (yields_wrap typed _).imp fun _ _ => trivial
  · exact .refuseQuoted typed v _

end Calls

end GraphQuery
