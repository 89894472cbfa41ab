import GraphQuery.Proofs.Store.Growth
import Mathlib.Data.List.Forall2

/-!
Stores that differ only in literals.

Two stores are alike when their objects are pairwise the same, except for the values of parameters,
which are related in a given way, and for collections and records, which are no part of a query.
That takes expressions with the operators and functions of the library, and chains of elements.

* `Object.Alike`: two objects of one handle are alike.
* `Store.Alike`: two stores are. A store that is like itself is sound: whatever its objects hold is
  what they ought to hold.
* `Store.Alike.push`, `Store.Alike.replace`: stores stay alike when like objects are added or put
  in the place of others.
-/

namespace GraphQuery

/-! ### Values -/

/-- What is given is the value itself. -/
theorem Value.eq_of_given? {v w : Value} (h : v.given? = some w) : v = w := by
  unfold given? at h
  split at h
  · cases h
  · exact Option.some_inj.mp h

/-! ### The words of the library -/

/-- The operators between two operands. -/
def comparisonOperators : List String :=
  ["=", "<>", ">", ">=", "<", "<=", "IN", "CONTAINS", "STARTS WITH", "ENDS WITH"]

/-- The operators behind an operand. -/
def checkOperators : List String := ["IS NULL", "IS NOT NULL"]

/-- The operators between any number of operands. -/
def junctionOperators : List String := ["AND", "OR"]

/-- The functions. -/
def functionNames : List String := ["count", "collect", "coalesce", "elementId"]

/-- The orders of a sort item. -/
def sortOrders : List String := ["ASC", "DESC"]

/-- The expression is one of those that the functions of the library make. -/
inductive Expression.Exported : Expression → Prop where
  | property {base : Value} {path : List Name} : Exported (.property base (.made path))
  | comparison {operator : String} {left right : Value} : operator ∈ comparisonOperators →
      right.isNull = false → Exported (.comparison (.text operator) left right)
  | check {operator : String} {operand : Value} : operator ∈ checkOperators →
      Exported (.comparison (.text operator) operand .null)
  | junction {operator : String} {operands : List Value} : operator ∈ junctionOperators →
      Exported (.junction (.text operator) (.made operands))
  | negation {operand : Value} : Exported (.negation operand)
  | call {name : String} {arguments : List Value} : name ∈ functionNames →
      Exported (.call (.text name) (.made arguments))

/-- The sort item has one of the two orders. -/
inductive SortItem.Exported : SortItem → Prop where
  | made {e : Value} {order : String} : order ∈ sortOrders → Exported ⟨e, .text order⟩

/-! ### Objects -/

/-- The value is an element of a chain. -/
def Store.IsElement (s : Store) (v : Value) : Prop :=
  (∃ n, s.object? v = some (.nodeElement n)) ∨ ∃ r, s.object? v = some (.relationshipElement r)

section Alike

variable (R : Value → Value → Prop) (s s' : Store)

/-- A reference that is the object of its handle in both stores. -/
structure Reference.Held (r : Reference) : Prop where
  found : s.get? r.id = some (.reference r)
  found' : s'.get? r.id = some (.reference r)

/-- Two parameters that are the objects of one handle. -/
structure Param.Alike (p p' : Param) : Prop where
  found : s.get? p.id = some (.param p)
  found' : s'.get? p.id = some (.param p')

/-- One value that decides something by its truth, which is the same in both stores. -/
structure Value.Deciding (v : Value) : Prop where
  known : s.Knows v
  known' : s'.Knows v
  truth_eq : v.truth s.view = v.truth s'.view

/-- Properties of the same names. -/
def PropertiesAlike : List (Name × Param) → List (Name × Param) → Prop :=
  List.Forall₂ fun a a' => a.1 = a'.1 ∧ Param.Alike s s' a.2 a'.2

/-- Two nodes of patterns are alike. -/
inductive NodeElement.Alike : NodeElement → NodeElement → Prop where
  | made {r : Reference} {labels : List Name} {ps ps' : List (Name × Param)} :
      Reference.Held s s' r → PropertiesAlike s s' ps ps' →
      Alike ⟨.made r, .made labels, .made ps⟩ ⟨.made r, .made labels, .made ps'⟩

/-- Two relationships of patterns are alike. -/
inductive RelationshipElement.Alike : RelationshipElement → RelationshipElement → Prop where
  | made {r : Reference} {type : Value} {ps ps' : List (Name × Param)} {d : Direction} :
      Reference.Held s s' r → Value.Deciding s s' type → PropertiesAlike s s' ps ps' →
      Alike ⟨.made r, type, .made ps, .made d⟩ ⟨.made r, type, .made ps', .made d⟩

/-- Two elements of chains are alike. -/
inductive Element.Alike : Element → Element → Prop where
  | node {n n' : NodeElement} : NodeElement.Alike s s' n n' → Alike (.node n) (.node n')
  | relationship {r r' : RelationshipElement} : RelationshipElement.Alike s s' r r' →
      Alike (.relationship r) (.relationship r')
  | given {v : Value} : s.IsElement v → s'.IsElement v → Alike (.given v) (.given v)

/-- Two open chains are alike. -/
inductive OpenChain.Alike : OpenChain → OpenChain → Prop where
  | made {es es' : List Element} {e e' : Element} : List.Forall₂ (Element.Alike s s') es es' →
      Element.Alike s s' e e' → Alike ⟨.made es, e⟩ ⟨.made es', e'⟩
  | assigned {v : Value} {items : List Value} {e e' : Element} :
      s.object? v = some (.tuple items) → s'.object? v = some (.tuple items) →
      (∀ i ∈ items, s.IsElement i ∧ s'.IsElement i) →
      Element.Alike s s' e e' → Alike ⟨.assigned v, e⟩ ⟨.assigned v, e'⟩

/-- Two orderings are alike. -/
structure Ordering.Alike (o o' : Ordering) : Prop where
  sortItems_eq : o'.sortItems = o.sortItems
  exported : ∀ i ∈ o.sortItems, i.Exported
  skip : Option.Rel (Param.Alike s s') o.skip o'.skip
  limit : Option.Rel (Param.Alike s s') o.limit o'.limit

/-- Two projections are alike. -/
structure Projection.Alike (p p' : Projection) : Prop where
  kind_eq : p'.kind = p.kind
  columns_eq : p'.columns = p.columns
  distinct_eq : p'.distinct = p.distinct
  distinct : Value.Deciding s s' p.distinct
  ordering : Ordering.Alike s s' p.ordering p'.ordering

/-- Two heads of clauses are alike. -/
inductive Head.Alike : Head → Head → Prop where
  | read {optionalClass : Bool} {isOptional : Value} {patterns : List Nat} :
      Value.Deciding s s' isOptional →
      Alike (.read optionalClass isOptional patterns) (.read optionalClass isOptional patterns)
  | create {patterns : List Nat} : Alike (.create patterns) (.create patterns)
  | project {p p' : Projection} : Projection.Alike s s' p p' → Alike (.project p) (.project p')

/-- Two clauses are alike. -/
structure Clause.Alike (c c' : Clause) : Prop where
  head : Head.Alike s s' c.head c'.head
  path_eq : c'.path = c.path
  path : ∀ r, c.path.join = some r → Reference.Held s s' r
  filter_eq : c'.filter = c.filter
  filter : ∀ v, c.filter = some v → s.Stands v
  assignments_eq : c'.assignments = c.assignments
  removals_eq : c'.removals = c.removals
  deletion_eq : c'.deletion = c.deletion
  deletion : ∀ d, c.deletion = some d → ∀ r ∈ d.references, Reference.Held s s' r
  passing : Option.Rel (Projection.Alike s s') c.passing c'.passing
  returning : Option.Rel (Projection.Alike s s') c.returning c'.returning

/-- Two objects of one handle are alike. -/
inductive Object.Alike (h : Nat) : Object → Object → Prop where
  | reference {r : Reference} : r.id = h → Alike h (.reference r) (.reference r)
  | param {v v' : Value} {stem : Option Name} : R v v' →
      Alike h (.param ⟨h, v, stem⟩) (.param ⟨h, v', stem⟩)
  | expression {e : Expression} : e.Exported → Alike h (.expression e) (.expression e)
  | nodeElement {n n' : NodeElement} : NodeElement.Alike s s' n n' →
      Alike h (.nodeElement n) (.nodeElement n')
  | relationshipElement {r r' : RelationshipElement} : RelationshipElement.Alike s s' r r' →
      Alike h (.relationshipElement r) (.relationshipElement r')
  | pattern {es es' : List Element} : List.Forall₂ (Element.Alike s s') es es' →
      Alike h (.pattern ⟨.made es⟩) (.pattern ⟨.made es'⟩)
  | chain {c c' : OpenChain} : OpenChain.Alike s s' c c' → Alike h (.chain c) (.chain c')
  | clause {c c' : Clause} : Clause.Alike s s' c c' → Alike h (.clause c) (.clause c')
  | statement {nodes : List Nat} : Alike h (.statement nodes) (.statement nodes)
  | union {branches : List Nat} {all : Value} : Value.Deciding s s' all →
      Alike h (.union branches all) (.union branches all)
  | data {o o' : Object} : o.isData = true → o'.isData = true → Alike h o o'

/-- Two stores differ only in literals and in what is no part of a query. -/
structure Store.Alike : Prop where
  next_eq : s'.next = s.next
  unassigned : s.assignments = []
  unassigned' : s'.assignments = []
  objects : ∀ ⦃h o o'⦄, s.get? h = some o → s'.get? h = some o' → Object.Alike R s s' h o o'

end Alike

/-! ### Likeness while stores grow -/

/-- What is related in one way is related in every weaker way. -/
theorem optionRel_imp {α β : Type} {P Q : α → β → Prop} (imp : ∀ a b, P a b → Q a b)
    {a? : Option α} {b? : Option β} (h : Option.Rel P a? b?) : Option.Rel Q a? b? := by
  cases h with
  | none => exact .none
  | some h => exact .some (imp _ _ h)

section Mono

variable {R : Value → Value → Prop} {s s' t t' : Store}

theorem Store.IsElement.mono {v : Value} (h : s.IsElement v) (grows : s.Grows t) :
    t.IsElement v := by
  rcases h with ⟨n, found⟩ | ⟨r, found⟩
  · exact .inl ⟨n, grows.object?_eq found⟩
  · exact .inr ⟨r, grows.object?_eq found⟩

variable (grows : s.Grows t) (grows' : s'.Grows t')
include grows grows'

theorem Reference.Held.mono {r : Reference} (h : r.Held s s') : r.Held t t' :=
  ⟨grows.get?_eq h.found, grows'.get?_eq h.found'⟩

theorem Param.Alike.mono {p p' : Param} (h : p.Alike s s' p') : p.Alike t t' p' :=
  ⟨grows.get?_eq h.found, grows'.get?_eq h.found'⟩

theorem Value.Deciding.mono {v : Value} (h : v.Deciding s s') : v.Deciding t t' where
  known := h.known.mono grows
  known' := h.known'.mono grows'
  truth_eq := by rw [h.known.truth_eq grows, h.known'.truth_eq grows', h.truth_eq]

theorem PropertiesAlike.mono {ps ps' : List (Name × Param)} (h : PropertiesAlike s s' ps ps') :
    PropertiesAlike t t' ps ps' :=
  List.Forall₂.imp (fun _ _ h => ⟨h.1, h.2.mono grows grows'⟩) h

theorem NodeElement.Alike.mono {n n' : NodeElement} (h : n.Alike s s' n') : n.Alike t t' n' := by
  cases h with
  | made held ps => exact .made (held.mono grows grows') (ps.mono grows grows')

theorem RelationshipElement.Alike.mono {r r' : RelationshipElement} (h : r.Alike s s' r') :
    r.Alike t t' r' := by
  cases h with
  | made held type ps =>
    exact .made (held.mono grows grows') (type.mono grows grows') (ps.mono grows grows')

theorem Element.Alike.mono {e e' : Element} (h : e.Alike s s' e') : e.Alike t t' e' := by
  cases h with
  | node n => exact .node (n.mono grows grows')
  | relationship r => exact .relationship (r.mono grows grows')
  | given v v' => exact .given (v.mono grows) (v'.mono grows')

theorem OpenChain.Alike.mono {c c' : OpenChain} (h : c.Alike s s' c') : c.Alike t t' c' := by
  cases h with
  | made es e =>
    exact .made (es.imp fun _ _ h => h.mono grows grows') (e.mono grows grows')
  | assigned found found' elements e =>
    refine .assigned (grows.object?_eq found) (grows'.object?_eq found') ?_ (e.mono grows grows')
    exact fun i mem => ⟨(elements i mem).1.mono grows, (elements i mem).2.mono grows'⟩

theorem Ordering.Alike.mono {o o' : Ordering} (h : o.Alike s s' o') : o.Alike t t' o' where
  sortItems_eq := h.sortItems_eq
  exported := h.exported
  skip := optionRel_imp (fun _ _ h => h.mono grows grows') h.skip
  limit := optionRel_imp (fun _ _ h => h.mono grows grows') h.limit

theorem Projection.Alike.mono {p p' : Projection} (h : p.Alike s s' p') : p.Alike t t' p' where
  kind_eq := h.kind_eq
  columns_eq := h.columns_eq
  distinct_eq := h.distinct_eq
  distinct := h.distinct.mono grows grows'
  ordering := h.ordering.mono grows grows'

theorem Head.Alike.mono {k k' : Head} (h : k.Alike s s' k') : k.Alike t t' k' := by
  cases h with
  | read isOptional => exact .read (isOptional.mono grows grows')
  | create => exact .create
  | project p => exact .project (p.mono grows grows')

theorem Clause.Alike.mono {c c' : Clause} (h : c.Alike s s' c') : c.Alike t t' c' where
  head := h.head.mono grows grows'
  path_eq := h.path_eq
  path r eq := (h.path r eq).mono grows grows'
  filter_eq := h.filter_eq
  filter v eq := (h.filter v eq).mono grows
  assignments_eq := h.assignments_eq
  removals_eq := h.removals_eq
  deletion_eq := h.deletion_eq
  deletion d eq r mem := (h.deletion d eq r mem).mono grows grows'
  passing := optionRel_imp (fun _ _ h => h.mono grows grows') h.passing
  returning := optionRel_imp (fun _ _ h => h.mono grows grows') h.returning

theorem Object.Alike.mono {h : Nat} {o o' : Object} (like : Object.Alike R s s' h o o') :
    Object.Alike R t t' h o o' := by
  cases like with
  | reference eq => exact .reference eq
  | param related => exact .param related
  | expression exported => exact .expression exported
  | nodeElement n => exact .nodeElement (n.mono grows grows')
  | relationshipElement r => exact .relationshipElement (r.mono grows grows')
  | pattern es => exact .pattern (es.imp fun _ _ h => h.mono grows grows')
  | chain c => exact .chain (c.mono grows grows')
  | clause c => exact .clause (c.mono grows grows')
  | statement => exact .statement
  | union all => exact .union (all.mono grows grows')
  | data isData isData' => exact .data isData isData'

end Mono

/-! ### Like objects -/

section Objects

variable {R : Value → Value → Prop} {s s' : Store}

/-- Like clauses carry the same fragments. -/
theorem Head.Alike.manifest_eq {k k' : Head} (like : k.Alike s s' k') :
    k'.manifest = k.manifest := by
  cases like with
  | read _ => rfl
  | create => rfl
  | project p => simp [Head.manifest, p.kind_eq]

theorem Head.Alike.className_eq {k k' : Head} (like : k.Alike s s' k') :
    k'.className = k.className := by
  cases like with
  | read _ => rfl
  | create => rfl
  | project p => simp [Head.className, p.kind_eq]

theorem Head.Alike.patterns_eq {k k' : Head} (like : k.Alike s s' k') :
    k'.patterns = k.patterns := by
  cases like <;> rfl

/-- What is no part of a query cannot stand in one. -/
theorem Object.isCompilable_of_isData {o : Object} (h : o.isData = true) :
    o.isCompilable = false := by
  cases o <;> first | rfl | cases h

/-- Like objects can stand in a query, or neither can. -/
theorem Object.Alike.isCompilable_eq {h : Nat}
    {o o' : Object} (like : Object.Alike R s s' h o o') : o'.isCompilable = o.isCompilable := by
  cases like with
  | data isData isData' => rw [isCompilable_of_isData isData, isCompilable_of_isData isData']
  | _ => rfl

end Objects

/-! ### Like stores -/

namespace Store.Alike

variable {R : Value → Value → Prop} {s s' : Store}

/-- In like stores a handle has like objects, or none. -/
theorem get?_cases (like : Alike R s s') (h : Nat) :
    (s.get? h = none ∧ s'.get? h = none) ∨
    ∃ o o', s.get? h = some o ∧ s'.get? h = some o' ∧ Object.Alike R s s' h o o' := by
  rcases Nat.lt_or_ge h s.next with lt | ge
  · obtain ⟨o, found⟩ := exists_get? lt
    obtain ⟨o', found'⟩ := exists_get? (s := s') (like.next_eq ▸ lt)
    exact .inr ⟨o, o', found, found', like.objects found found'⟩
  · refine .inl ⟨Array.getElem?_eq_none ge, Array.getElem?_eq_none ?_⟩
    exact Nat.le_trans (Nat.le_of_eq like.next_eq) ge

/-- In like stores a value is a handle of like objects, or stands for none. -/
theorem object?_cases (like : Alike R s s') (v : Value) :
    (s.object? v = none ∧ s'.object? v = none) ∨
    ∃ h o o', v = .object h ∧ s.object? v = some o ∧ s'.object? v = some o' ∧
      Object.Alike R s s' h o o' := by
  cases v with
  | atom a mark => exact .inl ⟨rfl, rfl⟩
  | object h =>
    rcases like.get?_cases h with absent | ⟨o, o', found, found', alike⟩
    · exact .inl absent
    · exact .inr ⟨h, o, o', rfl, found, found', alike⟩

/-- Like parameters have one handle, one stem and related values. -/
theorem param_eq (like : Alike R s s') {p p' : Param} (alike : p.Alike s s' p') :
    p'.id = p.id ∧ p'.stem = p.stem ∧ R p.value p'.value := by
  obtain ⟨id, v, stem⟩ := p
  obtain ⟨id', v', stem'⟩ := p'
  cases like.objects alike.found alike.found' with
  | param related => exact ⟨rfl, rfl, related⟩
  | data isData _ => cases isData

/-- In like stores the same values stand in queries. -/
theorem stands_iff (like : Alike R s s') (v : Value) : s'.Stands v ↔ s.Stands v := by
  rcases like.object?_cases v with ⟨absent, absent'⟩ | ⟨h, o, o', rfl, found, found', alike⟩
  · simp [Stands, absent, absent']
  · simp [Stands, found, found', alike.isCompilable_eq]

/-- Like stores stay alike when like objects are added. -/
theorem push (like : Alike R s s') {o o' : Object} (alike : Object.Alike R s s' s.next o o') :
    Alike R (s.push o) (s'.push o') where
  next_eq := by simp [like.next_eq]
  unassigned := like.unassigned
  unassigned' := like.unassigned'
  objects := by
    intro h o₁ o₁' found found'
    have lt : h < s.next + 1 := by simpa using lt_of_get? found
    refine Object.Alike.mono (Grows.push s o) (Grows.push s' o') ?_
    rcases Nat.lt_succ_iff_lt_or_eq.mp lt with lt | rfl
    · rw [get?_push_of_lt lt] at found
      rw [get?_push_of_lt (like.next_eq ▸ lt)] at found'
      exact like.objects found found'
    · rw [get?_push_next] at found
      rw [← like.next_eq, get?_push_next] at found'
      cases found
      cases found'
      exact alike

/-- Like stores stay alike when like objects are put in the place of others. -/
theorem replace (like : Alike R s s') {h : Nat} {o o' o₁ o₁' : Object} (found : s.get? h = some o)
    (found' : s'.get? h = some o') (becomes : o.Becomes o₁) (becomes' : o'.Becomes o₁')
    (alike : Object.Alike R s s' h o₁ o₁') : Alike R (s.replace h o₁) (s'.replace h o₁') where
  next_eq := by simp [like.next_eq]
  unassigned := like.unassigned
  unassigned' := like.unassigned'
  objects := by
    intro g o₂ o₂' found₂ found₂'
    refine Object.Alike.mono (Grows.replace found becomes) (Grows.replace found' becomes') ?_
    by_cases eq : h = g
    · subst eq
      rw [get?_replace_self (lt_of_get? found)] at found₂
      rw [get?_replace_self (lt_of_get? found')] at found₂'
      cases found₂
      cases found₂'
      exact alike
    · rw [get?_replace_of_ne _ eq] at found₂ found₂'
      exact like.objects found₂ found₂'

end Store.Alike

end GraphQuery
