import GraphQuery.Proofs.Store.Likeness

/-!
What the parts of objects are.

An object is typed when each of its parts is something that can stand in its place: operands are
there and can be written, the patterns of a clause are patterns, the branches of a union are
queries, and name stems are identifiers. Two parts are not checked by the library when they are
handed over: the base of an access to a property, and the type of a relationship in a pattern. So
what they are is only asked for where the caller is known to be strict.

* `Object.Typed`: the parts of an object are what they should be.
* `Store.Typed`: those of all objects are.
* `Store.Typed.push`, `Store.Typed.replace`: stores stay typed when typed objects are added or put
  in the place of others.
-/

namespace GraphQuery

/-! ### What is behind values -/

/-- A name is something. -/
theorem Value.given?_of_name? {v : Value} {n : Name} (name : v.name? = some n) :
    v.given? = some v := by
  cases v with
  | object h => rfl
  | atom a mark =>
    cases a with
    | null => cases name
    | _ => rfl

namespace Store

variable (s : Store)

/-- A reference is behind a value. -/
def Refers (v : Value) : Prop := ∃ r, s.object? v = some (.reference r)

/-- An access to a property is behind a value. -/
def Accesses (v : Value) : Prop :=
  ∃ base path, s.object? v = some (.expression (.property base path))

/-- A pattern is behind a handle. -/
def IsPattern (h : Nat) : Prop := ∃ p, s.get? h = some (.pattern p)

/-- A clause, a statement or a union is behind a handle. -/
def IsQuery (h : Nat) : Prop := ∃ o, s.get? h = some o ∧ o.isQuery = true

/-- The value can be the name of a column: a variable, or an identifier. -/
def IsAlias (v : Value) : Prop :=
  (∃ id stem, s.object? v = some (.reference ⟨id, stem, .var⟩)) ∨
    ∃ n, v.name? = some n ∧ Text.isIdentifier n.word = true

variable {s} {t : Store} (grows : s.Grows t)
include grows

theorem Refers.mono {v : Value} (h : s.Refers v) : t.Refers v := by
  obtain ⟨r, found⟩ := h
  exact ⟨r, grows.object?_eq found⟩

theorem Accesses.mono {v : Value} (h : s.Accesses v) : t.Accesses v := by
  obtain ⟨base, path, found⟩ := h
  exact ⟨base, path, grows.object?_eq found⟩

theorem IsPattern.mono {h : Nat} (isPattern : s.IsPattern h) : t.IsPattern h := by
  obtain ⟨p, found⟩ := isPattern
  exact ⟨p, grows.get?_eq found⟩

theorem IsQuery.mono {h : Nat} (isQuery : s.IsQuery h) : t.IsQuery h := by
  obtain ⟨o, found, isQuery⟩ := isQuery
  obtain ⟨o', found', becomes⟩ := grows found
  refine ⟨o', found', ?_⟩
  cases becomes <;> exact isQuery

theorem IsAlias.mono {v : Value} (h : s.IsAlias v) : t.IsAlias v := by
  rcases h with ⟨id, stem, found⟩ | named
  · exact .inl ⟨id, stem, grows.object?_eq found⟩
  · exact .inr named

end Store

/-- What can be accessed can be written. -/
theorem Store.Accesses.stands {s : Store} {v : Value} (h : s.Accesses v) : s.Stands v := by
  obtain ⟨base, path, found⟩ := h
  exact ⟨_, found, rfl⟩

theorem Store.Refers.stands {s : Store} {v : Value} (h : s.Refers v) : s.Stands v := by
  obtain ⟨r, found⟩ := h
  exact ⟨_, found, rfl⟩

theorem Store.IsPattern.stands {s : Store} {h : Nat} (isPattern : s.IsPattern h) :
    s.Stands (.object h) := by
  obtain ⟨p, found⟩ := isPattern
  exact ⟨_, found, rfl⟩

theorem Store.IsQuery.stands {s : Store} {h : Nat} (isQuery : s.IsQuery h) :
    s.Stands (.object h) := by
  obtain ⟨o, found, isQuery⟩ := isQuery
  refine ⟨o, found, ?_⟩
  cases o <;> first | rfl | cases isQuery

/-! ### Typed objects -/

section Typed

variable (strict : Prop) (s : Store)

/-- The operands of an expression can be written, and a boolean combination has several. -/
inductive Expression.Typed : Expression → Prop where
  | property {base : Value} {path : List Name} : (strict → s.Refers base) →
      Typed (.property base (.made path))
  | comparison {operator : String} {left right : Value} : s.Stands left → s.Stands right →
      Typed (.comparison (.text operator) left right)
  | check {operator : String} {operand : Value} : s.Stands operand →
      Typed (.comparison (.text operator) operand .null)
  | junction {operator : String} {operands : List Value} : 2 ≤ operands.length →
      (∀ v ∈ operands, s.Stands v) → Typed (.junction (.text operator) (.made operands))
  | negation {operand : Value} : s.Stands operand → Typed (.negation operand)
  | call {name : String} {arguments : List Value} : (∀ v ∈ arguments, s.Stands v) →
      Typed (.call (.text name) (.made arguments))

/-- The type of a relationship is a name or nothing. -/
def RelationshipElement.Typed (r : RelationshipElement) : Prop :=
  strict → r.type.isNull = true ∨ ∃ n, r.type.name? = some n

/-- A relationship in a chain is typed. -/
def Element.Typed : Element → Prop
  | relationship r => r.Typed strict
  | _ => True

/-- The elements of a chain that was made are typed. -/
def Attribute.ElementsTyped (elements : Attribute (List Element)) : Prop :=
  ∀ es, elements = .made es → ∀ e ∈ es, e.Typed strict

/-- A column is the star, or an expression with a name or without one. -/
inductive Column.Typed : Column → Prop where
  | star : Typed .star
  | bare {e : Value} : s.Stands e → Typed ⟨e, .null⟩
  | named {e name : Value} : s.Stands e → s.IsAlias name → Typed ⟨e, name⟩

/-- The columns and the sort items of a projection are expressions. -/
structure Projection.Typed (p : Projection) : Prop where
  columns : ∀ c ∈ p.columns, c.Typed s
  sortItems : ∀ i ∈ p.ordering.sortItems, s.Stands i.expression

/-- The fragments of a clause are made of what belongs into them. -/
structure Clause.Typed (c : Clause) : Prop where
  patterns : ∀ h ∈ c.head.patterns, s.IsPattern h
  body : ∀ p, c.head = .project p → p.Typed s
  filter : ∀ v, c.filter = some v → s.Stands v
  assignments : ∀ e ∈ c.assignments.getD [], s.Accesses e.1 ∧ s.Stands e.2
  removals : ∀ v ∈ c.removals.getD [], s.Accesses v
  passing : ∀ p, c.passing = some p → p.Typed s
  returning : ∀ p, c.returning = some p → p.Typed s

/-- The parts of an object are what they should be. -/
def Object.Typed : Object → Prop
  | reference r => ∀ n, r.stem = some n → Text.isIdentifier n.word = true
  | param p => ∀ n, p.stem = some n → Text.isIdentifier n.word = true
  | expression e => e.Typed strict s
  | relationshipElement r => r.Typed strict
  | pattern p => p.elements.ElementsTyped strict
  | chain c => c.elements.ElementsTyped strict ∧ c.pending.Typed strict
  | clause c => c.Typed s
  | statement nodes => ∀ h ∈ nodes, s.IsQuery h
  | union branches _ => 2 ≤ branches.length ∧ ∀ h ∈ branches, s.IsQuery h
  | _ => True

/-- Nothing is assigned to any object, and the parts of all of them are what they should be. -/
structure Store.Typed : Prop where
  unassigned : s.assignments = []
  objects : ∀ ⦃h o⦄, s.get? h = some o → o.Typed strict s

end Typed

/-! ### Typed objects while stores grow -/

section Mono

variable {strict : Prop} {s t : Store} (grows : s.Grows t)
include grows

theorem Expression.Typed.mono {e : Expression} (h : e.Typed strict s) : e.Typed strict t := by
  cases h with
  | property base => exact .property fun asked => (base asked).mono grows
  | comparison left right => exact .comparison (left.mono grows) (right.mono grows)
  | check operand => exact .check (operand.mono grows)
  | junction several stand => exact .junction several fun v mem => (stand v mem).mono grows
  | negation operand => exact .negation (operand.mono grows)
  | call stand => exact .call fun v mem => (stand v mem).mono grows

theorem Column.Typed.mono {c : Column} (h : c.Typed s) : c.Typed t := by
  cases h with
  | star => exact .star
  | bare e => exact .bare (e.mono grows)
  | named e name => exact .named (e.mono grows) (name.mono grows)

theorem Projection.Typed.mono {p : Projection} (h : p.Typed s) : p.Typed t where
  columns c mem := (h.columns c mem).mono grows
  sortItems i mem := (h.sortItems i mem).mono grows

theorem Clause.Typed.mono {c : Clause} (h : c.Typed s) : c.Typed t where
  patterns g mem := (h.patterns g mem).mono grows
  body p eq := (h.body p eq).mono grows
  filter v eq := (h.filter v eq).mono grows
  assignments e mem := ⟨(h.assignments e mem).1.mono grows, (h.assignments e mem).2.mono grows⟩
  removals v mem := (h.removals v mem).mono grows
  passing p eq := (h.passing p eq).mono grows
  returning p eq := (h.returning p eq).mono grows

theorem Object.Typed.mono {o : Object} (h : o.Typed strict s) : o.Typed strict t := by
  cases o with
  | expression e => exact Expression.Typed.mono grows h
  | clause c => exact Clause.Typed.mono grows h
  | statement nodes => exact fun g mem => (h g mem).mono grows
  | union branches all => exact ⟨h.1, fun g mem => (h.2 g mem).mono grows⟩
  | _ => exact h

end Mono

/-! ### Typed stores -/

namespace Store.Typed

variable {strict : Prop} {s : Store}

/-- The store without objects is typed. -/
theorem empty : Store.empty.Typed strict where
  unassigned := rfl
  objects h o found := by cases found

/-- The store stays typed when an object is added that is typed with it. -/
theorem push (typed : s.Typed strict) {o : Object} (object : o.Typed strict s) :
    (s.push o).Typed strict where
  unassigned := typed.unassigned
  objects := by
    intro h o' found
    have lt : h < s.next + 1 := by simpa using lt_of_get? found
    refine Object.Typed.mono (Grows.push s o) ?_
    rcases Nat.lt_succ_iff_lt_or_eq.mp lt with lt | rfl
    · rw [get?_push_of_lt lt] at found
      exact typed.objects found
    · rw [get?_push_next] at found
      cases found
      exact object

/-- The store stays typed when an object is put in the place of another one. -/
theorem replace (typed : s.Typed strict) {h : Nat} {o o' : Object} (found : s.get? h = some o)
    (becomes : o.Becomes o') (object : o'.Typed strict s) : (s.replace h o').Typed strict where
  unassigned := typed.unassigned
  objects := by
    intro g o'' found'
    refine Object.Typed.mono (Grows.replace found becomes) ?_
    by_cases eq : h = g
    · subst eq
      rw [get?_replace_self (lt_of_get? found)] at found'
      cases found'
      exact object
    · rw [get?_replace_of_ne _ eq] at found'
      exact typed.objects found'

end Store.Typed

end GraphQuery
