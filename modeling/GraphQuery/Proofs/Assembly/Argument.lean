import GraphQuery.Proofs.Store.Likeness

/-!
Arguments of assembling calls in two runs.

Where a literal can be given, the arguments of the two runs are different literals, or one value
that stands in a query. Everywhere else they are one value. If such a value is a collection that a
call looks into, then what the call finds there is the same in both stores, apart from the places of
literals in it.

* `Operand`: arguments that are operands.
* `Value.Steady`, `Value.Tabled`, `Value.Paired`, `Value.Assigning`: arguments that are looked into,
  as labels, as properties, as pairs and as assignments.
-/

namespace GraphQuery

section Arguments

variable (R : Value → Value → Prop) (s s' : Store)

/-- Two operands: one value that stands in a query, or literals in the places of each other. -/
inductive Operand : Value → Value → Prop where
  | standing {v : Value} : s.Stands v → Operand v v
  | literal {v v' : Value} : s.Knows v → s'.Knows v' → ¬ s.Stands v → ¬ s'.Stands v' → R v v' →
      Operand v v'

/-- A value that holds the same in both stores, if it holds anything. -/
structure Value.Steady (v : Value) : Prop where
  known : s.Knows v
  data : ∀ ⦃o⦄, s.object? v = some o → o.isData = true → s'.object? v = some o

/-- A value that is a dictionary in both stores or in neither. The dictionaries have the same keys,
and operands under them. -/
structure Value.Tabled (v : Value) : Prop where
  known : s.Knows v
  known' : s'.Knows v
  dict : ∀ ⦃entries⦄, s.object? v = some (.dict entries) → ∃ entries',
    s'.object? v = some (.dict entries') ∧
      List.Forall₂ (fun a a' => a'.1 = a.1 ∧ Operand R s s' a.2 a'.2) entries entries'
  dict' : ∀ ⦃entries'⦄, s'.object? v = some (.dict entries') → ∃ entries,
    s.object? v = some (.dict entries)

/-- A value that is the same pair in both stores, or a pair in neither. -/
structure Value.Paired (v : Value) : Prop where
  known : s.Knows v
  known' : s'.Knows v
  pair_iff : ∀ a b, s.object? v = some (.tuple [a, b]) ↔ s'.object? v = some (.tuple [a, b])

/-- A pair whose second item, if it is one, reads the same in both stores. -/
structure Value.Sorting (v : Value) : Prop extends Value.Paired s s' v where
  plain_eq : ∀ a b, s.object? v = some (.tuple [a, b]) → b.plain s.view = b.plain s'.view

/-- A value that is a pair in both stores or in neither. The pairs have the same first item, and
operands as their second one. -/
structure Value.Assigning (v : Value) : Prop where
  known : s.Knows v
  known' : s'.Knows v
  pair : ∀ ⦃a b⦄, s.object? v = some (.tuple [a, b]) → ∃ b',
    s'.object? v = some (.tuple [a, b']) ∧ Operand R s s' b b'
  pair' : ∀ ⦃a b'⦄, s'.object? v = some (.tuple [a, b']) → ∃ b, s.object? v = some (.tuple [a, b])

end Arguments

section Mono

variable {R : Value → Value → Prop} {s s' t t' : Store} {v v' : Value}

/-- What is no builder's is behind a known value later just in case it was before. -/
theorem Store.Knows.object?_iff (h : s.Knows v) (grows : s.Grows t) {o : Object}
    (fixed : o.isBuildable = false := by rfl) : t.object? v = some o ↔ s.object? v = some o := by
  constructor
  · intro found
    obtain ⟨o', found, becomes⟩ := h.exists_object? grows found
    cases becomes with
    | same => exact found
    | clause | statement | union => cases fixed
  · exact fun found => grows.object?_eq found fixed

variable (grows : s.Grows t) (grows' : s'.Grows t')
include grows grows'

theorem Operand.mono (h : Operand R s s' v v') : Operand R t t' v v' := by
  cases h with
  | standing stands => exact .standing (stands.mono grows)
  | literal known known' absent absent' related =>
    refine .literal (known.mono grows) (known'.mono grows') ?_ ?_ related
    · exact fun stands => absent (known.stands_of_stands grows stands)
    · exact fun stands => absent' (known'.stands_of_stands grows' stands)

theorem Value.Tabled.mono (h : v.Tabled R s s') : v.Tabled R t t' where
  known := h.known.mono grows
  known' := h.known'.mono grows'
  dict entries found := by
    obtain ⟨entries', found', alike⟩ := h.dict ((h.known.object?_iff grows).mp found)
    refine ⟨entries', grows'.object?_eq found', alike.imp fun _ _ h => ⟨h.1, ?_⟩⟩
    exact h.2.mono grows grows'
  dict' entries' found' := by
    obtain ⟨entries, found⟩ := h.dict' ((h.known'.object?_iff grows').mp found')
    exact ⟨entries, grows.object?_eq found⟩

theorem Value.Paired.mono (h : v.Paired s s') : v.Paired t t' where
  known := h.known.mono grows
  known' := h.known'.mono grows'
  pair_iff a b := by
    rw [h.known.object?_iff grows, h.known'.object?_iff grows']
    exact h.pair_iff a b

theorem Value.Assigning.mono (h : v.Assigning R s s') : v.Assigning R t t' where
  known := h.known.mono grows
  known' := h.known'.mono grows'
  pair a b found := by
    obtain ⟨b', found', operand⟩ := h.pair ((h.known.object?_iff grows).mp found)
    exact ⟨b', grows'.object?_eq found', operand.mono grows grows'⟩
  pair' a b' found' := by
    obtain ⟨b, found⟩ := h.pair' ((h.known'.object?_iff grows').mp found')
    exact ⟨b, grows.object?_eq found⟩

end Mono

/-! ### Arguments of one run -/

section Same

variable {R : Value → Value → Prop} {s : Store} {v : Value}

/-- In one store a known value that is related to itself is an operand in the place of itself. -/
theorem Operand.same (known : s.Knows v) (related : R v v) : Operand R s s v v := by
  by_cases stands : s.Stands v
  · exact .standing stands
  · exact .literal known known stands stands related

theorem Value.Deciding.same (known : s.Knows v) : v.Deciding s s :=
  ⟨known, known, rfl⟩

theorem Value.Steady.same (known : s.Knows v) : v.Steady s s :=
  ⟨known, fun _ found _ => found⟩

theorem Value.Sorting.same (known : s.Knows v) : v.Sorting s s where
  known := known
  known' := known
  pair_iff _ _ := Iff.rfl
  plain_eq _ _ _ := rfl

/-- A value is there, and so are those that it holds if it is a dictionary or a tuple. -/
structure Store.KnowsWithin (s : Store) (v : Value) : Prop where
  known : s.Knows v
  entries : ∀ ⦃entries⦄, s.object? v = some (.dict entries) → ∀ entry ∈ entries, s.Knows entry.2
  items : ∀ ⦃items⦄, s.object? v = some (.tuple items) → ∀ i ∈ items, s.Knows i

theorem Store.knowsWithin_atom (s : Store) (a : Atom) (mark : Nat) :
    s.KnowsWithin (.atom a mark) where
  known := s.knows_atom a mark
  entries entries found := by cases found
  items items found := by cases found

/-- What can stand in a query is no dictionary and no tuple. -/
theorem Store.Stands.knowsWithin (stands : s.Stands v) : s.KnowsWithin v := by
  refine ⟨stands.knows, fun entries found => ?_, fun items found => ?_⟩
  all_goals
    obtain ⟨o, behind, compilable⟩ := stands
    cases found.symm.trans behind
    cases compilable

/-- What a value holds under its keys if it is a dictionary. -/
def Store.entryValues (s : Store) (v : Value) : List Value :=
  match s.object? v with
  | some (.dict entries) => entries.map (·.2)
  | _ => []

/-- The second item of a value if it is a pair. -/
def Store.second? (s : Store) (v : Value) : Option Value :=
  match s.object? v with
  | some (.tuple [_, b]) => some b
  | _ => none

theorem Store.entryValues_of_dict {entries : List (Value × Value)}
    (found : s.object? v = some (.dict entries)) : s.entryValues v = entries.map (·.2) := by
  rw [entryValues, found]

theorem Store.second?_of_pair {a b : Value} (found : s.object? v = some (.tuple [a, b])) :
    s.second? v = some b := by
  rw [second?, found]

theorem Value.Tabled.same (h : s.KnowsWithin v) (related : ∀ w ∈ s.entryValues v, R w w) :
    v.Tabled R s s where
  known := h.known
  known' := h.known
  dict entries found := by
    rw [Store.entryValues_of_dict found] at related
    refine ⟨entries, found, List.forall₂_same.mpr fun entry mem => ⟨rfl, ?_⟩⟩
    exact .same (h.entries found entry mem) (related _ (List.mem_map_of_mem mem))
  dict' entries found := ⟨entries, found⟩

theorem Value.Assigning.same (h : s.KnowsWithin v) (related : ∀ w, s.second? v = some w → R w w) :
    v.Assigning R s s where
  known := h.known
  known' := h.known
  pair a b found :=
    ⟨b, found, .same (h.items found b (by simp)) (related b (Store.second?_of_pair found))⟩
  pair' a b found := ⟨b, found⟩

end Same

end GraphQuery
