import GraphQuery.Assembly.Pattern
import GraphQuery.Proofs.Assembly.Leaf

/-!
Making patterns in two runs. The values of properties are always wrapped, so only the parameters of
the two runs differ.

* `agree_properties`: a table of literals becomes parameters of the same handles.
* `agree_nodeElement`, `agree_relationshipElement`: elements.
* `agree_related`, `agree_close`: chains.
-/

namespace GraphQuery

open Assembly

variable {R : Value → Value → Prop} {s s' : Store}

/-! ### Properties -/

/-- What does not stand in a query is no parameter. -/
theorem Store.param?_of_not_stands {v : Value} (absent : ¬ s.Stands v) : s.param? v = none := by
  unfold param?
  split
  · rename_i found
    exact absurd ⟨_, found, rfl⟩ absent
  · rfl

theorem agree_propertyValue (like : s.Alike R s') (key : Value) {v v' : Value}
    (operand : Operand R s s' v v') :
    Agree R Param.Alike s s' (propertyValue key v) (propertyValue key v') := by
  refine Agree.param? ?_
  cases operand with
  | standing stands =>
    rcases like.param?_cases v with ⟨absent, absent'⟩ | ⟨p, p', rfl, found, found', alike⟩
    · rw [absent, absent']
      refine Agree.isExpression like (like.stands_iff v) (fun _ => ?_)
        fun absent => absurd stands absent
      refine .of_fails like ?_ ?_ <;> simp only [↓reduceIte]
      · exact .after (reads_quoted key) fun _ => .after (reads_typeName v) fun _ =>
          .bind (.refuse s _) _
      · exact .after (reads_quoted key) fun _ => .after (reads_typeName v) fun _ =>
          .bind (.refuse s' _) _
    · rw [found, found']
      exact Agree.pure like alike
  | literal known known' absent absent' related =>
    rw [Store.param?_of_not_stands absent, Store.param?_of_not_stands absent']
    refine Agree.isExpression like (iff_of_false absent' absent)
      (fun stands => absurd stands absent) fun _ => ?_
    exact agree_wrap like related

/-- One property: the same name, and like parameters. -/
theorem agree_propertyEntry (like : s.Alike R s') {a a' : Value × Value} (key_eq : a'.1 = a.1)
    (operand : Operand R s s' a.2 a'.2) :
    Agree R (fun t t' p p' => p.1 = p'.1 ∧ p.2.Alike t t' p'.2) s s' (propertyEntry a)
      (propertyEntry a') := by
  unfold propertyEntry
  rw [key_eq]
  split
  · refine (agree_propertyValue like a.1 operand).bind ?_
    intro t t' p p' like _ _ alike
    exact Agree.pure like ⟨rfl, alike⟩
  · exact .refusedQuoted like

/-- A value has entries if it is a dictionary. -/
theorem Store.entries?_eq_some_iff (s : Store) (v : Value) (entries : List (Value × Value)) :
    v.entries? s.view = some entries ↔ s.object? v = some (.dict entries) := by
  cases v with
  | atom a mark => simp [Value.entries?, Value.content, object?]
  | object h =>
    have content_eq : (Value.object h).content s.view = s.content h := rfl
    change (Value.object h).entries? s.view = some entries ↔ s.get? h = some (.dict entries)
    rw [Value.entries?, content_eq, content]
    cases s.get? h with
    | none => simp
    | some o => cases o <;> simp [Object.content]

theorem agree_properties (like : s.Alike R s') {v : Value} (tabled : v.Tabled R s s') :
    Agree R PropertiesAlike s s' (properties v) (properties v) := by
  refine Agree.view ?_
  cases given : v.given? with
  | none => exact Agree.pure like .nil
  | some w =>
    cases found : v.entries? s.view with
    | none =>
      have found' : v.entries? s'.view = none := by
        rw [Option.eq_none_iff_forall_ne_some] at found ⊢
        intro entries' found'
        obtain ⟨entries, dict⟩ := tabled.dict' ((s'.entries?_eq_some_iff v entries').mp found')
        exact found entries ((s.entries?_eq_some_iff v entries).mpr dict)
      rw [found']
      exact .refusedTyped like
    | some entries =>
      obtain ⟨entries', dict', alike⟩ := tabled.dict ((s.entries?_eq_some_iff v entries).mp found)
      rw [(s'.entries?_eq_some_iff v entries').mpr dict']
      refine Agree.mapM (A := fun t t' a a' => a'.1 = a.1 ∧ Operand R t t' a.2 a'.2) ?_ ?_ ?_ like
        alike
      · exact fun _ _ _ _ _ _ grows grows' h => ⟨h.1, h.2.mono grows grows'⟩
      · exact fun _ _ _ _ _ _ grows grows' h => ⟨h.1, h.2.mono grows grows'⟩
      · exact fun like h => agree_propertyEntry like h.1 h.2

/-! ### Elements -/

theorem agree_nodeElement (like : s.Alike R s') (v : Value) {labels table : Value}
    (steady : labels.Steady s s') (tabled : table.Tabled R s s') :
    Agree R NodeElement.Alike s s' (nodeElement v labels table) (nodeElement v labels table) := by
  refine Agree.onReference like (.refusedTyped like) fun r held => ?_
  obtain ⟨id, stem, is⟩ := r
  cases is with
  | node own =>
    have made : ∀ {t t'} (names : List Name), t.Alike R t' → s.Grows t → s'.Grows t' →
        Agree R NodeElement.Alike t t'
          (do return ⟨.made ⟨id, stem, .node own⟩, .made names, .made (← properties table)⟩)
          (do return ⟨.made ⟨id, stem, .node own⟩, .made names, .made (← properties table)⟩) := by
      intro t t' names like grows grows'
      refine (agree_properties like (tabled.mono grows grows')).bind ?_
      intro u u' ps ps' like further further' alike
      exact Agree.pure like
        (.made (held.mono (grows.trans further) (grows'.trans further')) alike)
    cases given : labels.given? with
    | none =>
      refine (Agree.pure (P := Same) like rfl).bind ?_
      rintro t t' _ names like grows grows' rfl
      exact made names like grows grows'
    | some w =>
      rw [Value.eq_of_given? given] at steady
      refine (agree_labels like labelRole steady).bind ?_
      rintro t t' _ names like grows grows' rfl
      exact made names like grows grows'
  | _ => exact .refusedTyped like

theorem agree_direction (like : s.Alike R s') (v : Value) :
    Agree R Same s s' (direction v) (direction v) := by
  unfold direction
  split
  · exact Agree.pure like rfl
  · exact .refusedQuoted like

/-- An atom decides the same in all stores. -/
theorem Value.Deciding.atom (s s' : Store) (a : Atom) (mark : Nat) :
    (Value.atom a mark).Deciding s s' :=
  ⟨s.knows_atom a mark, s'.knows_atom a mark, rfl⟩

/-- The type of a relationship decides what the one that was given does. -/
theorem deciding_typeIn (own : Option Name) {type : Value} (deciding : type.Deciding s s') :
    (typeIn own type).Deciding s s' := by
  unfold typeIn Value.given?
  split
  · cases own with
    | none => exact .atom s s' _ _
    | some n => exact .atom s s' _ _
  · exact deciding

theorem agree_relationshipElement (like : s.Alike R s') (v : Value) {type table : Value}
    (way : Value) (deciding : type.Deciding s s') (tabled : table.Tabled R s s') :
    Agree R RelationshipElement.Alike s s' (relationshipElement v type table way)
      (relationshipElement v type table way) := by
  refine Agree.onReference like (.refusedTyped like) fun r held => ?_
  obtain ⟨id, stem, is⟩ := r
  cases is with
  | relationship own =>
    refine (agree_properties like tabled).bind ?_
    intro t t' ps ps' like grows grows' alike
    refine (agree_direction like way).bind ?_
    rintro u u' d _ like further further' rfl
    exact Agree.pure like (.made (held.mono (grows.trans further) (grows'.trans further'))
      (deciding_typeIn own (deciding.mono (grows.trans further) (grows'.trans further')))
      (alike.mono further further'))
  | _ => exact .refusedTyped like

/-! ### Chains -/

theorem Value.Steady.atom (s s' : Store) (a : Atom) (mark : Nat) :
    (Value.atom a mark).Steady s s' := by
  refine ⟨s.knows_atom a mark, fun o found => ?_⟩
  cases found

theorem Value.Tabled.atom (R : Value → Value → Prop) (s s' : Store) (a : Atom) (mark : Nat) :
    (Value.atom a mark).Tabled R s s' := by
  refine ⟨s.knows_atom a mark, s'.knows_atom a mark, fun _ found => ?_, fun _ found => ?_⟩
  · cases found
  · cases found

theorem agree_pattern (like : s.Alike R s') (v : Value) {labels table : Value}
    (steady : labels.Steady s s') (tabled : table.Tabled R s s') :
    Agree R Same s s' (pattern v labels table) (pattern v labels table) := by
  refine (agree_nodeElement like v steady tabled).bind ?_
  intro t t' n n' like _ _ alike
  exact agree_made like (.pattern (.cons (.node alike) .nil))

theorem agree_asPattern (like : s.Alike R s') (v : Value) :
    Agree R Same s s' (asPattern v) (asPattern v) := by
  refine Agree.onObject like (.refusedTyped like) fun o o' _ _ alike => ?_
  cases alike with
  | pattern _ => exact Agree.pure like rfl
  | @reference r _ =>
    obtain ⟨id, stem, is⟩ := r
    cases is with
    | node own => exact agree_pattern like _ (.atom s s' _ _) (.atom R s s' _ _)
    | _ => exact .refusedTyped like
  | chain _ => exact .of_fails like (.refuse s _) (.refuse s' _)
  | data isData isData' =>
    cases o <;> cases isData <;> cases o' <;> cases isData' <;> exact .refusedTyped like
  | _ => exact .refusedTyped like

theorem agree_related (like : s.Alike R s') (receiver v : Value) {type table : Value} (way : Value)
    (deciding : type.Deciding s s') (tabled : table.Tabled R s s') :
    Agree R Same s s' (related receiver v type table way) (related receiver v type table way) := by
  refine Agree.onObject like (.throw like) fun o o' _ _ alike => ?_
  cases alike with
  | @pattern es es' elements =>
    have extended : ∀ {t t'} (r : Value), t.Alike R t' → s.Grows t → s'.Grows t' →
        Agree R Same t t'
          (do made (.chain (.mk (.made es) (.relationship
            (← relationshipElement r type table way)))))
          (do made (.chain (.mk (.made es') (.relationship
            (← relationshipElement r type table way))))) := by
      intro t t' r like grows grows'
      refine (agree_relationshipElement like r way (deciding.mono grows grows')
        (tabled.mono grows grows')).bind ?_
      intro u u' e e' like further further' alike
      refine agree_made like (.chain (.made (elements.imp fun _ _ h => ?_) (.relationship alike)))
      exact h.mono (grows.trans further) (grows'.trans further')
    cases given : v.given? with
    | none =>
      refine (agree_reference like _ _).bind ?_
      rintro t t' _ r like grows grows' rfl
      exact extended r like grows grows'
    | some r =>
      refine (Agree.pure (P := Same) like rfl).bind ?_
      rintro t t' _ r like grows grows' rfl
      exact extended r like grows grows'
  | data isData isData' =>
    cases o <;> cases isData <;> cases o' <;> cases isData' <;> exact .throw like
  | _ => exact .throw like

/-- The elements of like chains. -/
theorem OpenChain.Alike.elementsOf? {c c' : OpenChain} (h : c.Alike s s' c') :
    ∃ es es', elementsOf? s.view c.elements = some es ∧ elementsOf? s'.view c'.elements = some es' ∧
      List.Forall₂ (Element.Alike s s') es es' := by
  cases h with
  | made es e => exact ⟨_, _, rfl, rfl, es⟩
  | @assigned v items e e' found found' elements pending =>
    have runs : ∀ {t : Store}, t.object? v = some (.tuple items) →
        GraphQuery.elementsOf? t.view (.assigned v) = some (items.map .given) := by
      intro t found
      cases v with
      | atom a mark => cases found
      | object h =>
        have content : t.view.content h = .tuple items := by
          change t.content h = _
          rw [Store.content, show t.get? h = _ from found]
          rfl
        simp [GraphQuery.elementsOf?, Value.items?, content]
    refine ⟨_, _, runs found, runs found', ?_⟩
    rw [List.forall₂_map_left_iff, List.forall₂_map_right_iff, List.forall₂_same]
    exact fun i mem => .given (elements i mem).1 (elements i mem).2

/-- The last elements of like chains. -/
theorem OpenChain.Alike.pending {c c' : OpenChain} (h : c.Alike s s' c') :
    c.pending.Alike s s' c'.pending := by
  cases h with
  | made _ e => exact e
  | assigned _ _ _ e => exact e

theorem agree_close (like : s.Alike R s') (receiver v : Value) {labels table : Value}
    (steady : labels.Steady s s') (tabled : table.Tabled R s s') :
    Agree R Same s s' (close receiver v labels table) (close receiver v labels table) := by
  refine Agree.onObject like (.throw like) fun o o' _ _ alike => ?_
  cases alike with
  | chain alike =>
    obtain ⟨es, es', listed, listed', -⟩ := alike.elementsOf?
    refine Agree.view ?_
    rw [listed, listed']
    refine (agree_nodeElement like v steady tabled).bind ?_
    intro t t' n n' like grows grows' node
    obtain ⟨es, es', listed, listed', elements⟩ := (alike.mono grows grows').elementsOf?
    refine Agree.view ?_
    rw [OpenChain.close?, OpenChain.close?, listed, listed']
    refine agree_made like (.pattern (List.rel_append elements ?_))
    exact .cons (alike.mono grows grows').pending (.cons (.node node) .nil)
  | data isData isData' =>
    cases o <;> cases isData <;> cases o' <;> cases isData' <;> exact .throw like
  | _ => exact .throw like

/-- An open chain of elements. -/
theorem agree_openChain (like : s.Alike R s') {elements pending : Value} {items : List Value}
    (found : s.object? elements = some (.tuple items))
    (found' : s'.object? elements = some (.tuple items))
    (isElement : ∀ i ∈ pending :: items, s.IsElement i ∧ s'.IsElement i) :
    Agree R Same s s' (openChain elements pending) (openChain elements pending) := by
  obtain ⟨last, others⟩ := List.forall_mem_cons.mp isElement
  exact agree_made like (.chain (.assigned found found' others (.given last.1 last.2)))

end GraphQuery
