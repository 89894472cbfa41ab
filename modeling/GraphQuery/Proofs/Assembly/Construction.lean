import GraphQuery.Assembly.Construction
import GraphQuery.Proofs.Assembly.Clause

/-!
Assembling calls in two runs.

* `Construction.Alike`: two calls of the library that differ only in literals.
* `agree_perform`: such calls on like stores both succeed with one result or both fail, and leave
  like stores behind.
-/

namespace GraphQuery

open Assembly

variable {R : Value → Value → Prop} {s s' : Store}

/-! ### Steps that change objects -/

section Steps

variable {α β γ δ : Type} {P : Store → Store → α → β → Prop} {Q : Store → Store → γ → δ → Prop}

/-- Steps that cannot fail, and what comes after them. -/
theorem Agree.lift {m : StateM Store α} {m' : StateM Store β} {f : α → Assembly γ}
    {g : β → Assembly δ} (first : Together R P s s' m m')
    (next : ∀ {t t' a b}, t.Alike R t' → s.Grows t → s'.Grows t' → P t t' a b →
      Agree R Q t t' (f a) (g b)) :
    Agree R Q s s' ((liftM m : Assembly α) >>= f) ((liftM m' : Assembly β) >>= g) := by
  change Together R _ s s' (m >>= fun a => (f a).run) (m' >>= fun b => (g b).run)
  exact first.bind next

/-- Changes that keep stores alike, and what comes after them. -/
theorem Agree.modify {k k' : Store → Store} {f : PUnit → Assembly γ} {g : PUnit → Assembly δ}
    (grows : s.Grows (k s)) (grows' : s'.Grows (k' s'))
    (next : Agree R Q (k s) (k' s') (f ⟨⟩) (g ⟨⟩)) :
    Agree R Q s s' (modify k >>= f) (modify k' >>= g) :=
  ⟨next.alike, grows.trans next.grows, grows'.trans next.grows', next.results⟩

end Steps

/-- What was a clause is one still. -/
theorem Store.Grows.exists_clause {t : Store} (grows : s.Grows t) {h : Nat} {c : Clause}
    (found : s.get? h = some (.clause c)) : ∃ c, t.get? h = some (.clause c) := by
  obtain ⟨o, found, becomes⟩ := grows found
  cases becomes with
  | same => exact ⟨c, found⟩
  | clause => exact ⟨_, found⟩

/-! ### Clauses, statements and unions -/

theorem agree_buildOn (like : s.Alike R s') (h : Nat) {b b' : Builder} (alike : b.Alike R s s' b') :
    Agree R Same s s' (buildOn h b) (buildOn h b') := by
  refine Agree.get ?_
  rcases like.get?_cases h with ⟨absent, absent'⟩ | ⟨o, o', found, found', objects⟩
  · rw [absent, absent']
    exact .throw like
  · rw [found, found']
    cases objects with
    | clause clause =>
      refine Agree.get ?_
      rw [Store.isLacking_eq_false like.unassigned, Store.isLacking_eq_false like.unassigned']
      refine Agree.get ?_
      rw [Store.isReassigned_eq_false like.unassigned, Store.isReassigned_eq_false like.unassigned']
      refine Agree.lift (together_build like clause alike) ?_
      intro t t' built built' like grows grows' results
      obtain ⟨c, found⟩ := grows.exists_clause found
      obtain ⟨c', found'⟩ := grows'.exists_clause found'
      have replaced := like.replace found found' .clause .clause (.clause results.clause)
      refine Agree.modify (.replace found .clause) (.replace found' .clause) ?_
      have fault := results.fault
      generalize built.fault? = f? at fault
      generalize built'.fault? = f?' at fault
      cases f? <;> cases f?'
      · exact Agree.pure replaced rfl
      · cases fault
      · cases fault
      · exact .throw replaced
    | data isData isData' =>
      cases o <;> cases isData <;> cases o' <;> cases isData' <;> exact .throw like
    | _ => exact .throw like

/-- Like objects are clauses, statements or unions, or neither is. -/
theorem Object.Alike.isQuery_eq {h : Nat} {o o' : Object} (like : Object.Alike R s s' h o o') :
    o'.isQuery = o.isQuery := by
  cases like with
  | data isData isData' => cases o <;> cases isData <;> cases o' <;> cases isData' <;> rfl
  | _ => rfl

theorem agree_compilable (like : s.Alike R s') (v : Value) :
    Agree R Same s s' (compilable v) (compilable v) := by
  refine Agree.object? ?_
  rcases like.object?_cases v with ⟨absent, absent'⟩ | ⟨h, o, o', rfl, found, found', alike⟩
  · rw [absent, absent']
    exact .refusedTyped like
  · rw [found, found', Option.any_some, Option.any_some, alike.isQuery_eq]
    split
    · exact Agree.pure like rfl
    · exact .refusedTyped like

theorem agree_compilables (like : s.Alike R s') (vs : List Value) :
    Agree R Same s s' (vs.mapM compilable) (vs.mapM compilable) :=
  Agree.mapM_same (A := fun _ _ _ => True) (fun _ _ h => h) (fun like _ => agree_compilable like _)
    like fun _ _ => trivial

theorem agree_statement (like : s.Alike R s') (nodes : List Value) :
    Agree R Same s s' (statement nodes) (statement nodes) := by
  refine (agree_compilables like nodes).bind ?_
  rintro t t' _ nodes like - - rfl
  exact agree_made like .statement

theorem agree_union (like : s.Alike R s') (branches : List Value) :
    Agree R Same s s' (union branches) (union branches) := by
  unfold union
  dsimp only
  split
  · exact .refused like
  · refine (agree_compilables like branches).bind ?_
    rintro t t' _ branches like - - rfl
    exact agree_made like (.union (.atom t t' _ _))

/-- What was a statement is one still. -/
theorem Store.Grows.exists_statement {t : Store} (grows : s.Grows t) {h : Nat} {nodes : List Nat}
    (found : s.get? h = some (.statement nodes)) : ∃ nodes, t.get? h = some (.statement nodes) := by
  obtain ⟨o, found, becomes⟩ := grows found
  cases becomes with
  | same => exact ⟨nodes, found⟩
  | statement => exact ⟨_, found⟩

theorem agree_append (like : s.Alike R s') (h : Nat) (v : Value) :
    Agree R Same s s' (append h v) (append h v) := by
  have missing : ∀ f : PUnit → Assembly Value,
      Agree R (Same (α := Value)) s s' (throw .missing >>= f) (throw .missing >>= f) := fun _ =>
    .of_fails like (.bind (.throw s _) _) (.bind (.throw s' _) _)
  refine Agree.get ?_
  rw [Store.isLacking_eq_false like.unassigned, Store.isLacking_eq_false like.unassigned']
  refine Agree.get (Agree.get ?_)
  rw [Store.standIn?_eq_none like.unassigned, Store.standIn?_eq_none like.unassigned']
  rcases like.get?_cases h with ⟨absent, absent'⟩ | ⟨o, o', found, found', objects⟩
  · rw [absent, absent']
    exact missing _
  · rw [found, found']
    cases objects with
    | @statement nodes =>
      refine (agree_compilable like v).bind ?_
      rintro t t' _ g like grows grows' rfl
      obtain ⟨_, found⟩ := grows.exists_statement found
      obtain ⟨_, found'⟩ := grows'.exists_statement found'
      have replaced : Store.Alike R (t.replace h (.statement (nodes ++ [g])))
          (t'.replace h (.statement (nodes ++ [g]))) :=
        like.replace found found' .statement .statement .statement
      exact Agree.modify (.replace found .statement) (.replace found' .statement)
        (Agree.pure replaced rfl)
    | data isData isData' =>
      cases o <;> cases isData <;> cases o' <;> cases isData' <;> exact missing _
    | _ => exact missing _

theorem agree_keepDuplicates (like : s.Alike R s') (h : Nat) {all : Value}
    (deciding : all.Deciding s s') :
    Agree R Same s s' (keepDuplicates h all) (keepDuplicates h all) := by
  refine Agree.get ?_
  rcases like.get?_cases h with ⟨absent, absent'⟩ | ⟨o, o', found, found', objects⟩
  · rw [absent, absent']
    exact .throw like
  · rw [found, found']
    cases objects with
    | @union branches _ _ =>
      have replaced : Store.Alike R (s.replace h (.union branches all))
          (s'.replace h (.union branches all)) :=
        like.replace found found' .union .union (.union deciding)
      exact Agree.modify (.replace found .union) (.replace found' .union)
        (Agree.pure replaced rfl)
    | data isData isData' =>
      cases o <;> cases isData <;> cases o' <;> cases isData' <;> exact .throw like
    | _ => exact .throw like

/-! ### All calls -/

/-- Two assembling calls of the library that differ only in literals. Operators and functions are
those of the library, and open chains are made of elements. -/
inductive Construction.Alike (R : Value → Value → Prop) (s s' : Store) :
    Construction → Construction → Prop where
  | reference {is : RefClass} {stem : Value} :
      Alike R s s' (.reference is stem) (.reference is stem)
  | node {stem : Value} {labels? : Option Value} : (∀ v, labels? = some v → v.Steady s s') →
      Alike R s s' (.node stem labels?) (.node stem labels?)
  | relationship {stem type : Value} :
      Alike R s s' (.relationship stem type) (.relationship stem type)
  | param {v v' stem : Value} : R v v' → Alike R s s' (.param v stem) (.param v' stem)
  | property {base : Value} {path : List Value} :
      Alike R s s' (.property base path) (.property base path)
  | propertyOf {receiver : Value} {path : List Value} :
      Alike R s s' (.propertyOf receiver path) (.propertyOf receiver path)
  | direction {v : Value} : Alike R s s' (.direction v) (.direction v)
  | nodeElement {v labels table : Value} : labels.Steady s s' → table.Tabled R s s' →
      Alike R s s' (.nodeElement v labels table) (.nodeElement v labels table)
  | relationshipElement {v type table way : Value} : type.Deciding s s' → table.Tabled R s s' →
      Alike R s s' (.relationshipElement v type table way) (.relationshipElement v type table way)
  | pattern {v labels table : Value} : labels.Steady s s' → table.Tabled R s s' →
      Alike R s s' (.pattern v labels table) (.pattern v labels table)
  | related {receiver v type table way : Value} : type.Deciding s s' → table.Tabled R s s' →
      Alike R s s' (.related receiver v type table way) (.related receiver v type table way)
  | close {receiver v labels table : Value} : labels.Steady s s' → table.Tabled R s s' →
      Alike R s s' (.close receiver v labels table) (.close receiver v labels table)
  | openChain {elements pending : Value} {items : List Value} :
      s.object? elements = some (.tuple items) → s'.object? elements = some (.tuple items) →
      (∀ i ∈ pending :: items, s.IsElement i ∧ s'.IsElement i) →
      Alike R s s' (.openChain elements pending) (.openChain elements pending)
  | comparison {operator : String} {left left' right right' : Value} :
      operator ∈ comparisonOperators → Operand R s s' left left' → Operand R s s' right right' →
      Alike R s s' (.comparison operator left right) (.comparison operator left' right')
  | check {operator : String} {v v' : Value} : operator ∈ checkOperators → Operand R s s' v v' →
      Alike R s s' (.check operator v) (.check operator v')
  | junction {operator : String} {vs vs' : List Value} : operator ∈ junctionOperators →
      List.Forall₂ (Operand R s s') vs vs' →
      Alike R s s' (.junction operator vs) (.junction operator vs')
  | negation {v v' : Value} : Operand R s s' v v' → Alike R s s' (.negation v) (.negation v')
  | call {name : String} {vs vs' : List Value} : name ∈ functionNames →
      List.Forall₂ (Operand R s s') vs vs' →
      Alike R s s' (.call (.text name) vs) (.call (.text name) vs')
  | read {optionalClass : Bool} {isOptional : Value} {vs : List Value} :
      isOptional.Deciding s s' →
      Alike R s s' (.read optionalClass isOptional vs) (.read optionalClass isOptional vs)
  | create {vs : List Value} : Alike R s s' (.create vs) (.create vs)
  | projection {kind : ProjectionKind} {vs : List Value} {distinct : Value} :
      (∀ v ∈ vs, v.Paired s s') → distinct.Deciding s s' →
      Alike R s s' (.projection kind vs distinct) (.projection kind vs distinct)
  | statement {nodes : List Value} : Alike R s s' (.statement nodes) (.statement nodes)
  | union {branches : List Value} : Alike R s s' (.union branches) (.union branches)
  | build {h : Nat} {b b' : Builder} : b.Alike R s s' b' → Alike R s s' (.build h b) (.build h b')
  | append {h : Nat} {v : Value} : Alike R s s' (.append h v) (.append h v)
  | keepDuplicates {h : Nat} {all : Value} : all.Deciding s s' →
      Alike R s s' (.keepDuplicates h all) (.keepDuplicates h all)

/-- Calls that differ only in literals go on together. -/
theorem agree_perform (like : s.Alike R s') {c c' : Construction} (alike : c.Alike R s s' c') :
    Agree R Same s s' c.perform c'.perform := by
  have standing : ∀ {m m' : Assembly Value}, Agree R Standing s s' m m' → Agree R Same s s' m m' :=
    fun h => h.imp fun _ _ _ h => h.1
  cases alike with
  | reference => exact agree_reference like _ _
  | node steady => exact agree_node like _ steady
  | relationship => exact agree_relationship like _ _
  | param related => exact agree_param like _ related
  | property => exact agree_property like _ _
  | propertyOf => exact agree_propertyOf like _ _
  | direction =>
    simp only [Construction.perform]
    split
    · exact Agree.pure like rfl
    · exact .throw like
  | nodeElement steady tabled =>
    refine (agree_nodeElement like _ steady tabled).bind ?_
    intro t t' n n' like _ _ alike
    exact agree_made like (.nodeElement alike)
  | relationshipElement deciding tabled =>
    refine (agree_relationshipElement like _ _ deciding tabled).bind ?_
    intro t t' r r' like _ _ alike
    exact agree_made like (.relationshipElement alike)
  | pattern steady tabled => exact agree_pattern like _ steady tabled
  | related deciding tabled => exact agree_related like _ _ _ deciding tabled
  | close steady tabled => exact agree_close like _ _ steady tabled
  | openChain found found' isElement => exact agree_openChain like found found' isElement
  | comparison exported left right => exact standing (agree_comparison like exported left right)
  | check exported operand => exact standing (agree_postCheck like exported operand)
  | junction exported operands => exact standing (agree_junction like exported operands)
  | negation operand => exact standing (agree_negation like operand)
  | call exported operands => exact standing (agree_call like exported operands)
  | read deciding => exact agree_read like _ deciding _
  | create => exact agree_create like _
  | projection paired deciding => exact agree_projection like _ paired deciding
  | statement => exact agree_statement like _
  | union => exact agree_union like _
  | build alike => exact agree_buildOn like _ alike
  | append => exact agree_append like _ _
  | keepDuplicates deciding => exact agree_keepDuplicates like _ deciding

end GraphQuery
