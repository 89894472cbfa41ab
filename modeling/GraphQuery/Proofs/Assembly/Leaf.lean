import GraphQuery.Assembly.Leaf
import GraphQuery.Proofs.Assembly.Agreement
import GraphQuery.Proofs.Assembly.Argument

/-!
Looking at objects, adding them and making leaves, in two runs.

* `Agree.onReference`, `Agree.param?`, `Agree.isExpression`: what two runs find behind a value.
* `agree_expression`: an operand becomes one value in both runs, a literal a parameter of its own.
* `agree_items`, `agree_labels`: what two runs find in a collection.
-/

namespace GraphQuery

open Assembly

/-- Two results are one value that stands in queries. -/
def Standing (s _ : Store) (a b : Value) : Prop := b = a ∧ s.Stands a

theorem stable_standing : Stable Standing := fun _ _ _ _ _ _ grows _ h => ⟨h.1, h.2.mono grows⟩

/-! ### What is behind a value -/

namespace Store

/-- The reference that a value stands for. -/
def reference? (s : Store) (v : Value) : Option Reference :=
  match s.object? v with
  | some (.reference r) => some r
  | _ => none

/-- The reference that a value stands for is behind it. -/
theorem object?_of_reference? {s : Store} {v : Value} {r : Reference}
    (h : s.reference? v = some r) : s.object? v = some (.reference r) := by
  unfold reference? at h
  cases found : s.object? v with
  | none =>
    rw [found] at h
    cases h
  | some o =>
    rw [found] at h
    cases o <;> cases h
    rfl

/-- The parameter that a value stands for. -/
def param? (s : Store) (v : Value) : Option Param :=
  match s.object? v with
  | some (.param p) => some p
  | _ => none

variable {R : Value → Value → Prop} {s s' : Store}

/-- Like stores have the same references. -/
theorem Alike.reference?_cases (like : s.Alike R s') (v : Value) :
    (s.reference? v = none ∧ s'.reference? v = none) ∨
    ∃ r, v = .object r.id ∧ s.reference? v = some r ∧ s'.reference? v = some r ∧
      r.Held s s' := by
  unfold reference?
  rcases like.object?_cases v with ⟨absent, absent'⟩ | ⟨h, o, o', rfl, found, found', alike⟩
  · exact .inl ⟨by rw [absent], by rw [absent']⟩
  · rw [found, found']
    cases alike with
    | reference eq =>
      subst eq
      exact .inr ⟨_, rfl, rfl, rfl, found, found'⟩
    | data isData isData' =>
      left
      cases o <;> cases isData <;> cases o' <;> cases isData' <;> exact ⟨rfl, rfl⟩
    | _ => exact .inl ⟨rfl, rfl⟩

/-- Like stores have parameters of the same handles. -/
theorem Alike.param?_cases (like : s.Alike R s') (v : Value) :
    (s.param? v = none ∧ s'.param? v = none) ∨
    ∃ p p', v = .object p.id ∧ s.param? v = some p ∧ s'.param? v = some p' ∧
      p.Alike s s' p' := by
  unfold param?
  rcases like.object?_cases v with ⟨absent, absent'⟩ | ⟨h, o, o', rfl, found, found', alike⟩
  · exact .inl ⟨by rw [absent], by rw [absent']⟩
  · rw [found, found']
    cases alike with
    | param related => exact .inr ⟨_, _, rfl, rfl, rfl, found, found'⟩
    | data isData isData' =>
      left
      cases o <;> cases isData <;> cases o' <;> cases isData' <;> exact ⟨rfl, rfl⟩
    | _ => exact .inl ⟨rfl, rfl⟩

end Store

section Looking

variable {R : Value → Value → Prop} {α β : Type} {Q : Store → Store → α → β → Prop} {s s' : Store}

theorem Agree.reference? {f : Option Reference → Assembly α} {g : Option Reference → Assembly β}
    {v v' : Value} (next : Agree R Q s s' (f (s.reference? v)) (g (s'.reference? v'))) :
    Agree R Q s s' (reference? v >>= f) (Assembly.reference? v' >>= g) := by
  have outcome_eq : ∀ {γ : Type} (s : Store) (v : Value) (k : Option Reference → Assembly γ),
      outcome (Assembly.reference? v >>= k).run s = outcome (k (s.reference? v)).run s := by
    intro γ s v k
    change outcome ((match s.object? v with
      | some (.reference r) => return some r
      | _ => return none) >>= k).run s = _
    unfold Store.reference?
    split <;> rfl
  exact next.congr (outcome_eq s v f) (outcome_eq s' v' g)

/-- A step that looks for a reference agrees if it does so where there is none, and with every
reference. -/
theorem Agree.onReference {f : Option Reference → Assembly α} {g : Option Reference → Assembly β}
    (like : s.Alike R s') {v : Value} (absent : Agree R Q s s' (f none) (g none))
    (present : ∀ r : Reference, r.Held s s' → Agree R Q s s' (f (some r)) (g (some r))) :
    Agree R Q s s' (Assembly.reference? v >>= f) (Assembly.reference? v >>= g) := by
  refine Agree.reference? ?_
  rcases like.reference?_cases v with ⟨nothing, nothing'⟩ | ⟨r, -, found, found', held⟩
  · rw [nothing, nothing']
    exact absent
  · rw [found, found']
    exact present r held

theorem Agree.param? {f : Option Param → Assembly α} {g : Option Param → Assembly β}
    {v v' : Value} (next : Agree R Q s s' (f (s.param? v)) (g (s'.param? v'))) :
    Agree R Q s s' (param? v >>= f) (Assembly.param? v' >>= g) := by
  have outcome_eq : ∀ {γ : Type} (s : Store) (v : Value) (k : Option Param → Assembly γ),
      outcome (Assembly.param? v >>= k).run s = outcome (k (s.param? v)).run s := by
    intro γ s v k
    change outcome ((match s.object? v with
      | some (.param p) => return some p
      | _ => return none) >>= k).run s = _
    unfold Store.param?
    split <;> rfl
  exact next.congr (outcome_eq s v f) (outcome_eq s' v' g)

/-- Where nothing is assigned, a value is found to be an expression just in case it stands in
queries. -/
theorem outcome_isExpression {s : Store} (unassigned : s.assignments = []) (v : Value) :
    ∃ b, outcome (isExpression v).run s = (.ok b, s) ∧ (b = true ↔ s.Stands v) := by
  cases v with
  | atom a mark =>
    refine ⟨false, rfl, ?_⟩
    simp [Store.Stands, Store.object?]
  | object h =>
    refine ⟨s.isCompilable h, rfl, ?_⟩
    have none := Store.assigned?_eq_none unassigned h Store.writingMethod
    simp [Store.isCompilable, Store.Stands, Store.object?, none, Option.any_eq_true]

/-- Two runs ask whether values stand in queries. -/
theorem Agree.isExpression {f : Bool → Assembly α} {g : Bool → Assembly β} {v v' : Value}
    (like : s.Alike R s') (iff : s'.Stands v' ↔ s.Stands v)
    (standing : s.Stands v → Agree R Q s s' (f true) (g true))
    (other : ¬ s.Stands v → Agree R Q s s' (f false) (g false)) :
    Agree R Q s s' (isExpression v >>= f) (Assembly.isExpression v' >>= g) := by
  have outcome_eq : ∀ {γ : Type} {s : Store} {v : Value} {b : Bool} (k : Bool → Assembly γ),
      outcome (Assembly.isExpression v).run s = (.ok b, s) →
        outcome (Assembly.isExpression v >>= k).run s = outcome (k b).run s := by
    intro γ s v b k eq
    change outcome (ExceptT.bindCont k (outcome (Assembly.isExpression v).run s).1)
      (outcome (Assembly.isExpression v).run s).2 = _
    rw [eq]
    rfl
  obtain ⟨b, eq, b_iff⟩ := outcome_isExpression like.unassigned v
  obtain ⟨b', eq', b_iff'⟩ := outcome_isExpression like.unassigned' v'
  obtain rfl : b' = b := by rw [Bool.eq_iff_iff, b_iff, b_iff', iff]
  refine Agree.congr (outcome_eq f eq) (outcome_eq g eq') ?_
  cases b' with
  | true => exact standing (b_iff.mp rfl)
  | false => exact other (by simpa using b_iff)

end Looking

/-! ### Adding objects -/

section Adding

variable {R : Value → Value → Prop} {s s' : Store}

/-- An object that knows its handle is added. -/
theorem agree_add (like : s.Alike R s') (o o' : Nat → Object)
    (alike : Object.Alike R s s' s.next (o s.next) (o' s.next)) :
    Agree R (fun t t' a b => b = a ∧ t.get? a = some (o a) ∧ t'.get? a = some (o' a)) s s'
      (add o) (add o') := by
  have eq : outcome (add o').run s' = (.ok s.next, s'.push (o' s.next)) := by
    change (Except.ok s'.next, s'.push (o' s'.next)) = _
    rw [like.next_eq]
  refine ⟨?_, .push s _, ?_, ?_⟩
  · rw [eq]
    exact like.push alike
  · rw [eq]
    exact .push s' _
  · rw [eq]
    refine .ok ⟨rfl, s.get?_push_next _, ?_⟩
    rw [← like.next_eq]
    exact s'.get?_push_next _

/-- An object is added, and the value that stands for it is the result. -/
theorem agree_made (like : s.Alike R s') {o o' : Object}
    (alike : Object.Alike R s s' s.next o o') : Agree R Same s s' (made o) (made o') := by
  refine (agree_add like (fun _ => o) (fun _ => o') alike).bind ?_
  rintro t t' a b like - - ⟨rfl, -, -⟩
  exact Agree.pure like rfl

/-- Literals are wrapped into parameters of one handle. -/
theorem agree_wrap (like : s.Alike R s') {v v' : Value} (related : R v v') :
    Agree R Param.Alike s s' (wrap v) (wrap v') := by
  refine (agree_add like _ _ (.param related)).bind ?_
  rintro t t' a b like - - ⟨rfl, found, found'⟩
  exact Agree.pure like ⟨found, found'⟩

/-- An object that can stand in a query is added. -/
theorem agree_madeStanding (like : s.Alike R s') {o o' : Object}
    (compilable : o.isCompilable = true) (alike : Object.Alike R s s' s.next o o') :
    Agree R Standing s s' (made o) (made o') := by
  refine (agree_add like (fun _ => o) (fun _ => o') alike).bind ?_
  rintro t t' a b like - - ⟨rfl, found, -⟩
  exact Agree.pure like ⟨rfl, o, found, compilable⟩

/-- Operands become one value that stands in queries. -/
theorem agree_expression (like : s.Alike R s') {v v' : Value} (operand : Operand R s s' v v') :
    Agree R Standing s s' (expression v) (expression v') := by
  cases operand with
  | standing stands =>
    exact Agree.isExpression like (like.stands_iff v) (fun _ => Agree.pure like ⟨rfl, stands⟩)
      fun absent => absurd stands absent
  | literal known known' absent absent' related =>
    refine Agree.isExpression like (iff_of_false absent' absent)
      (fun stands => absurd stands absent) fun _ => ?_
    refine (agree_wrap like related).bind ?_
    intro t t' p p' like _ _ alike
    exact Agree.pure like ⟨by rw [(like.param_eq alike).1], _, alike.found, rfl⟩

end Adding

/-! ### Checks -/

section Checks

variable (view view' : ObjectView) (role : String) (v : Value)

/-- A check that ends in the same way, however objects look. -/
theorem checkIdentifier_answers :
    Answers Eq (checkIdentifier view role v) (checkIdentifier view' role v) := by
  unfold checkIdentifier
  split
  · exact .ok rfl
  · cases v.quoted view <;> cases v.quoted view' <;> exact .error

theorem checkStem_answers : Answers Eq (checkStem view role v) (checkStem view' role v) := by
  unfold checkStem
  split
  · exact .ok rfl
  · rename_i given _
    have answers := checkIdentifier_answers view view' role given
    generalize checkIdentifier view role given = result at answers
    generalize checkIdentifier view' role given = result' at answers
    cases answers with
    | ok eq => exact .ok (congrArg some eq)
    | error => exact .error

theorem checkLabel_answers : Answers Eq (checkLabel view role v) (checkLabel view' role v) := by
  unfold checkLabel
  split
  · exact .ok rfl
  · cases v.quoted view <;> cases v.quoted view' <;> exact .error

theorem checkType_answers : Answers Eq (checkType view v) (checkType view' v) := by
  unfold checkType
  split
  · exact .ok rfl
  · exact .ok rfl
  · rename_i given _ _
    cases given.quoted view <;> cases given.quoted view' <;> exact .error

end Checks

/-! ### Collections -/

section Collections

variable {R : Value → Value → Prop} {s s' : Store} {v : Value}

/-- What a steady value holds is the same in both stores. -/
theorem Value.Steady.content_eq (steady : v.Steady s s') (like : s.Alike R s') :
    v.content s'.view = v.content s.view := by
  rcases like.object?_cases v with ⟨absent, absent'⟩ | ⟨h, o, o', rfl, found, found', alike⟩
  · cases v with
    | atom a mark => rfl
    | object h =>
      change s'.content h = s.content h
      rw [Store.content, Store.content, show s.get? h = none from absent,
        show s'.get? h = none from absent']
  · change s'.content h = s.content h
    rw [Store.content, Store.content, show s.get? h = some o from found,
      show s'.get? h = some o' from found']
    cases alike with
    | data isData isData' =>
      obtain rfl : o = o' := Option.some_inj.mp ((steady.data found isData).symm.trans found')
      rfl
    | _ => rfl

/-- A steady value runs through the same items in both stores. -/
theorem Value.Steady.items?_eq (steady : v.Steady s s') (like : s.Alike R s') :
    v.items? s'.view = v.items? s.view := by
  have content_eq := steady.content_eq like
  cases v with
  | atom a mark => cases a <;> rfl
  | object h =>
    change s'.view.content h = s.view.content h at content_eq
    simp only [Value.items?, content_eq]

/-- The fields of a record become the same pairs. -/
theorem agree_fieldPairs (like : s.Alike R s') (fields : List (String × Value)) :
    Agree R Same s s' (fieldPairs fields) (fieldPairs fields) :=
  Agree.mapM_same (A := fun _ _ _ => True) (fun _ _ h => h)
    (fun like _ => agree_made like (.data rfl rfl)) like fun _ _ => trivial

/-- A steady value holds the same items in both runs. -/
theorem agree_listed (like : s.Alike R s') (steady : v.Steady s s') :
    Agree R Same s s' (listed v) (listed v) := by
  refine Agree.view ?_
  rw [steady.items?_eq like]
  cases v.items? s.view with
  | some items => exact Agree.pure like rfl
  | none => exact .throw like

/-- A steady value gives both runs the same items. -/
theorem agree_items (like : s.Alike R s') (steady : v.Steady s s') :
    Agree R Same s s' (items v) (items v) := by
  have rest := agree_listed like steady
  refine Agree.onObject like rest fun o o' found found' alike => ?_
  cases alike with
  | data isData isData' =>
    obtain rfl : o = o' := Option.some_inj.mp ((steady.data found isData).symm.trans found')
    cases o with
    | compiled q =>
      refine (agree_made like (.data rfl rfl)).bind ?_
      rintro t t' params _ like - - rfl
      exact agree_fieldPairs like _
    | settings settings => exact agree_fieldPairs like _
    | _ => exact rest
  | _ => exact rest

/-- A steady value lists the same labels in both runs. -/
theorem agree_labels (like : s.Alike R s') (role : String) (steady : v.Steady s s') :
    Agree R Same s s' (labels role v) (labels role v) := by
  have label : ∀ {t t' : Store} (v : Value), t.Alike R t' →
      Agree R Same t t' (check fun view => checkLabel view role v)
        (check fun view => checkLabel view role v) := fun v like =>
    (Agree.checked like (checkLabel_answers _ _ role v)).imp fun _ _ _ eq => eq.symm
  unfold labels
  cases v.name? with
  | some n =>
    refine (label v like).bind ?_
    rintro t t' l _ like - - rfl
    exact Agree.pure like rfl
  | none =>
    refine (agree_items like steady).bind ?_
    rintro t t' items _ like - - rfl
    exact Agree.mapM_same (A := fun _ _ _ => True) (fun _ _ h => h)
      (fun like _ => label _ like) like fun _ _ => trivial

end Collections

/-! ### Leaves -/

section Leaves

variable {R : Value → Value → Prop} {s s' : Store}

/-- Both runs are suggested the same stem. -/
theorem Agree.stem {α β : Type} {Q : Store → Store → α → β → Prop} (like : s.Alike R s')
    (role : String) (stem : Value) {f : Option Name → Assembly α} {g : Option Name → Assembly β}
    (next : ∀ n, Agree R Q s s' (f n) (g n)) :
    Agree R Q s s' (Assembly.check (fun view => checkStem view role stem) >>= f)
      (Assembly.check (fun view => checkStem view role stem) >>= g) := by
  refine Agree.check like (checkStem_answers _ _ role stem) ?_
  rintro n _ rfl
  exact next n

/-- A reference is added. -/
theorem agree_addReference (like : s.Alike R s') (stem : Option Name) (is : RefClass) :
    Agree R Same s s' (return Value.object (← add fun h => .reference ⟨h, stem, is⟩))
      (return Value.object (← add fun h => .reference ⟨h, stem, is⟩)) := by
  refine (agree_add like (fun h => .reference ⟨h, stem, is⟩) (fun h => .reference ⟨h, stem, is⟩)
    (.reference rfl)).bind ?_
  rintro t t' h _ like - - ⟨rfl, -, -⟩
  exact Agree.pure like rfl

theorem agree_reference (like : s.Alike R s') (is : RefClass) (stem : Value) :
    Agree R Same s s' (reference is stem) (reference is stem) :=
  Agree.stem like _ stem fun n => agree_addReference like n is

theorem agree_node (like : s.Alike R s') (stem : Value) {labels? : Option Value}
    (steady : ∀ v, labels? = some v → v.Steady s s') :
    Agree R Same s s' (node stem labels?) (node stem labels?) := by
  refine Agree.stem like _ stem fun n => ?_
  have labels : Agree R Same s s' (labels?.elim (pure []) (labels labelRole))
      (labels?.elim (pure []) (Assembly.labels labelRole)) := by
    cases labels? with
    | none => exact Agree.pure like rfl
    | some v => exact agree_labels like labelRole (steady v rfl)
  refine labels.bind ?_
  rintro t t' labels _ like - - rfl
  exact agree_addReference like n _

theorem agree_relationship (like : s.Alike R s') (stem type : Value) :
    Agree R Same s s' (relationship stem type) (relationship stem type) := by
  refine Agree.stem like _ stem fun n => ?_
  refine Agree.check like (checkType_answers _ _ type) ?_
  rintro type _ rfl
  exact agree_addReference like n _

/-- A parameter for a literal is added, for different literals under one handle. -/
theorem agree_param (like : s.Alike R s') (stem : Value) {v v' : Value} (related : R v v') :
    Agree R Same s s' (param v stem) (param v' stem) := by
  refine Agree.stem like _ stem fun n => ?_
  refine (agree_add like _ _ (.param related)).bind ?_
  rintro t t' h _ like - - ⟨rfl, -, -⟩
  exact Agree.pure like rfl

theorem agree_pathStep (like : s.Alike R s') (v : Value) :
    Agree R Same s s' (pathStep v) (pathStep v) := by
  unfold pathStep
  split
  · exact Agree.pure like rfl
  · exact .refusedQuoted like

theorem agree_property (like : s.Alike R s') (base : Value) (path : List Value) :
    Agree R Same s s' (property base path) (property base path) := by
  unfold property
  split
  · exact .refused like
  · refine (Agree.mapM_same (A := fun _ _ _ => True) (fun _ _ h => h)
      (fun like _ => agree_pathStep like _) like fun _ _ => trivial).bind ?_
    rintro t t' names _ like - - rfl
    exact agree_made like (.expression .property)

theorem agree_propertyOf (like : s.Alike R s') (receiver : Value) (path : List Value) :
    Agree R Same s s' (propertyOf receiver path) (propertyOf receiver path) := by
  refine Agree.onObject like (.throw like) fun o o' _ _ alike => ?_
  cases alike with
  | expression exported =>
    cases exported with
    | property => exact agree_property like _ _
    | _ => exact .throw like
  | reference _ => exact agree_property like _ _
  | data isData isData' =>
    cases o <;> cases isData <;> cases o' <;> cases isData' <;> exact .throw like
  | _ => exact .throw like

end Leaves

end GraphQuery
