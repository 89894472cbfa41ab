import GraphQuery.Assembly.Basic
import GraphQuery.Proofs.Store.Likeness

/-!
Steps on like stores that go on together.

Two assembling steps agree on like stores if both succeed or both fail, the stores have grown and
are still alike, and the results are related. A step that looks at an object finds like ones in both
stores; a step that fails may say so in different words.

* `Together`: the judgement on steps that cannot fail, `Agree` on those that can.
* `Agree.bind`, `Agree.mapM`, `Together.whilePassing`: steps one after another.
* `Fails`: a step that fails and leaves the store alone. `Agree.throw`, `Agree.refused` and the like:
  failing steps agree.
* `Agree.onObject`: steps that look at an object.
-/

namespace GraphQuery

open Assembly

/-- Two answers are related: both are results, or both are faults. -/
inductive Answers {α β : Type} (Q : α → β → Prop) : Except Fault α → Except Fault β → Prop where
  | ok {a : α} {b : β} : Q a b → Answers Q (.ok a) (.ok b)
  | error {f g : Fault} : Answers Q (.error f) (.error g)

theorem Answers.imp {α β : Type} {P Q : α → β → Prop} (weaker : ∀ a b, P a b → Q a b)
    {r : Except Fault α} {r' : Except Fault β} (h : Answers P r r') : Answers Q r r' := by
  cases h with
  | ok related => exact .ok (weaker _ _ related)
  | error => exact .error

/-- What a step on the store comes to. -/
abbrev outcome {α : Type} (m : StateM Store α) (s : Store) : α × Store := m s

section Judgements

variable {α β γ δ : Type}

/-- Two steps go on together from two stores. -/
structure Together (R : Value → Value → Prop) (Q : Store → Store → α → β → Prop) (s s' : Store)
    (m : StateM Store α) (m' : StateM Store β) : Prop where
  alike : Store.Alike R (outcome m s).2 (outcome m' s').2
  grows : s.Grows (outcome m s).2
  grows' : s'.Grows (outcome m' s').2
  results : Q (outcome m s).2 (outcome m' s').2 (outcome m s).1 (outcome m' s').1

/-- Two steps that can fail go on together. -/
def Agree (R : Value → Value → Prop) (Q : Store → Store → α → β → Prop) (s s' : Store)
    (m : Assembly α) (m' : Assembly β) : Prop :=
  Together R (fun t t' => Answers (Q t t')) s s' m.run m'.run

/-- A relation on what is found in two stores that goes on when the stores grow. -/
def Stable (Q : Store → Store → α → β → Prop) : Prop :=
  ∀ ⦃s s' t t' a b⦄, s.Grows t → s'.Grows t' → Q s s' a b → Q t t' a b

/-- Two results are one. -/
def Same (_ _ : Store) (a b : α) : Prop := b = a

theorem stable_same : Stable (Same (α := α)) := fun _ _ _ _ _ _ _ _ h => h

variable {R : Value → Value → Prop} {P : Store → Store → α → β → Prop}
  {Q : Store → Store → γ → δ → Prop} {s s' : Store}

/-! ### One step after another -/

namespace Together

theorem pure {a : α} {b : β} (like : s.Alike R s') (related : P s s' a b) :
    Together R P s s' (Pure.pure a) (Pure.pure b) :=
  ⟨like, .refl s, .refl s', related⟩

theorem bind {m : StateM Store α} {m' : StateM Store β} {f : α → StateM Store γ}
    {g : β → StateM Store δ} (first : Together R P s s' m m')
    (next : ∀ {t t' a b}, t.Alike R t' → s.Grows t → s'.Grows t' → P t t' a b →
      Together R Q t t' (f a) (g b)) :
    Together R Q s s' (m >>= f) (m' >>= g) := by
  have second := next first.alike first.grows first.grows' first.results
  exact ⟨second.alike, first.grows.trans second.grows, first.grows'.trans second.grows',
    second.results⟩

theorem imp {P' : Store → Store → α → β → Prop} {m : StateM Store α} {m' : StateM Store β}
    (h : Together R P s s' m m')
    (weaker : ∀ {t t' a b}, t.Alike R t' → s.Grows t → s'.Grows t' → P t t' a b → P' t t' a b) :
    Together R P' s s' m m' :=
  ⟨h.alike, h.grows, h.grows', weaker h.alike h.grows h.grows' h.results⟩

end Together

namespace Agree

theorem pure {a : α} {b : β} (like : s.Alike R s') (related : P s s' a b) :
    Agree R P s s' (Pure.pure a) (Pure.pure b) :=
  Together.pure like (.ok related)

theorem bind {m : Assembly α} {m' : Assembly β} {f : α → Assembly γ} {g : β → Assembly δ}
    (first : Agree R P s s' m m')
    (next : ∀ {t t' a b}, t.Alike R t' → s.Grows t → s'.Grows t' → P t t' a b →
      Agree R Q t t' (f a) (g b)) :
    Agree R Q s s' (m >>= f) (m' >>= g) := by
  change Together R _ s s' (m.run >>= ExceptT.bindCont f) (m'.run >>= ExceptT.bindCont g)
  refine Together.bind first ?_
  rintro t t' a b like grows grows' (related | _)
  · exact next like grows grows' related
  · exact Together.pure like .error

theorem imp {P' : Store → Store → α → β → Prop} {m : Assembly α} {m' : Assembly β}
    (h : Agree R P s s' m m')
    (weaker : ∀ {t t' a b}, t.Alike R t' → s.Grows t → s'.Grows t' → P t t' a b → P' t t' a b) :
    Agree R P' s s' m m' := by
  refine Together.imp h fun like grows grows' answers => ?_
  exact answers.imp fun _ _ related => weaker like grows grows' related

/-- Steps that come to the same as agreeing ones agree. -/
theorem congr {m n : Assembly α} {m' n' : Assembly β} (eq : outcome m.run s = outcome n.run s)
    (eq' : outcome m'.run s' = outcome n'.run s') (h : Agree R P s s' n n') :
    Agree R P s s' m m' := by
  obtain ⟨like, grows, grows', results⟩ := h
  rw [← eq] at like grows results
  rw [← eq'] at like grows' results
  exact ⟨like, grows, grows', results⟩

/-- What is settled in the same way in both stores. -/
theorem settle {Q : α → β → Prop} {r : Except Fault α} {r' : Except Fault β}
    (like : s.Alike R s') (answers : Answers Q r r') :
    Agree R (fun t t' a b => t = s ∧ t' = s' ∧ Q a b) s s' (settle r) (Assembly.settle r') := by
  cases answers with
  | ok related => exact pure like ⟨rfl, rfl, related⟩
  | error => exact Together.pure like .error

end Agree

/-! ### Steps that fail -/

/-- A step fails and leaves the store alone. -/
def Fails (s : Store) (m : Assembly α) : Prop := ∃ f, outcome m.run s = (.error f, s)

/-- A step leaves the store alone. -/
def Reads (m : Assembly α) : Prop := ∀ s, (outcome m.run s).2 = s

/-- Two failing steps agree on everything. -/
theorem Agree.of_fails {m : Assembly α} {m' : Assembly β} (like : s.Alike R s') (fails : Fails s m)
    (fails' : Fails s' m') : Agree R P s s' m m' := by
  obtain ⟨f, eq⟩ := fails
  obtain ⟨f', eq'⟩ := fails'
  constructor <;> simp only [eq, eq']
  · exact like
  · exact .refl s
  · exact .refl s'
  · exact .error

namespace Fails

theorem throw (s : Store) (f : Fault) : Fails s (MonadExcept.throw f : Assembly α) := ⟨f, rfl⟩

theorem refuse (s : Store) (cause : Refusal) : Fails s (refuse cause : Assembly α) := ⟨_, rfl⟩

theorem bind {m : Assembly α} (fails : Fails s m) (f : α → Assembly γ) : Fails s (m >>= f) := by
  obtain ⟨fault, eq⟩ := fails
  refine ⟨fault, ?_⟩
  change outcome (m.run >>= ExceptT.bindCont f) s = _
  change outcome (ExceptT.bindCont f (outcome m.run s).1) (outcome m.run s).2 = _
  rw [eq]
  rfl

/-- Whatever is read before, a step fails. -/
theorem after {m : Assembly α} {f : α → Assembly γ} (reads : Reads m)
    (fails : ∀ a, Fails s (f a)) : Fails s (m >>= f) := by
  change ∃ fault, outcome (ExceptT.bindCont f (outcome m.run s).1) (outcome m.run s).2 = _
  rw [reads s]
  cases (outcome m.run s).1 with
  | ok a => exact fails a
  | error fault => exact ⟨fault, rfl⟩

/-- A step fails after one that has found something out. -/
theorem after_ok {m : Assembly α} {a : α} {f : α → Assembly γ} (eq : outcome m.run s = (.ok a, s))
    (fails : Fails s (f a)) : Fails s (m >>= f) := by
  change ∃ fault, outcome (ExceptT.bindCont f (outcome m.run s).1) (outcome m.run s).2 = _
  rw [eq]
  exact fails

end Fails

theorem reads_check (c : ObjectView → Except Fault α) : Reads (check c) := by
  intro s
  change (outcome (settle (c s.view)).run s).2 = s
  cases c s.view with
  | ok a => rfl
  | error f => rfl

theorem reads_quoted (v : Value) : Reads (quoted v) := reads_check v.quoted

theorem reads_typeName (v : Value) : Reads (typeName v) := fun _ => rfl

namespace Agree

variable (like : s.Alike R s')
include like

theorem throw {f f' : Fault} :
    Agree R P s s' (MonadExcept.throw f : Assembly α) (MonadExcept.throw f' : Assembly β) :=
  .of_fails like (.throw s f) (.throw s' f')

/-- Two refusals agree, whatever was to follow. -/
theorem refused {cause cause' : Refusal} {f : α → Assembly γ} {g : β → Assembly δ} :
    Agree R Q s s' (refuse cause >>= f) (refuse cause' >>= g) :=
  .of_fails like (.bind (.refuse s cause) f) (.bind (.refuse s' cause') g)

/-- Two refusals that quote a value agree. -/
theorem refusedQuoted {v v' : Value} {cause cause' : String → Refusal} :
    Agree R P s s' (do refuse (cause (← quoted v))) (do refuse (cause' (← quoted v'))) :=
  .of_fails like (.after (reads_quoted v) fun _ => .refuse s _)
    (.after (reads_quoted v') fun _ => .refuse s' _)

/-- Two refusals that name the class of a value agree. -/
theorem refusedTyped {v v' : Value} {cause cause' : String → Refusal} :
    Agree R P s s' (do refuse (cause (← typeName v))) (do refuse (cause' (← typeName v'))) :=
  .of_fails like (.after (reads_typeName v) fun _ => .refuse s _)
    (.after (reads_typeName v') fun _ => .refuse s' _)

end Agree

/-! ### Steps that look at objects -/

section Looking

variable {f : Option Object → Assembly γ} {g : Option Object → Assembly δ}

theorem Agree.object? {v v' : Value}
    (next : Agree R Q s s' (f (s.object? v)) (g (s'.object? v'))) :
    Agree R Q s s' (object? v >>= f) (Assembly.object? v' >>= g) := by
  refine Agree.congr ?_ ?_ next <;> rfl

/-- A step that looks at an object agrees if it does so where there is none, and at like objects. -/
theorem Agree.onObject (like : s.Alike R s') {v : Value}
    (absent : Agree R Q s s' (f none) (g none))
    (present : ∀ {h : Nat} (o o' : Object), s.object? v = some o → s'.object? v = some o' →
      Object.Alike R s s' h o o' → Agree R Q s s' (f (some o)) (g (some o'))) :
    Agree R Q s s' (Assembly.object? v >>= f) (Assembly.object? v >>= g) := by
  refine Agree.object? ?_
  rcases like.object?_cases v with ⟨nothing, nothing'⟩ | ⟨h, o, o', -, found, found', alike⟩
  · rw [nothing, nothing']
    exact absent
  · rw [found, found']
    exact present o o' found found' alike

theorem Agree.get {f : Store → Assembly γ} {g : Store → Assembly δ}
    (next : Agree R Q s s' (f s) (g s')) : Agree R Q s s' (get >>= f) (get >>= g) := by
  refine Agree.congr ?_ ?_ next <;> rfl

theorem Agree.view {f : ObjectView → Assembly γ} {g : ObjectView → Assembly δ}
    (next : Agree R Q s s' (f s.view) (g s'.view)) :
    Agree R Q s s' (view >>= f) (Assembly.view >>= g) := by
  refine Agree.congr ?_ ?_ next <;> rfl

/-- A check that ends in the same way, as the last step. -/
theorem Agree.checked {P : γ → δ → Prop} {c : ObjectView → Except Fault γ}
    {c' : ObjectView → Except Fault δ} (like : s.Alike R s')
    (answers : Answers P (c s.view) (c' s'.view)) :
    Agree R (fun _ _ => P) s s' (Assembly.check c) (Assembly.check c') :=
  Agree.view ((Agree.settle like answers).imp fun _ _ _ h => h.2.2)

/-- Checks that end in the same way. -/
theorem Agree.check {P : α → β → Prop} {c : ObjectView → Except Fault α}
    {c' : ObjectView → Except Fault β} {f : α → Assembly γ} {g : β → Assembly δ}
    (like : s.Alike R s') (answers : Answers P (c s.view) (c' s'.view))
    (next : ∀ a b, P a b → Agree R Q s s' (f a) (g b)) :
    Agree R Q s s' (check c >>= f) (Assembly.check c' >>= g) := by
  change Agree R Q s s' (Assembly.view >>= fun view => Assembly.settle (c view) >>= f)
    (Assembly.view >>= fun view => Assembly.settle (c' view) >>= g)
  refine Agree.view ((Agree.settle like answers).bind ?_)
  rintro t t' a b - - - ⟨rfl, rfl, related⟩
  exact next a b related

end Looking

/-! ### Lists of steps -/

/-- Steps on related items, one after another. What was related stays related while the stores
grow. -/
theorem Agree.mapM {A : Store → Store → α → β → Prop} (stable : Stable A) (stable' : Stable Q)
    {f : α → Assembly γ} {g : β → Assembly δ}
    (step : ∀ {t t' a b}, t.Alike R t' → A t t' a b → Agree R Q t t' (f a) (g b))
    {as : List α} {bs : List β} (like : s.Alike R s') (items : List.Forall₂ (A s s') as bs) :
    Agree R (fun t t' => List.Forall₂ (Q t t')) s s' (as.mapM f) (bs.mapM g) := by
  induction as generalizing s s' bs with
  | nil =>
    cases items
    exact Agree.pure like .nil
  | cons a as ih =>
    cases items with
    | cons item items =>
      rw [List.mapM_cons, List.mapM_cons]
      refine (step like item).bind fun like grows grows' first => ?_
      refine (ih like (items.imp fun _ _ h => stable grows grows' h)).bind ?_
      intro _ _ _ _ like grows grows' others
      exact Agree.pure like (.cons (stable' grows grows' first) others)

/-- Steps on the same items with the same results, one after another. -/
theorem Agree.mapM_same {A : Store → Store → α → Prop} {f g : α → Assembly γ}
    (stable : ∀ {s s' t t' a}, s.Grows t → s'.Grows t' → A s s' a → A t t' a)
    (step : ∀ {t t' a}, t.Alike R t' → A t t' a → Agree R Same t t' (f a) (g a))
    {as : List α} (like : s.Alike R s') (items : ∀ a ∈ as, A s s' a) :
    Agree R Same s s' (as.mapM f) (as.mapM g) := by
  refine (Agree.mapM (A := fun t t' a b => b = a ∧ A t t' a) ?_ stable_same ?_ like ?_).imp ?_
  · exact fun _ _ _ _ _ _ grows grows' h => ⟨h.1, stable grows grows' h.2⟩
  · rintro t t' a _ like ⟨rfl, item⟩
    exact step like item
  · exact List.forall₂_same.mpr fun a mem => ⟨rfl, items a mem⟩
  · intro _ _ cs cs' _ _ _ results
    induction results with
    | nil => rfl
    | cons eq _ ih => exact congrArg₂ List.cons eq ih

/-- Steps on items as far as they pass. What is known of the items still to come is not lost on
the way. -/
theorem Together.whilePassing {A : Store → Store → Value → Value → Prop} (stable' : Stable Q)
    {f : Value → Assembly γ} {g : Value → Assembly δ}
    (step : ∀ {t t' v v'}, t.Alike R t' → A t t' v v' → Agree R
      (fun u u' a b => Q u u' a b ∧ ∀ w w', A t t' w w' → A u u' w w') t t' (f v) (g v'))
    {vs vs' : List Value} (like : s.Alike R s') (items : List.Forall₂ (A s s') vs vs') :
    Together R (fun t t' r r' => List.Forall₂ (Q t t') r.1 r'.1 ∧ r.2.isSome = r'.2.isSome) s s'
      (whilePassing f vs) (Assembly.whilePassing g vs') := by
  induction vs generalizing s s' vs' with
  | nil =>
    cases items
    exact Together.pure like ⟨.nil, rfl⟩
  | cons v vs ih =>
    cases items with
    | cons item items =>
      unfold Assembly.whilePassing
      refine Together.bind (step like item) ?_
      rintro t t' r r' like grows grows' (⟨first, kept⟩ | _)
      · refine (ih like (items.imp fun _ _ h => kept _ _ h)).bind ?_
        rintro _ _ ⟨_, _⟩ ⟨_, _⟩ like grows grows' ⟨others, faults⟩
        exact Together.pure like ⟨.cons (stable' grows grows' first) others, faults⟩
      · exact Together.pure like ⟨.nil, rfl⟩

end Judgements

end GraphQuery
