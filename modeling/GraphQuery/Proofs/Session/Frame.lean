import GraphQuery.Proofs.Session.Step
import GraphQuery.Proofs.Store.Growth
import GraphQuery.Session.Request
import Mathlib.Order.Defs.Unbundled

/-!
What steps leave alone.

A step leads from every state to one that is related to it, and it does so part by part: if each part
of a step does, and the relation is a preorder, then the step does. Where a step fails, what was done
until then counts as well.

Calls that configure work on the settings and on the process environment. Those that only consult the
settings add objects and change none, the others change records of settings; all other objects stay
as they were.

* `Leads`: a step is of a kind.
* `Session.Adds`, `Session.AddsQuietly`: nothing is changed but added, and the log channel is
  untouched.
* `Session.IsSound`, `Session.Reconfigured`: what calls that configure rely on and keep.
* `Session.after`: the session after calls, with the laws for runs.
-/

namespace GraphQuery

/-! ### Steps part by part -/

/-- A step leads to states that are related to the one that it starts in, also where it fails. -/
def Leads {σ α : Type} (R : σ → σ → Prop) (m : ExceptT Fault (StateM σ) α) : Prop :=
  ∀ s, R s (m.run.run s).2

namespace Leads

variable {σ α β : Type} {R : σ → σ → Prop} [IsPreorder σ R] {m : ExceptT Fault (StateM σ) α}
  {f : α → ExceptT Fault (StateM σ) β}

theorem pure (a : α) : Leads R (Pure.pure a) := fun s => refl_of R s

theorem throw (fault : Fault) : Leads R (MonadExcept.throw fault : ExceptT Fault (StateM σ) α) :=
  fun s => refl_of R s

theorem get : Leads R (MonadState.get : ExceptT Fault (StateM σ) σ) := fun s => refl_of R s

/-- One part after another. What would come after a failure is not looked at. -/
theorem bind (first : Leads R m) (next : ∀ a, Leads R (f a)) : Leads R (m >>= f) := by
  intro s
  change R s (ExceptT.bindCont f (m.run.run s).1 (m.run.run s).2).2
  cases (m.run.run s).1 with
  | ok a => exact trans_of R (first s) (next a _)
  | error fault => exact first s

theorem map (leads : Leads R m) (g : α → β) : Leads R (g <$> m) :=
  leads.bind fun a => pure (g a)

theorem mapM {g : α → ExceptT Fault (StateM σ) β} (step : ∀ a, Leads R (g a)) (as : List α) :
    Leads R (as.mapM g) := by
  induction as with
  | nil => exact pure _
  | cons a rest ih =>
    rw [List.mapM_cons]
    exact (step a).bind fun _ => ih.bind fun _ => pure _

theorem forM {g : α → ExceptT Fault (StateM σ) PUnit} (step : ∀ a, Leads R (g a)) (as : List α) :
    Leads R (as.forM g) := by
  induction as with
  | nil => exact pure _
  | cons a rest ih => exact (step a).bind fun _ => ih

end Leads

/-! ### Adding -/

/-- A store has further objects, and nothing else has happened to it. -/
structure Store.Extends (s t : Store) : Prop where
  kept : ∀ ⦃h o⦄, s.get? h = some o → t.get? h = some o
  assignments : t.assignments = s.assignments

instance : IsPreorder Store Store.Extends where
  refl _ := ⟨fun _ _ found => found, rfl⟩
  trans _ _ _ first second :=
    ⟨fun _ _ found => second.kept (first.kept found), second.assignments.trans first.assignments⟩

/-- There are not fewer objects than before. -/
theorem Store.Extends.next_le {s t : Store} (grown : s.Extends t) : s.next ≤ t.next := by
  refine Nat.le_of_not_lt fun fewer => ?_
  obtain ⟨o, found⟩ := Store.exists_get? fewer
  exact Nat.lt_irrefl _ (Store.lt_of_get? (grown.kept found))

theorem Store.extends_push (s : Store) (o : Object) : s.Extends (s.push o) where
  kept h o' found := by rw [s.get?_push_of_lt (Store.lt_of_get? found), found]
  assignments := rfl

namespace Session

/-- Objects have been added to a session, and what was there is there as it was. -/
structure Adds (s t : Session) : Prop where
  store : s.store.Extends t.store
  current : t.current? = s.current?

/-- In addition, nothing has happened to the log channel. -/
structure AddsQuietly (s t : Session) : Prop extends s.Adds t where
  channel : t.channel = s.channel

instance : IsPreorder Session AddsQuietly where
  refl s := ⟨⟨refl_of Store.Extends s.store, rfl⟩, rfl⟩
  trans _ _ _ first second :=
    ⟨⟨trans_of Store.Extends first.store second.store, second.current.trans first.current⟩,
      second.channel.trans first.channel⟩

end Session

section Reading

variable {α : Type} {R : Session → Session → Prop} [IsPreorder Session R]

theorem leads_view : Leads R Operation.view := fun s => refl_of R s

theorem leads_settle (r : Except Fault α) : Leads R (Operation.settle r) := by
  cases r with
  | ok a => exact .pure a
  | error fault => exact .throw fault

theorem leads_check (c : ObjectView → Except Fault α) : Leads R (Operation.check c) :=
  leads_view.bind fun _ => leads_settle _

theorem leads_text (v : Value) : Leads R (Operation.text v) := by
  unfold Operation.text
  split
  · exact .pure _
  · exact .throw _

theorem leads_settings : Leads R Operation.settings := by
  refine Leads.get.bind fun s => ?_
  split
  · exact .pure _
  · exact .throw _

theorem leads_givenStems (v : Value) : Leads R (Operation.givenStems v) := by
  refine leads_view.bind fun view => ?_
  split
  · exact .pure _
  · refine .mapM (fun entry => ?_) _
    split
    · exact .pure _
    · exact .throw _
  · exact .throw _

end Reading

/-! ### Steps that add -/

section Adding

open Assembly

theorem leads_add (o : Nat → Object) : Leads Store.Extends (add o) :=
  fun s => s.extends_push _

theorem leads_made (o : Object) : Leads Store.Extends (made o) :=
  (leads_add _).bind fun _ => .pure _

theorem leads_record (fields : List (String × Value)) : Leads Store.Extends (record fields) :=
  leads_made _

theorem leads_finding (f : Finding) : Leads Store.Extends (finding f) := leads_record _

/-- A report on the health is made of new objects. -/
theorem leads_report_health (h : Health) : Leads Store.Extends (Assembly.report h) := by
  refine .bind (.mapM leads_finding _) fun errors => .bind (leads_made _) fun _ => ?_
  refine .bind (.mapM leads_finding _) fun warnings => .bind (leads_made _) fun _ => ?_
  exact .bind (leads_made _) fun _ => .bind (leads_record _) fun _ => leads_record _

theorem leads_compilable (v : Value) : Leads Store.Extends (compilable v) := by
  have reads : Leads Store.Extends (object? v) := fun s => refl_of _ s
  refine reads.bind fun o? => ?_
  split
  · unfold handle
    split
    · exact .pure _
    · exact .throw _
  · exact fun s => refl_of _ s

end Adding

namespace Session

theorem addsQuietly_reported (s : Session) (events : List Event) (log : String) :
    s.AddsQuietly { s with events := events, log := log } :=
  ⟨⟨refl_of Store.Extends s.store, rfl⟩, rfl⟩

theorem addsQuietly_vars (s : Session) (vars : List (String × String)) :
    s.AddsQuietly { s with vars := vars } :=
  ⟨⟨refl_of Store.Extends s.store, rfl⟩, rfl⟩

end Session

section Operations

open Operation Session

theorem leads_assemble {α : Type} {step : Assembly α} (leads : Leads Store.Extends step) :
    Leads AddsQuietly (assemble step) := by
  intro s
  change s.AddsQuietly (s.outcome (assemble step)).2
  rw [outcome_assemble]
  exact ⟨⟨leads s.store, rfl⟩, rfl⟩

theorem leads_freshMark : Leads AddsQuietly freshMark :=
  fun s => ⟨⟨refl_of Store.Extends s.store, rfl⟩, rfl⟩

theorem leads_give (logger : String) (r : LogRecord) : Leads AddsQuietly (give logger r) := by
  intro s
  change s.AddsQuietly (s.outcome (give logger r)).2
  rw [outcome_give]
  split
  · exact s.addsQuietly_reported _ _
  · exact refl_of AddsQuietly s

theorem leads_giveEvent (told : Value) (e : Event) (aboutError : Bool) :
    Leads AddsQuietly (giveEvent told e aboutError) := by
  refine Leads.get.bind fun s => ?_
  dsimp only
  split
  · split
    · exact leads_view.bind fun view => leads_give _ _
    · exact .throw _
  · exact .pure _

/-- Reporting leaves the objects, the settings and the channel alone. -/
theorem leads_report (e : Event) : Leads AddsQuietly (report e) := by
  refine Leads.get.bind fun s => ?_
  split
  · exact fun t => t.addsQuietly_reported _ _
  · exact leads_giveEvent _ _ _

theorem leads_getSetting (key : Value) : Leads AddsQuietly (getSetting key) := by
  refine (leads_text key).bind fun name => Leads.get.bind fun s => ?_
  split
  · split
    · exact .throw _
    · exact .pure _
  · exact leads_settle _
  · exact .throw _

theorem leads_newSettings (given : List (String × Value)) :
    Leads AddsQuietly (newSettings given) := by
  refine leads_view.bind fun view => Leads.get.bind fun s => (leads_settle _).bind fun vars => ?_
  refine leads_freshMark.bind fun mark => (leads_settle _).bind fun settings => ?_
  exact leads_assemble (leads_made _)

theorem leads_health : Leads AddsQuietly health := by
  refine Leads.get.bind fun s => ?_
  split
  · exact leads_assemble (leads_report_health _)
  · refine leads_settings.bind fun fields => (leads_check _).bind fun h => ?_
    exact leads_assemble (leads_report_health h)

theorem leads_setVariable (name v : Value) : Leads AddsQuietly (setVariable name v) := by
  refine (leads_text name).bind fun name => (leads_text v).bind fun text => ?_
  dsimp only
  split
  · exact .throw _
  · split
    · exact .throw _
    · exact fun s => s.addsQuietly_vars _

theorem leads_unsetVariable (name : Value) : Leads AddsQuietly (unsetVariable name) :=
  (leads_text name).bind fun _ s => s.addsQuietly_vars _

theorem leads_newEnvironment (stems bareFirst separator : Value) :
    Leads AddsQuietly (newEnvironment stems bareFirst separator) := by
  refine (leads_givenStems stems).bind fun given => leads_settings.bind fun settings => ?_
  exact leads_freshMark.bind fun mark => leads_assemble (leads_made _)

theorem leads_compile (v : Value) : Leads AddsQuietly (compile v) := by
  refine (leads_assemble (leads_compilable v)).bind fun h => leads_settings.bind fun settings => ?_
  refine Leads.get.bind fun s => (Leads.forM leads_report _).bind fun _ => ?_
  exact (leads_settle _).bind fun q => leads_assemble (leads_made _)

/-- The report that the channel was set up. -/
theorem leads_reportConfigured (level v : Value) : Leads AddsQuietly (do
    let settings ← settings
    report (.configured (Text.uppercase (level.text?.getD "")) (settings.value .richLogging))
    return v) :=
  leads_settings.bind fun _ => (leads_report _).bind fun _ => .pure _

/-- Setting up the channel changes the channel, and what follows adds a handler and reports. -/
theorem addsQuietly_setUpLogging (s : Session) (level : Value) :
    let channel := (s.channel.setUp s.store.view s.settings? level s.store.next).1
    ({ s with channel := channel }).AddsQuietly (s.outcome (setUpLogging level)).2 := by
  intro channel
  have rest : Leads AddsQuietly (do
      let handler ← settle (s.channel.setUp s.store.view s.settings? level s.store.next).2
      let v ← assemble (Assembly.made (.handler handler))
      let settings ← settings
      report (.configured (Text.uppercase (level.text?.getD "")) (settings.value .richLogging))
      return v) := by
    refine (leads_settle _).bind fun handler => (leads_assemble (leads_made _)).bind fun v => ?_
    exact leads_reportConfigured level v
  exact rest { s with channel := channel }

end Operations

/-! ### Calls that configure -/

namespace Request

/-- The call reads settings, the process environment or the health of both, makes records of
settings, environments or compiled queries, or sets up the log channel. It leaves the current
settings alone. -/
def consults : Request → Bool
  | getSetting _ | settings _ | health | setVariable .. | unsetVariable _ | environment ..
  | setUpLogging _ | compile _ => true
  | _ => false

/-- The call consults the settings or changes them. -/
def configures : Request → Bool
  | setSetting .. | reload | clearSettings => true
  | r => r.consults

/-- The level that a call asks for which sets up the log channel. -/
def level? : Request → Option Value
  | setUpLogging level => some level
  | _ => none

/-- What only consults adds objects and does nothing else, but for the log channel. -/
theorem addsQuietly_perform {r : Request} (consults : r.consults = true) (other : r.level? = none) :
    Leads Session.AddsQuietly r.perform := by
  cases r with
  | getSetting key => exact (leads_getSetting key).map _
  | settings given => exact (leads_newSettings given).map _
  | health => exact leads_health.map _
  | setVariable name v => exact (leads_setVariable name v).map _
  | unsetVariable name => exact (leads_unsetVariable name).map _
  | environment stems bareFirst separator =>
    exact (leads_newEnvironment stems bareFirst separator).map _
  | compile v => exact (leads_compile v).map _
  | setUpLogging level => cases other
  | _ => cases consults

/-- The same of all that only consults, apart from the log channel. -/
theorem adds_perform {r : Request} (consults : r.consults = true) (s : Session) :
    s.Adds (s.outcome r.perform).2 := by
  cases level : r.level? with
  | none => exact (addsQuietly_perform consults level s).toAdds
  | some level =>
    cases r with
    | setUpLogging asked =>
      have adds := (addsQuietly_setUpLogging s asked).toAdds
      rw [perform, Session.outcome_map]
      exact ⟨adds.store, adds.current⟩
    | _ => cases level

end Request

namespace Session

/-- The current settings are a record of settings, and no attributes are assigned to objects that
are not there. -/
structure IsSound (s : Session) : Prop where
  current : ∀ ⦃h⦄, s.current? = some h → ∃ v, s.store.get? h = some (.settings v)
  assigned : ∀ a ∈ s.store.assignments, a.holder < s.store.next

theorem isSound_initial : initial.IsSound := by
  constructor
  · intro h current
    cases current
    exact ⟨_, rfl⟩
  · intro a mem
    cases mem

/-- A later session that is sound, in which records of settings may have changed, but no other
objects. -/
structure Reconfigured (s t : Session) : Prop where
  kept : ∀ ⦃h o⦄, s.store.get? h = some o → (∀ v, o ≠ .settings v) → t.store.get? h = some o
  sound : t.IsSound

variable {s t u : Session}

theorem Reconfigured.trans (first : s.Reconfigured t) (second : t.Reconfigured u) :
    s.Reconfigured u where
  kept _ _ found other := second.kept (first.kept found other) other
  sound := second.sound

/-- What only adds leaves all records of settings alone as well. -/
theorem Adds.reconfigured (adds : s.Adds t) (sound : s.IsSound) : s.Reconfigured t where
  kept _ _ found _ := adds.store.kept found
  sound := by
    constructor
    · intro h current
      obtain ⟨v, found⟩ := sound.current (adds.current.symm.trans current)
      exact ⟨v, adds.store.kept found⟩
    · rw [adds.store.assignments]
      exact fun a mem => Nat.lt_of_lt_of_le (sound.assigned a mem) adds.store.next_le

end Session

/-! ### Calls that change settings -/

section Changes

open Operation Session

variable {s : Session}

/-- A session with a record of settings in which a field was set. -/
def Session.withSettings (s : Session) (h : Nat) (settings : Settings) (field : Setting)
    (v : Value) : Session :=
  { s with store :=
      (s.store.replace h (.settings (settings.set field v))).noteAssignment h field.name v }

/-- Assigning a field of a record of settings sets it, whatever the value, and is noted. -/
theorem outcome_assignAttribute {h : Nat} {settings : Settings} (field : Setting) (v : Value)
    (found : s.store.get? h = some (.settings settings)) :
    s.outcome (assignAttribute h field.name v) = (.ok (), s.withSettings h settings field v) := by
  have plain : looseAttributes.contains field.name = false ∧ field.name ≠ Object.classAttribute ∧
      field.name ≠ Object.tableAttribute ∧ field.name ≠ Object.placeAttribute ∧
      isOwnMatter field.name = false ∧ Setting.ofName? field.name = some field := by
    cases field <;> decide
  obtain ⟨own, notClass, notTable, notPlace, notOwn, named⟩ := plain
  have assigned : (Object.settings settings).assign s.store.view field.name v =
      .ok (.settings (settings.set field v)) := by
    have set : settings.assign field.name v = .ok (settings.set field v) := by
      simp only [Settings.assign, notOwn, named, Bool.false_eq_true, if_false]
    rw [Object.assign, if_neg (notClass ·.1), if_neg (notTable ·.1), if_neg (notPlace ·.1),
      Object.assignAttribute, set]
    rfl
  have single : s.outcome (assignSingle h field.name v) =
      (.ok (), s.withSettings h settings field v) := by
    unfold assignSingle
    simp only [own, if_false, Bool.false_eq_true]
    rw [Session.outcome_bind_of_ok s.outcome_get]
    simp only [found]
    rw [Session.outcome_bind_of_ok s.outcome_view,
      Session.outcome_bind_of_ok ((s.outcome_settle _).trans (congrArg (·, s) assigned)),
      Session.outcome_bind_of_ok (s.outcome_replace h _)]
    rfl
  unfold assignAttribute
  rw [Session.outcome_bind_of_ok single]
  simp only [notTable, if_false]
  rfl

/-- A setting that is set is a field of the current record. Otherwise nothing happens. -/
theorem setSetting_cases (sound : s.IsSound) (key v : Value) :
    (s.outcome (setSetting key v)).2 = s ∨
      ∃ h settings field, s.current? = some h ∧ s.store.get? h = some (.settings settings) ∧
        s.outcome (setSetting key v) = (.ok .null, s.withSettings h settings field v) := by
  unfold setSetting
  rw [Session.outcome_bind_of_ok s.outcome_view]
  split
  · exact .inl rfl
  · rw [Session.outcome_bind_of_ok s.outcome_get]
    split
    · rename_i field h named current
      obtain ⟨settings, found⟩ := sound.current current
      refine .inr ⟨h, settings, field, current, found, ?_⟩
      rw [Session.outcome_bind_of_ok (outcome_assignAttribute field v found)]
      rfl
    · exact .inl rfl
    · have plain := s.outcome_check key.plain
      cases text : key.plain s.store.view with
      | ok name =>
        rw [Session.outcome_bind_of_ok (plain.trans (congrArg (·, s) text))]
        exact .inl rfl
      | error fault =>
        rw [Session.outcome_bind_of_error (plain.trans (congrArg (·, s) text))]
        exact .inl rfl

theorem Session.reconfigured_withSettings (sound : s.IsSound) {h : Nat} {settings : Settings}
    (found : s.store.get? h = some (.settings settings)) (field : Setting) (v : Value) :
    s.Reconfigured (s.withSettings h settings field v) := by
  have lt := Store.lt_of_get? found
  have self : (s.withSettings h settings field v).store.get? h =
      some (.settings (settings.set field v)) := Store.get?_replace_self lt _
  have others : ∀ g, g ≠ h → (s.withSettings h settings field v).store.get? g = s.store.get? g :=
    fun g ne => s.store.get?_replace_of_ne ne.symm _
  have next : (s.withSettings h settings field v).store.next = s.store.next :=
    s.store.next_replace h _
  refine ⟨?_, ?_, ?_⟩
  · intro g o before other
    have ne : g ≠ h := by
      rintro rfl
      exact other _ (Option.some.inj (before.symm.trans found))
    rw [others g ne, before]
  · intro g current
    by_cases eq : g = h
    · subst eq
      exact ⟨_, self⟩
    · obtain ⟨v, before⟩ := sound.current current
      exact ⟨v, (others g eq).trans before⟩
  · rw [next]
    exact List.forall_mem_cons.mpr ⟨lt, sound.assigned⟩

/-- A session with a further record of settings, which is the current one. -/
def Session.renewed (s : Session) (fresh : Settings) : Session :=
  { s with
    store := s.store.push (.settings fresh)
    current? := some s.store.next
    marks := s.marks + 1 }

theorem Session.reconfigured_renewed (sound : s.IsSound) (fresh : Settings) :
    s.Reconfigured (s.renewed fresh) := by
  have grown := s.store.extends_push (.settings fresh)
  refine ⟨fun _ _ found _ => grown.kept found, ?_, fun a mem => ?_⟩
  · intro h current
    cases current
    exact ⟨fresh, s.store.get?_push_next _⟩
  · exact Nat.lt_of_lt_of_le (sound.assigned a mem) grown.next_le

/-- What reading the settings anew comes to. If anything is wrong with the environment, no more has
happened than that a mark was given away. Otherwise there is a further record of settings, which is
the current one from then on, and this is reported. -/
theorem outcome_reload (s : Session) :
    s.outcome reload =
      match Settings.load (.usual s.vars) [] (s.marks + 1) with
      | .error f => (.error f, { s with marks := s.marks + 1 })
      | .ok fresh =>
        let told := (s.renewed fresh).outcome (report (.reloaded Setting.all.length))
        ((fun _ => .object s.store.next) <$> told.1, told.2) := by
  unfold reload
  rw [Session.outcome_bind_of_ok s.outcome_get, Session.outcome_bind_of_ok s.outcome_freshMark]
  cases load : Settings.load (.usual s.vars) [] (s.marks + 1) with
  | error f => exact Session.outcome_bind_of_error (Session.outcome_settle _ _)
  | ok fresh =>
    rw [Session.outcome_bind_of_ok (Session.outcome_settle _ _)]
    exact Session.outcome_map _ _ _

/-- Settings that are read anew are further ones. -/
theorem reconfigured_reload (sound : s.IsSound) :
    s.Reconfigured (s.outcome reload).2 ∧ (s.outcome reload).2.channel = s.channel := by
  rw [outcome_reload]
  cases Settings.load (.usual s.vars) [] (s.marks + 1) with
  | error f => exact ⟨⟨fun _ _ found _ => found, sound.current, sound.assigned⟩, rfl⟩
  | ok fresh =>
    have renewed := Session.reconfigured_renewed sound fresh
    have told := leads_report (.reloaded Setting.all.length) (s.renewed fresh)
    exact ⟨renewed.trans (told.toAdds.reconfigured renewed.sound), told.channel⟩

end Changes

/-! ### Runs -/

namespace Session

/-- The session after calls, whatever has come of each of them. -/
def after (s : Session) (history : List Request) : Session :=
  history.foldl (fun s r => (s.outcome r.perform).2) s

theorem after_cons (s : Session) (r : Request) (rest : List Request) :
    s.after (r :: rest) = (s.outcome r.perform).2.after rest := rfl

variable {s : Session}

/-- A call that configures changes no object that is no record of settings, and what it relies on
holds again afterwards. -/
theorem reconfigured_perform (sound : s.IsSound) {r : Request} (configures : r.configures = true) :
    s.Reconfigured (s.outcome r.perform).2 := by
  cases consults : r.consults with
  | true => exact (Request.adds_perform consults s).reconfigured sound
  | false =>
    cases r with
    | setSetting key v =>
      rw [Request.perform, outcome_map]
      rcases setSetting_cases sound key v with same | ⟨h, settings, field, -, found, eq⟩
      · rw [same]
        exact ⟨fun _ _ found _ => found, sound⟩
      · rw [eq]
        exact reconfigured_withSettings sound found field v
    | reload =>
      rw [Request.perform, outcome_map]
      exact (reconfigured_reload sound).1
    | clearSettings => exact ⟨fun _ _ found _ => found, nofun, sound.assigned⟩
    | _ => simp_all [Request.configures]

/-- The same for calls one after another. -/
theorem reconfigured_after (sound : s.IsSound) {history : List Request}
    (configure : ∀ r ∈ history, r.configures = true) : s.Reconfigured (s.after history) := by
  induction history generalizing s with
  | nil => exact ⟨fun _ _ found _ => found, sound⟩
  | cons r rest ih =>
    obtain ⟨first, others⟩ := List.forall_mem_cons.mp configure
    have step := reconfigured_perform sound first
    exact step.trans (ih step.sound others)

/-- A call that only consults leaves the settings that were current. -/
theorem adds_after {s : Session} {history : List Request}
    (consult : ∀ r ∈ history, r.consults = true) : s.Adds (s.after history) := by
  induction history generalizing s with
  | nil => exact ⟨refl_of Store.Extends s.store, rfl⟩
  | cons r rest ih =>
    obtain ⟨first, others⟩ := List.forall_mem_cons.mp consult
    have step := Request.adds_perform first s
    have run := ih others (s := (s.outcome r.perform).2)
    exact ⟨trans_of Store.Extends step.store run.store, run.current.trans step.current⟩

/-- A call that configures leaves the log channel alone, unless it sets it up. -/
theorem channel_perform (sound : s.IsSound) {r : Request} (configures : r.configures = true)
    (other : r.level? = none) : (s.outcome r.perform).2.channel = s.channel := by
  cases consults : r.consults with
  | true => exact (Request.addsQuietly_perform consults other s).channel
  | false =>
    cases r with
    | setSetting key v =>
      rw [Request.perform, outcome_map]
      rcases setSetting_cases sound key v with same | ⟨h, settings, field, -, -, eq⟩
      · rw [same]
      · rw [eq]
        rfl
    | reload =>
      rw [Request.perform, outcome_map]
      exact (reconfigured_reload sound).2
    | clearSettings => rfl
    | _ => simp_all [Request.configures]

end Session

end GraphQuery
