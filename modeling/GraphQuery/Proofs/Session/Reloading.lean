import GraphQuery.Proofs.Log.Handling
import GraphQuery.Proofs.Session.Frame

/-!
Reading the settings anew.

The variables of the process environment are checked before anything is changed, so a reload that is
refused for what is in them leaves the settings as they are, with whatever was put into them. One
that is not refused has settings that are read off the variables and the defaults alone.

* `Settings.read`: what a field comes to by the variables. `Settings.load_cases`: when a record can
  be made of them.
* `neverRejects_report`: reports do not fail in the way of a record that is refused.
* `IgnoresMarks`: what an operation comes to has nothing to do with the marks given so far.
* `reload_all_or_nothing`: what becomes of settings, environments and builds.
-/

namespace GraphQuery

open Operation Session

/-! ### What variables come to -/

theorem Setting.mem_all (field : Setting) : field ∈ Setting.all := by
  cases field <;> decide

namespace Settings

/-- The atom that a field gets: that of its variable, or its default if it has none. -/
def read (vars : List (String × String)) (field : Setting) : Except Objection Atom :=
  match (Variables.usual vars).value? field with
  | some v => field.rule.accept v
  | none => .ok field.defaultAtom

/-- The value that a field gets, apart from its mark. -/
theorem accept_eq (vars : List (String × String)) (mark : Nat) (field : Setting) :
    ∃ mark', accept (.usual vars) [] mark field = (Value.atom · mark') <$> read vars field := by
  unfold accept read source
  rw [show ofNamed? [] field = none from rfl, Option.none_or]
  cases (Variables.usual vars).value? field with
  | some v => exact ⟨mark, rfl⟩
  | none => exact ⟨Setting.defaultMark, rfl⟩

/-- Nothing is wrong with the variables just in case nothing is wrong with any field. -/
theorem issues_eq_nil_iff (vars : List (String × String)) :
    issues (.usual vars) [] = [] ↔ ∀ field, ∃ a, read vars field = .ok a := by
  unfold issues
  rw [List.filterMap_eq_nil_iff]
  constructor
  · intro none field
    have sound := none field (Setting.mem_all field)
    obtain ⟨mark, eq⟩ := accept_eq vars 0 field
    rw [eq] at sound
    cases result : read vars field with
    | ok a => exact ⟨a, rfl⟩
    | error objection =>
      rw [result] at sound
      cases sound
  · intro reads field _
    obtain ⟨a, ok⟩ := reads field
    obtain ⟨mark, eq⟩ := accept_eq vars 0 field
    rw [eq, ok]
    rfl

/-- A record is read off the variables, or they are refused because of a field. -/
theorem load_cases (vars : List (String × String)) (mark : Nat) :
    (∃ fresh, load (.usual vars) [] mark = .ok fresh ∧
      ∀ field, ∃ a mark', read vars field = .ok a ∧ fresh.value field = .atom a mark') ∨
    ∃ issues, load (.usual vars) [] mark = .error (.invalid issues) ∧
      ∃ field objection, read vars field = .error objection := by
  by_cases none : issues (.usual vars) [] = []
  · refine .inl ⟨_, by rw [load, if_pos none], fun field => ?_⟩
    obtain ⟨a, ok⟩ := (issues_eq_nil_iff vars).mp none field
    obtain ⟨mark', eq⟩ := accept_eq vars mark field
    refine ⟨a, mark', ok, ?_⟩
    change (accept (.usual vars) [] mark field).toOption.getD field.default = _
    rw [eq, ok]
    rfl
  · refine .inr ⟨_, by rw [load, if_neg none], ?_⟩
    obtain ⟨field, wrong⟩ := Classical.not_forall.mp fun sound =>
      none ((issues_eq_nil_iff vars).mpr sound)
    cases result : read vars field with
    | ok a => exact absurd ⟨a, result⟩ wrong
    | error objection => exact ⟨field, objection, result⟩

/-- The level of the log is in capitals. -/
theorem capitals_of_read {vars : List (String × String)} {a : Atom}
    (ok : read vars .logLevel = .ok a) : ∃ word, a = .text (Text.uppercase word) := by
  unfold read at ok
  cases given : (Variables.usual vars).value? .logLevel with
  | none =>
    rw [given] at ok
    cases ok
    exact ⟨"INFO", rfl⟩
  | some v =>
    rw [given] at ok
    obtain ⟨word, -, rfl⟩ := exists_of_map_eq_ok ok
    exact ⟨word, rfl⟩

end Settings

/-! ### Reports -/

/-- As long as events are kept, an event that is reported is one more. -/
theorem outcome_report_of_keeping {s : Session} (keeping : s.channel.keeping = true) (e : Event) :
    s.outcome (report e) = (.ok (), { s with events := s.events ++ [e] }) := by
  unfold report
  rw [Session.outcome_bind_of_ok s.outcome_get, if_pos keeping]
  rfl

/-- Reporting an event does not end on the objections to a record. -/
theorem neverRejects_report (e : Event) : NeverRejects (report e) := by
  have given : ∀ {logger : String} {r : LogRecord} {entries : List (Value × Value)},
      r.content = .event entries → NeverRejects (give logger r) := by
    intro logger r entries said s
    change NeverInvalid (s.outcome (give logger r)).1
    rw [outcome_give]
    split
    · exact s.store.neverRejects_dispatch said s.channel logger ""
    · exact .ok _
  refine NeverRejects.bind (fun _ => .ok _) fun s => ?_
  split
  · exact fun _ => .ok _
  · refine NeverRejects.bind (fun _ => .ok _) fun s => ?_
    dsimp only
    split
    · split
      · exact NeverRejects.bind (fun _ => .ok _) fun view => given rfl
      · exact .throw nofun
    · exact .pure _

/-! ### Marks -/

/-- The session with another number of marks given. -/
def Session.withMarks (s : Session) (marks : Nat) : Session := { s with marks := marks }

/-- What an operation comes to has nothing to do with the marks given so far, and it gives none. -/
def IgnoresMarks {α : Type} (m : Operation α) : Prop :=
  ∀ (s : Session) (marks : Nat),
    (s.withMarks marks).outcome m = ((s.outcome m).1, (s.outcome m).2.withMarks marks)

namespace IgnoresMarks

variable {α β : Type} {m : Operation α} {f : α → Operation β}

theorem pure (a : α) : IgnoresMarks (Pure.pure a : Operation α) := fun _ _ => rfl

theorem throw (fault : Fault) : IgnoresMarks (MonadExcept.throw fault : Operation α) :=
  fun _ _ => rfl

theorem settle (r : Except Fault α) : IgnoresMarks (Operation.settle r) := by
  cases r with
  | ok a => exact pure a
  | error fault => exact throw fault

theorem bind (first : IgnoresMarks m) (next : ∀ a, IgnoresMarks (f a)) :
    IgnoresMarks (m >>= f) := by
  intro s marks
  have same := first s marks
  cases result : (s.outcome m).1 with
  | ok a =>
    rw [result] at same
    rw [Session.outcome_bind_of_ok same, next a,
      Session.outcome_bind_of_ok (Prod.ext result rfl : s.outcome m = (.ok a, _))]
  | error fault =>
    rw [result] at same
    rw [Session.outcome_bind_of_error same,
      Session.outcome_bind_of_error (Prod.ext result rfl : s.outcome m = (.error fault, _))]

/-- What looks at the session, but not at its marks. -/
theorem get {f : Session → Operation β} (same : ∀ s marks, f (s.withMarks marks) = f s)
    (next : ∀ s, IgnoresMarks (f s)) : IgnoresMarks (MonadState.get >>= f) := by
  intro s marks
  rw [Session.outcome_bind_of_ok (Session.outcome_get _),
    Session.outcome_bind_of_ok (Session.outcome_get _), same]
  exact next s s marks

theorem forM {g : α → Operation PUnit} (step : ∀ a, IgnoresMarks (g a)) (as : List α) :
    IgnoresMarks (as.forM g) := by
  induction as with
  | nil => exact pure _
  | cons a rest ih => exact (step a).bind fun _ => ih

end IgnoresMarks

theorem ignoresMarks_assemble {α : Type} (step : Assembly α) : IgnoresMarks (assemble step) := by
  intro s marks
  rw [outcome_assemble, outcome_assemble]
  rfl

theorem ignoresMarks_settings : IgnoresMarks settings := by
  refine .get (fun _ _ => rfl) fun s => ?_
  split
  · exact .pure _
  · exact .throw _

theorem ignoresMarks_give (logger : String) (r : LogRecord) : IgnoresMarks (give logger r) := by
  intro s marks
  rw [outcome_give, outcome_give]
  change (if s.channel.passes logger r.rank then _ else _) = _
  split <;> rfl

theorem ignoresMarks_report (e : Event) : IgnoresMarks (report e) := by
  refine .get (fun _ _ => rfl) fun s => ?_
  split
  · exact fun _ _ => rfl
  · refine .get (fun _ _ => rfl) fun s => ?_
    dsimp only
    split
    · split
      · exact .get (fun _ _ => rfl) fun s => ignoresMarks_give _ _
      · exact .throw _
    · exact .pure _

/-- A build does not depend on marks. -/
theorem ignoresMarks_compile (v : Value) : IgnoresMarks (compile v) := by
  refine (ignoresMarks_assemble _).bind fun h => ignoresMarks_settings.bind fun settings => ?_
  refine .get (fun _ _ => rfl) fun s => (IgnoresMarks.forM ignoresMarks_report _).bind fun _ => ?_
  exact (IgnoresMarks.settle _).bind fun q => ignoresMarks_assemble _

/-! ### Settings that are current -/

/-- An object lacks nothing unless something was assigned to it. -/
theorem Store.isLacking_of_unassigned {s : Store} {h : Nat}
    (unassigned : ∀ a ∈ s.assignments, a.holder ≠ h) : s.isLacking h = false := by
  have gone : s.isGone h = fun _ => false := by
    funext name
    have none : s.latest? h name = none := List.find?_eq_none.mpr fun a mem => by
      simp [unassigned a mem]
    rw [isGone, none]
    rfl
  unfold isLacking
  rw [gone]
  cases s.get? h <;> simp

/-- A record of settings that is current and that nothing was assigned to is what counts. -/
theorem Session.settings?_of_current {s : Session} {h : Nat} {settings : Settings}
    (current : s.current? = some h) (found : s.store.get? h = some (.settings settings))
    (unassigned : ∀ a ∈ s.store.assignments, a.holder ≠ h) : s.settings? = some settings := by
  unfold settings?
  rw [current, Option.filter_some_pos (by rw [Store.isLacking_of_unassigned unassigned]; rfl),
    Option.bind_some, found]

theorem Session.outcome_settings (s : Session) {settings : Settings}
    (current : s.settings? = some settings) :
    s.outcome Operation.settings = (.ok settings, s) := by
  unfold Operation.settings
  rw [Session.outcome_bind_of_ok s.outcome_get, current]
  rfl

/-- Settings count: they are current, and a new environment forms names as they say unless it is
told otherwise. -/
structure Session.IsUnder (s : Session) (settings : Settings) : Prop where
  current : s.settings? = some settings
  environments : ∀ stems bareFirst separator v,
    (s.outcome (newEnvironment stems bareFirst separator)).1 = .ok v →
    ∃ given, (s.outcome (givenStems stems)).1 = .ok given ∧
      (s.outcome (newEnvironment stems bareFirst separator)).2.store.object? v =
        some (.environment (settings.naming given bareFirst.given? separator.given?)
          (.blank (s.marks + 1)))

/-- Settings that are current count. -/
theorem Session.isUnder {s : Session} {settings : Settings} (current : s.settings? = some settings) :
    s.IsUnder settings := by
  refine ⟨current, fun stems bareFirst separator v ok => ?_⟩
  obtain ⟨given, t, answer, -⟩ := exists_of_outcome_bind ok
  obtain rfl : s = t := by
    have reads := leads_givenStems (R := Eq) stems s
    exact reads.trans (congrArg Prod.snd answer)
  refine ⟨given, congrArg Prod.fst answer, ?_⟩
  let naming := settings.naming given bareFirst.given? separator.given?
  have eq : s.outcome (newEnvironment stems bareFirst separator) =
      (s.withMarks (s.marks + 1)).outcome
        (assemble (Assembly.made (.environment naming (.blank (s.marks + 1))))) := by
    unfold newEnvironment
    rw [Session.outcome_bind_of_ok answer, Session.outcome_bind_of_ok (s.outcome_settings current),
      Session.outcome_bind_of_ok s.outcome_freshMark]
    rfl
  rw [eq, outcome_assemble] at ok ⊢
  cases ok
  exact s.store.get?_push_next _

/-! ### Reloads -/

section Reload

variable {s : Session}

/-- A reload that is refused gives away a mark and does nothing else. -/
theorem outcome_reload_of_refused {f : Fault}
    (refused : Settings.load (.usual s.vars) [] (s.marks + 1) = .error f) :
    s.outcome reload = (.error f, s.withMarks (s.marks + 1)) := by
  rw [outcome_reload, refused]
  rfl

variable {fresh : Settings} (loaded : Settings.load (.usual s.vars) [] (s.marks + 1) = .ok fresh)
include loaded

/-- Any other reload does not fail in the same way, and what it answers is the new record. -/
theorem answer_reload : (∀ issues, (s.outcome reload).1 ≠ .error (.invalid issues)) ∧
    ∀ v, (s.outcome reload).1 = .ok v → v = .object s.store.next := by
  have never := neverRejects_report (.reloaded Setting.all.length) (s.renewed fresh)
  rw [outcome_reload, loaded]
  refine ⟨never.map _, fun v ok => ?_⟩
  obtain ⟨_, -, rfl⟩ := exists_of_map_eq_ok ok
  rfl

/-- The new record is current afterwards, whatever comes of the report. -/
theorem addsQuietly_reload : (s.renewed fresh).AddsQuietly (s.outcome reload).2 := by
  rw [outcome_reload, loaded]
  exact leads_report _ _

/-- As long as events are kept, the new record is answered and one more event is there. -/
theorem outcome_reload_of_keeping (keeping : s.channel.keeping = true) :
    s.outcome reload = (.ok (.object s.store.next),
      { s.renewed fresh with events := s.events ++ [.reloaded Setting.all.length] }) := by
  have told := outcome_report_of_keeping (s := s.renewed fresh) keeping
    (.reloaded Setting.all.length)
  rw [outcome_reload, loaded]
  dsimp only
  rw [told]
  rfl

/-- The new settings count for as long as the settings are only consulted. -/
theorem isUnder_reload (sound : s.IsSound) {later : List Request}
    (consult : ∀ r ∈ later, r.consults = true) :
    ((s.outcome reload).2.after later).IsUnder fresh := by
  have adds := (addsQuietly_reload loaded).toAdds
  have run := adds_after (s := (s.outcome reload).2) consult
  have grown := trans_of Store.Extends adds.store run.store
  refine isUnder (settings?_of_current (h := s.store.next) ?_ ?_ ?_)
  · rw [run.current, adds.current]
    rfl
  · exact grown.kept (s.store.get?_push_next _)
  · rw [grown.assignments]
    exact fun a mem => Nat.ne_of_lt (sound.assigned a mem)

end Reload

/-- Reading the settings anew, after any history of settings that were set, read anew or taken away,
of changes of the process environment, of set-ups of the log channel, of environments and of builds.
It is refused just in case the variables are wrong for some field; then a mark has been given away,
everything else is as it was, and builds come to the same. Otherwise it is answered, at least as long
as events are kept. What is answered is a new record of which every field is what the variables and
the defaults make of it, with the level of the log in capitals. It counts for as long as the settings
are only consulted, and one more event is there. Environments that were there form names as they did
before, whatever is configured later on. -/
theorem reload_all_or_nothing {s₀ : Session} (sound : s₀.IsSound) {history : List Request}
    (configure : ∀ r ∈ history, r.configures = true) :
    let s := s₀.after history
    let reloaded := s.outcome reload
    let t := reloaded.2
    ((∃ issues, reloaded.1 = .error (.invalid issues)) ↔
      ∃ field objection, Settings.read s.vars field = .error objection) ∧
    (s.channel.keeping = true →
      (∃ v, reloaded.1 = .ok v) ∨ ∃ issues, reloaded.1 = .error (.invalid issues)) ∧
    (∀ issues, reloaded.1 = .error (.invalid issues) → t = s.withMarks (s.marks + 1) ∧
      ∀ v, t.outcome (compile v) =
        ((s.outcome (compile v)).1, (s.outcome (compile v)).2.withMarks t.marks)) ∧
    (∀ v, reloaded.1 = .ok v → ∃ fresh : Settings,
      t.store.object? v = some (.settings fresh) ∧
      (∀ field, ∃ a mark, Settings.read s.vars field = .ok a ∧ fresh.value field = .atom a mark) ∧
      (∃ word mark, fresh.value .logLevel = .atom (.text (Text.uppercase word)) mark) ∧
      (s.channel.keeping = true → t.events = s.events ++ [.reloaded Setting.all.length]) ∧
      ∀ later, (∀ r ∈ later, r.consults = true) → (t.after later).IsUnder fresh) ∧
    ∀ g naming ledger, s.store.get? g = some (.environment naming ledger) →
      ∀ later, (∀ r ∈ later, r.configures = true) →
        (t.after later).store.get? g = some (.environment naming ledger) := by
  intro s reloaded t
  have sound : s.IsSound := (reconfigured_after sound configure).sound
  have environments : ∀ g naming ledger, s.store.get? g = some (.environment naming ledger) →
      ∀ later, (∀ r ∈ later, r.configures = true) →
        (t.after later).store.get? g = some (.environment naming ledger) := by
    intro g naming ledger found later configure
    have step : s.Reconfigured t := (reconfigured_reload sound).1
    exact (step.trans (reconfigured_after step.sound configure)).kept found nofun
  rcases Settings.load_cases s.vars (s.marks + 1) with
    ⟨fresh, loaded, fields⟩ | ⟨issues, refused, wrong⟩
  · obtain ⟨never, answers⟩ := answer_reload loaded
    refine ⟨iff_of_false (fun ⟨issues, eq⟩ => never issues eq) ?_, fun keeping => ?_,
      fun issues eq => absurd eq (never issues), fun v ok => ?_, environments⟩
    · rintro ⟨field, objection, wrong⟩
      obtain ⟨a, _, ok, -⟩ := fields field
      cases ok.symm.trans wrong
    · exact .inl ⟨_, congrArg Prod.fst (outcome_reload_of_keeping loaded keeping)⟩
    · obtain rfl := answers v ok
      refine ⟨fresh, ?_, fields, ?_, fun keeping => ?_, fun later consult =>
        isUnder_reload loaded sound consult⟩
      · exact (addsQuietly_reload loaded).store.kept (s.store.get?_push_next _)
      · obtain ⟨a, mark, ok, eq⟩ := fields .logLevel
        obtain ⟨word, rfl⟩ := Settings.capitals_of_read ok
        exact ⟨word, mark, eq⟩
      · exact congrArg (·.2.events) (outcome_reload_of_keeping loaded keeping)
  · have outcome : reloaded = _ := outcome_reload_of_refused refused
    have failed : reloaded.1 = .error (.invalid issues) := congrArg Prod.fst outcome
    refine ⟨iff_of_true ⟨issues, failed⟩ wrong, fun _ => .inr ⟨issues, failed⟩, fun issues' _ => ?_,
      fun v ok => ?_, environments⟩
    · have eq : t = s.withMarks (s.marks + 1) := congrArg Prod.snd outcome
      refine ⟨eq, fun v => ?_⟩
      rw [eq]
      exact ignoresMarks_compile v s _
    · rw [failed] at ok
      cases ok

/-- A session with variables of which one is wrong for its field. -/
def exportedSession : Session :=
  { Session.initial with
    vars := [("CYPHER_COMPOSE_LOG_LEVEL", "debug"), ("CYPHER_COMPOSE_PATH_PREFIX", "1 y")] }

/-- A stem is set that no variable could give, and an environment is made. -/
def settingsMixed : List Request :=
  [.setSetting (.text "NODE_PREFIX") (.text "1 x"), .environment .null .null .null]

/-- The same, and the wrong variable is taken away. -/
def settingsMended : List Request :=
  settingsMixed ++ [.unsetVariable (.text "CYPHER_COMPOSE_PATH_PREFIX")]

/-- As long as the variable is there, a reload is refused and the stem stays as it was set.
Afterwards the stem is the default again, and the level of the log is the one of the variable in
capitals. -/
theorem reload_all_or_nothing_mended :
    exportedSession.IsSound ∧ (∀ r ∈ settingsMended, r.configures = true) ∧
    (∃ kept, ((exportedSession.after settingsMixed).outcome reload).2.settings? = some kept ∧
      kept.value .nodeStem = .text "1 x") ∧
    ∃ fresh mark mark', ((exportedSession.after settingsMended).outcome reload).2.IsUnder fresh ∧
      fresh.value .nodeStem = .atom (.text "this") mark ∧
      fresh.value .logLevel = .atom (.text "DEBUG") mark' := by
  have sound : exportedSession.IsSound := ⟨isSound_initial.current, isSound_initial.assigned⟩
  have configure : ∀ r ∈ settingsMended, r.configures = true := by decide
  have mixed : ∀ r ∈ settingsMixed, r.configures = true :=
    fun r mem => configure r (List.mem_append_left _ mem)
  have wrong : (Settings.read (exportedSession.after settingsMixed).vars .pathStem).toOption =
      none := by decide +kernel
  have current : (exportedSession.after settingsMixed).settings?.map (·.value .nodeStem) =
      some (.text "1 x") := by decide +kernel
  have answered : ((exportedSession.after settingsMended).outcome reload).1.toOption =
      some (.object 2) := by decide +kernel
  have stem : (Settings.read (exportedSession.after settingsMended).vars .nodeStem).toOption =
      some (.text "this") := by decide +kernel
  have level : (Settings.read (exportedSession.after settingsMended).vars .logLevel).toOption =
      some (.text "DEBUG") := by decide +kernel
  refine ⟨sound, configure, ?_, ?_⟩
  · have law := reload_all_or_nothing sound mixed
    obtain ⟨issues, refused⟩ := law.1.mpr ⟨.pathStem, error_of_toOption wrong⟩
    rw [(law.2.2.1 issues refused).1]
    exact Option.map_eq_some_iff.mp current
  · have law := reload_all_or_nothing sound configure
    obtain ⟨fresh, -, fields, -, -, counts⟩ := law.2.2.2.1 _ (ok_of_toOption answered)
    obtain ⟨a, mark, read, eq⟩ := fields .nodeStem
    obtain ⟨b, mark', read', eq'⟩ := fields .logLevel
    rw [read] at stem
    rw [read'] at level
    cases stem
    cases level
    exact ⟨fresh, mark, mark', counts [] (List.forall_mem_nil _), eq, eq'⟩

end GraphQuery
