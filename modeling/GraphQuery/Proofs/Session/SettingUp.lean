import GraphQuery.Proofs.Session.Frame

/-!
Setting up the log channel, call after call.

A call is checked before anything is changed, and one that does not pass leaves everything as it was.
Behind the checks, the handlers of the outermost logger are taken away before it is found out whether
there is a level of the name that is asked for. So a call that asks for an unknown level fails and
leaves no handler at all; every other call that passes installs its own.

* `SetUpCall`: a call together with the session that it is made in.
* `SetUpCall.Lawful`: what a call comes to, by how far it gets. `SetUpCall.lawful`: each call does.
* `Session.setUps`: the calls of a history, and what the latest of them leaves.
* `setUps_keep_last_handler`: when the handler is that of the latest call that went well.
-/

namespace GraphQuery

open Operation

/-! ### The outermost logger -/

namespace LogChannel

/-- A logger goes by its name. -/
theorem name_logger (channel : LogChannel) (name : String) : (channel.logger name).name = name := by
  unfold logger
  cases found : channel.loggers.find? fun l => l.name = name with
  | none => rfl
  | some l => simpa using List.find?_some found

/-- What is set for a logger, as long as it keeps its name. -/
theorem logger_change (channel : LogChannel) (name : String) {f : Logger → Logger}
    (keeps : ∀ l, (f l).name = l.name) :
    (channel.change name f).logger name = f (channel.logger name) := by
  have named : (f (channel.logger name)).name = name := by rw [keeps, name_logger]
  unfold logger change
  rw [List.find?_cons_of_pos (by simpa using named)]
  rfl

/-- Without handlers the outermost logger is what it was otherwise. -/
theorem outermost_cleared (channel : LogChannel) (form : Value) :
    (channel.cleared form).outermost = { channel.outermost with handlers := [] } :=
  channel.logger_change Logger.outermost (f := fun l => { l with handlers := [] }) fun _ => rfl

theorem outermost_installed (channel : LogChannel) (handle level : Nat) :
    (channel.installed handle level).outermost =
      { channel.outermost with handlers := [.object handle], level := .int level } :=
  channel.logger_change Logger.outermost
    (f := fun l => { l with handlers := [.object handle], level := .int level }) fun _ => rfl

end LogChannel

/-! ### A single call -/

/-- A call that sets up the log channel, and the session in which it is made. -/
structure SetUpCall where
  session : Session
  level : Value

/-- The outermost logger has one handler, which is the object of the given handle, and both have the
same level. Events go to loggers. -/
structure Session.Stands (s : Session) (h n : Nat) : Prop where
  handlers : s.channel.outermost.handlers = [.object h]
  level : s.channel.outermost.level = .int n
  handler : ∃ handler : LogHandler, s.store.get? h = some (.handler handler) ∧ handler.level = .int n
  routed : s.channel.keeping = false

namespace SetUpCall

/-- What the call comes to. -/
def outcome (c : SetUpCall) : Except Fault Value × Session :=
  c.session.outcome (setUpLogging c.level)

/-- What is checked before anything is changed: that there are settings, and how the level is asked
for. -/
def checked (c : SetUpCall) : Except Fault (Settings × Value) :=
  LogChannel.admissible c.session.store.view c.session.settings? c.level

/-- The call passes the checks. -/
def isAdmitted (c : SetUpCall) : Bool := c.checked.isOk

/-- The call is answered. -/
def goesWell (c : SetUpCall) : Bool := c.outcome.1.isOk

/-- The number of the level that is asked for, if the call passes the checks and there is one. -/
def number? (c : SetUpCall) : Option Nat :=
  c.checked.toOption.bind fun asked => (LogChannel.levelNumber asked.2).toOption

/-- The session of the call with a handler of the given level at the outermost logger. -/
def installed (c : SetUpCall) (settings : Settings) (n : Nat) : Session :=
  let cleared := c.session.channel.cleared (settings.value .dateFormat)
  { c.session with
    store := c.session.store.push
      (.handler ⟨(settings.value .richLogging).truth c.session.store.view, .int n, cleared.stamp?⟩)
    channel := cleared.installed c.session.store.next n }

variable (c : SetUpCall)

/-- What is set up comes first, and then what is made of it. -/
theorem outcome_eq {channel : LogChannel} {result : Except Fault LogHandler}
    (setUp : c.session.channel.setUp c.session.store.view c.session.settings? c.level
      c.session.store.next = (channel, result)) :
    c.outcome = ({ c.session with channel := channel } : Session).outcome (do
      let handler ← settle result
      let v ← assemble (Assembly.made (.handler handler))
      let settings ← Operation.settings
      report (.configured (Text.uppercase (c.level.text?.getD "")) (settings.value .richLogging))
      return v) := by
  unfold outcome setUpLogging
  rw [Session.outcome_bind_of_ok c.session.outcome_get]
  simp only [setUp]
  exact Session.outcome_bind_of_ok (Session.outcome_set _ _)

/-- A call that does not pass the checks leaves everything as it was. -/
theorem outcome_of_refused {f : Fault} (refused : c.checked = .error f) :
    c.outcome = (.error f, c.session) := by
  have setUp : c.session.channel.setUp c.session.store.view c.session.settings? c.level
      c.session.store.next = (c.session.channel, .error f) := by
    rw [LogChannel.setUp, show LogChannel.admissible _ _ _ = _ from refused]
  rw [c.outcome_eq setUp]
  exact Session.outcome_bind_of_error (Session.outcome_settle _ _)

variable {settings : Settings} {word : Value} (asked : c.checked = .ok (settings, word))
include asked

/-- A call that asks for an unknown level fails with the handlers gone. -/
theorem outcome_of_unknown {f : Fault} (unknown : LogChannel.levelNumber word = .error f) :
    c.outcome = (.error f,
      { c.session with channel := c.session.channel.cleared (settings.value .dateFormat) }) := by
  have setUp : c.session.channel.setUp c.session.store.view c.session.settings? c.level
      c.session.store.next =
        (c.session.channel.cleared (settings.value .dateFormat), .error f) := by
    rw [LogChannel.setUp, show LogChannel.admissible _ _ _ = _ from asked]
    simp only [unknown]
  rw [c.outcome_eq setUp]
  exact Session.outcome_bind_of_error (Session.outcome_settle _ _)

/-- A call that asks for a known level installs a handler, and reports that it has done so. -/
theorem outcome_of_known {n : Nat} (known : LogChannel.levelNumber word = .ok n) :
    c.outcome = (c.installed settings n).outcome (do
      let settings ← Operation.settings
      report (.configured (Text.uppercase (c.level.text?.getD "")) (settings.value .richLogging))
      return .object c.session.store.next) := by
  let cleared := c.session.channel.cleared (settings.value .dateFormat)
  have setUp : c.session.channel.setUp c.session.store.view c.session.settings? c.level
      c.session.store.next = (cleared.installed c.session.store.next n,
        .ok ⟨(settings.value .richLogging).truth c.session.store.view, .int n, cleared.stamp?⟩) := by
    rw [LogChannel.setUp, show LogChannel.admissible _ _ _ = _ from asked]
    simp only [known]
    rfl
  rw [c.outcome_eq setUp, Session.outcome_bind_of_ok (Session.outcome_settle _ _)]
  rfl

omit asked

/-- What a call comes to, by how far it gets: it does not pass the checks, it asks for an unknown
level, or it installs a handler of the level that it asks for. -/
structure Lawful : Prop where
  refused : c.isAdmitted = false → ∃ f, c.outcome = (.error f, c.session)
  unknown : c.isAdmitted = true → c.number? = none →
    (∃ f, c.outcome.1 = .error f) ∧ c.outcome.2.channel.keeping = false ∧
      c.outcome.2.channel.outermost = { c.session.channel.outermost with handlers := [] }
  known : ∀ ⦃n⦄, c.number? = some n → c.outcome.2.Stands c.session.store.next n ∧
    ∀ v, c.outcome.1 = .ok v → v = .object c.session.store.next

/-- The handler that a call has installed stands there afterwards, whatever comes of the report. -/
theorem stands_of_known {n : Nat} (asked : c.checked = .ok (settings, word))
    (known : LogChannel.levelNumber word = .ok n) :
    c.outcome.2.Stands c.session.store.next n := by
  have adds := leads_reportConfigured c.level (.object c.session.store.next) (c.installed settings n)
  rw [c.outcome_of_known asked known]
  have outermost := (c.session.channel.cleared (settings.value .dateFormat)).outermost_installed
    c.session.store.next n
  constructor
  · rw [adds.channel]
    exact congrArg Logger.handlers outermost
  · rw [adds.channel]
    exact congrArg Logger.level outermost
  · exact ⟨_, adds.store.kept (c.session.store.get?_push_next _), rfl⟩
  · rw [adds.channel]
    rfl

/-- The handler is what is answered. -/
theorem answer_of_known {n : Nat} (asked : c.checked = .ok (settings, word))
    (known : LogChannel.levelNumber word = .ok n) {v : Value} (ok : c.outcome.1 = .ok v) :
    v = .object c.session.store.next := by
  rw [c.outcome_of_known asked known] at ok
  obtain ⟨_, _, -, ok⟩ := Session.exists_of_outcome_bind ok
  obtain ⟨_, _, -, ok⟩ := Session.exists_of_outcome_bind ok
  exact (Except.ok.inj ok).symm

/-- Each call is lawful. -/
theorem lawful : c.Lawful := by
  cases checked : c.checked with
  | error f =>
    have number : c.number? = none := by rw [number?, checked]; rfl
    have refused : c.isAdmitted = false := by rw [isAdmitted, checked]; rfl
    constructor
    · exact fun _ => ⟨f, c.outcome_of_refused checked⟩
    · rw [refused]
      exact nofun
    · rw [number]
      exact nofun
  | ok asked =>
    obtain ⟨settings, word⟩ := asked
    have admitted : c.isAdmitted = true := by rw [isAdmitted, checked]; rfl
    have number : c.number? = (LogChannel.levelNumber word).toOption := by rw [number?, checked]; rfl
    cases level : LogChannel.levelNumber word with
    | error f =>
      have eq := c.outcome_of_unknown checked level
      rw [level] at number
      constructor
      · rw [admitted]
        exact nofun
      · intro _ _
        rw [eq]
        exact ⟨⟨f, rfl⟩, rfl, LogChannel.outermost_cleared _ _⟩
      · rw [number]
        exact nofun
    | ok n =>
      rw [level] at number
      constructor
      · rw [admitted]
        exact nofun
      · rw [number]
        exact nofun
      · intro m same
        obtain rfl : n = m := Option.some.inj (number.symm.trans same)
        exact ⟨c.stands_of_known checked level, fun v ok => c.answer_of_known checked level ok⟩

end SetUpCall

/-! ### Calls one after another -/

namespace Session

/-- The calls of a history that set up the log channel, each with the session that it is made in. -/
def setUps (s : Session) : List Request → List SetUpCall
  | [] => []
  | r :: rest =>
    (r.level?.map fun level => ⟨s, level⟩).toList ++ (s.outcome r.perform).2.setUps rest

variable {s : Session}

/-- A call that sets up the log channel, as one of a history. -/
theorem outcome_perform_setUpLogging (s : Session) (level : Value) :
    (s.outcome (Request.setUpLogging level).perform).2 = (⟨s, level⟩ : SetUpCall).outcome.2 := by
  rw [Request.perform, outcome_map]
  rfl

/-- The log channel is as the latest call has left it that passed the checks. -/
theorem channel_after (sound : s.IsSound) {history : List Request}
    (configure : ∀ r ∈ history, r.configures = true) :
    match ((s.setUps history).filter (·.isAdmitted)).getLast? with
    | none => (s.after history).channel = s.channel
    | some c => (s.after history).channel = c.outcome.2.channel ∧
        c.outcome.2.Reconfigured (s.after history) := by
  induction history generalizing s with
  | nil => exact rfl
  | cons r rest ih =>
    obtain ⟨first, others⟩ := List.forall_mem_cons.mp configure
    have step := reconfigured_perform sound first
    have later := ih step.sound others
    rw [setUps, List.filter_append, List.getLast?_append, after_cons]
    cases latest : (((s.outcome r.perform).2.setUps rest).filter (·.isAdmitted)).getLast? with
    | some c =>
      rw [latest] at later
      exact later
    | none =>
      rw [latest] at later
      rw [Option.none_or]
      cases asks : r.level? with
      | none => exact later.trans (channel_perform sound first asks)
      | some level =>
        obtain rfl : r = .setUpLogging level := by
          cases r <;> cases asks
          rfl
        rw [outcome_perform_setUpLogging] at step later ⊢
        rw [Option.map_some, Option.toList_some]
        cases admitted : (⟨s, level⟩ : SetUpCall).isAdmitted with
        | true =>
          rw [List.filter_cons_of_pos admitted]
          exact ⟨later, reconfigured_after step.sound others⟩
        | false =>
          obtain ⟨f, refused⟩ := (SetUpCall.lawful ⟨s, level⟩).refused admitted
          rw [List.filter_cons_of_neg (by simp [admitted]), later, refused]
          rfl

/-- What stands at the outermost logger goes on to stand there as long as the channel is the same. -/
theorem Stands.mono {t : Session} {h n : Nat} (stands : s.Stands h n)
    (channel : t.channel = s.channel) (later : s.Reconfigured t) : t.Stands h n := by
  obtain ⟨handler, found, level⟩ := stands.handler
  refine ⟨?_, ?_, ⟨handler, later.kept found nofun, level⟩, ?_⟩
  · rw [channel, stands.handlers]
  · rw [channel, stands.level]
  · rw [channel, stands.routed]

end Session

theorem SetUpCall.exists_answer {c : SetUpCall} (answered : c.goesWell = true) :
    ∃ v, c.outcome.1 = .ok v := by
  unfold goesWell at answered
  cases answer : c.outcome.1 with
  | ok v => exact ⟨v, rfl⟩
  | error f =>
    rw [answer] at answered
    cases answered

/-- A call that is answered has passed the checks, and asks for a level that there is. -/
theorem SetUpCall.known_of_answer (c : SetUpCall) {v : Value} (ok : c.outcome.1 = .ok v) :
    c.isAdmitted = true ∧ ∃ n, c.number? = some n := by
  cases admitted : c.isAdmitted with
  | false =>
    obtain ⟨f, eq⟩ := c.lawful.refused admitted
    rw [eq] at ok
    cases ok
  | true =>
    cases number : c.number? with
    | none =>
      obtain ⟨⟨f, failed⟩, -⟩ := c.lawful.unknown admitted number
      rw [failed] at ok
      cases ok
    | some n => exact ⟨rfl, n, rfl⟩

/-- Setting up the log channel any number of times, while settings and the process environment are
changed at will. Each call leaves everything as it was, or takes all handlers from the outermost
logger and fails, or installs a handler of its level. The latest call that did not leave everything
as it was decides what is there: its handler, or none if there is no level of the name that it asks
for. If every call that passes the checks is answered, then this is the handler that was answered
last, with its level at the outermost logger as well, and what was there at first if there is none.
-/
theorem setUps_keep_last_handler {s : Session} (sound : s.IsSound) {history : List Request}
    (configure : ∀ r ∈ history, r.configures = true) :
    let calls := s.setUps history
    let t := s.after history
    (∀ c ∈ calls, c.Lawful) ∧
    (match (calls.filter (·.isAdmitted)).getLast? with
      | none => t.channel = s.channel
      | some c => t.channel = c.outcome.2.channel ∧
          (c.number? = none → t.channel.outermost.handlers = []) ∧
          ∀ n, c.number? = some n → t.Stands c.session.store.next n) ∧
    ((∀ c ∈ calls, c.isAdmitted = true → c.goesWell = true) →
      match (calls.filter (·.goesWell)).getLast? with
      | none => t.channel = s.channel
      | some c => ∃ h n, c.outcome.1 = .ok (.object h) ∧ c.number? = some n ∧ t.Stands h n) := by
  intro calls t
  have latest := Session.channel_after sound configure
  refine ⟨fun c _ => c.lawful, ?_, fun answered => ?_⟩
  · cases eq : (calls.filter (·.isAdmitted)).getLast? with
    | none =>
      rw [eq] at latest
      exact latest
    | some c =>
      rw [eq] at latest
      obtain ⟨channel, later⟩ := latest
      have admitted : c.isAdmitted = true := (List.mem_filter.mp (List.mem_of_getLast? eq)).2
      refine ⟨channel, fun unknown => ?_, fun n known => ?_⟩
      · rw [channel, (c.lawful.unknown admitted unknown).2.2]
      · exact (c.lawful.known known).1.mono channel later
  · have same : calls.filter (·.goesWell) = calls.filter (·.isAdmitted) := by
      refine List.filter_congr fun c mem => Bool.eq_iff_iff.mpr ⟨fun well => ?_, answered c mem⟩
      obtain ⟨v, ok⟩ := SetUpCall.exists_answer well
      exact (c.known_of_answer ok).1
    rw [same]
    cases eq : (calls.filter (·.isAdmitted)).getLast? with
    | none =>
      rw [eq] at latest
      exact latest
    | some c =>
      rw [eq] at latest
      obtain ⟨channel, later⟩ := latest
      obtain ⟨mem, admitted⟩ := List.mem_filter.mp (List.mem_of_getLast? eq)
      obtain ⟨v, ok⟩ := SetUpCall.exists_answer (answered c mem admitted)
      obtain ⟨-, n, known⟩ := c.known_of_answer ok
      obtain ⟨stands, handed⟩ := c.lawful.known known
      exact ⟨_, n, (handed v ok) ▸ ok, known, stands.mono channel later⟩

/-- Two calls that set up the log channel, behind a change of the settings. -/
def settingUpTwice : List Request :=
  [.setSetting (.text "ENABLE_RICH_LOGGING") (.bool false), .setUpLogging (.text "info"),
    .setUpLogging (.text "Debug")]

/-- The second handler has taken the place of the first one. -/
theorem setUps_keep_last_handler_twice :
    (∀ r ∈ settingUpTwice, r.configures = true) ∧
    (∀ c ∈ Session.initial.setUps settingUpTwice, c.isAdmitted = true → c.goesWell = true) ∧
    (Session.initial.after settingUpTwice).Stands 2 10 := by
  have configure : ∀ r ∈ settingUpTwice, r.configures = true := by decide
  have answered : ∀ c ∈ Session.initial.setUps settingUpTwice,
      c.isAdmitted = true → c.goesWell = true := by decide +kernel
  refine ⟨configure, answered, ?_⟩
  have law := (setUps_keep_last_handler Session.isSound_initial configure).2.2 answered
  have called : ((Session.initial.setUps settingUpTwice).filter (·.goesWell)).getLast?.isSome := by
    decide +kernel
  obtain ⟨c, latest⟩ := Option.isSome_iff_exists.mp called
  rw [latest] at law
  obtain ⟨h, n, -, -, stands⟩ := law
  have handlers : (Session.initial.after settingUpTwice).channel.outermost.handlers =
      [.object 2] := by decide +kernel
  have level : (Session.initial.after settingUpTwice).channel.outermost.level = .int 10 := by
    decide +kernel
  obtain rfl : h = 2 := by simpa [stands.handlers] using handlers
  obtain rfl : n = 10 := by
    rw [stands.level] at level
    simp only [Value.int, Value.atom.injEq, Atom.int.injEq, and_true] at level
    omega
  exact stands

/-- A level that there is not: the call fails with the handler gone that the call before has
installed. As the first call of all it fails with events going to loggers from then on. -/
theorem setUps_lose_last_handler :
    let first : SetUpCall := ⟨.initial, .text "info"⟩
    let second : SetUpCall := ⟨first.outcome.2, .text "chatty"⟩
    let only : SetUpCall := ⟨.initial, .text "chatty"⟩
    (first.outcome.1 = .ok (.object 1) ∧
      first.outcome.2.channel.outermost.handlers = [.object 1]) ∧
    (second.outcome.1 = .error .wrongValue ∧
      second.outcome.2.channel.outermost.handlers = []) ∧
    Session.initial.channel.keeping = true ∧ only.outcome.1 = .error .wrongValue ∧
      only.outcome.2.channel.keeping = false := by
  refine ⟨⟨rfl, ?_⟩, ⟨rfl, ?_⟩, rfl, rfl, ?_⟩ <;> decide +kernel

end GraphQuery
