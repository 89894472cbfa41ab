import GraphQuery.Log.Handling
import GraphQuery.Proofs.Fault

/-!
Faults of handling log records.

Whoever reports an event can meet a fault of a handler: a line that cannot be put together, markup
that is not sound, an attribute in the place of a method. None of these is an objection to the fields
of a record, so it can be told from a fault of what was to be reported.

* `Store.neverRejects_dispatch`: an event at all handlers that a logger reports to.
-/

namespace GraphQuery

open NeverInvalid

/-! ### Console markup -/

namespace Markup

theorem neverInvalid_areParts (cs : List Char) : NeverInvalid (Colour.areParts cs) := by
  unfold Colour.areParts
  dsimp only
  split
  · exact ok _
  · split
    · exact error nofun
    · exact ok _

theorem neverInvalid_ofWord (word : String) : NeverInvalid (Colour.ofWord word) := by
  refine NeverInvalid.bind ?_ fun _ => ok _
  unfold Colour.isColour
  split
  · exact ok _
  · exact ok _
  · exact neverInvalid_areParts _
  · exact ok _

theorem neverInvalid_withWord (s : Style) (word : String) : NeverInvalid (s.withWord word) := by
  unfold Style.withWord
  split
  · exact ok _
  · exact (neverInvalid_ofWord word).bind fun _ => ok _

theorem neverInvalid_withLed (s : Style) (lead : Style.Lead) (word : String) :
    NeverInvalid (s.withLed lead word) := by
  cases lead with
  | background => exact (neverInvalid_ofWord word).bind fun _ => ok _
  | off => exact ok _
  | link => exact ok _

theorem neverInvalid_withWords (s : Style) (words : List String) :
    NeverInvalid (s.withWords words) := by
  induction s, words using Style.withWords.induct with
  | case1 s => exact ok _
  | case2 s word led =>
    rw [Style.withWords, if_pos led]
    exact ok _
  | case3 s word other =>
    rw [Style.withWords, if_neg other]
    exact neverInvalid_withWord s word
  | case4 s word next rest lead led ih =>
    simp only [Style.withWords, led]
    refine (neverInvalid_withLed s lead next).bind fun s? => ?_
    cases s? with
    | none => exact ok _
    | some s => exact ih s
  | case5 s word next rest other ih =>
    simp only [Style.withWords, other]
    refine (neverInvalid_withWord s word).bind fun s? => ?_
    cases s? with
    | none => exact ok _
    | some s => exact ih s

theorem neverInvalid_normal (s : String) : NeverInvalid (Style.normal s) := by
  refine (neverInvalid_withWords _ _).bind fun style? => ?_
  cases style? with
  | none => exact ok _
  | some style => exact ok _

theorem neverInvalid_close (opened : List Tag) (t : Tag) : NeverInvalid (close opened t) := by
  unfold close
  split
  · exact ok _
  · exact error nofun

theorem neverInvalid_step (opened : List Tag) (t : Tag) : NeverInvalid (step opened t) := by
  unfold step
  split
  · exact NeverInvalid.bind ((neverInvalid_normal _).bind fun _ => ok _) fun _ => ok _
  · split
    · exact neverInvalid_close _ _
    · exact error nofun
  · refine (neverInvalid_normal _).bind fun name => ?_
    split
    · exact neverInvalid_close _ _
    · exact error nofun

/-- A text whose tags are wrong is no invalid record. -/
theorem neverInvalid_check (s : String) : NeverInvalid (check s) :=
  (foldlM neverInvalid_step _ _).bind fun _ => ok _

end Markup

/-! ### Texts of objects -/

namespace Store

variable (s : Store)

section Texts

variable {quoted : Value → Except Fault String} (never : ∀ v, NeverInvalid (quoted v))
include never

theorem neverInvalid_quotedEntries (entries : List (Value × Value)) :
    NeverInvalid (quotedEntries quoted entries) := by
  refine .mapM (fun e => ?_) entries
  exact (never e.1).bind fun _ => (never e.2).bind fun _ => ok _

theorem neverInvalid_quotedFields (h : Nat) (between : String) (fields : List (String × Value)) :
    NeverInvalid (s.quotedFields quoted h between fields) := by
  refine NeverInvalid.bind (.mapM (fun f => ?_) fields) fun _ => ok _
  exact (never f.2).bind fun _ => ok _

theorem neverInvalid_quotedQuery (h : Nat) (between : String) (q : CompiledQuery) :
    NeverInvalid (s.quotedQuery quoted h between q) :=
  (neverInvalid_quotedEntries never _).bind fun _ => ok _

theorem neverInvalid_quotedLevel (v : Value) : NeverInvalid (s.quotedLevel quoted v) := by
  cases v with
  | atom a mark => exact ok _
  | object h =>
    unfold quotedLevel
    dsimp only
    split
    · exact ok _
    · exact (never _).bind fun _ => ok _
    · exact error nofun

omit never in
theorem neverInvalid_quotedPath (path : Attribute (List Name)) :
    NeverInvalid (s.quotedPath path) := by
  refine NeverInvalid.bind ?_ fun _ => ok _
  cases path with
  | made names => exact ok _
  | assigned v =>
    cases v with
    | atom a mark => exact .elim nofun
    | object h =>
      simp only [Attribute.resolve]
      split
      · refine .mapM (fun v => ?_) _
        exact .elim nofun
      · refine .mapM (fun v => ?_) _
        exact .elim nofun
      · refine .mapM (fun e => ?_) _
        exact .elim nofun
      · exact error nofun

theorem neverInvalid_quotedObject (h : Nat) (inside : Bool) (o : Object) :
    NeverInvalid (s.quotedObject quoted h inside o) := by
  unfold quotedObject
  split
  · split
    · exact ok _
    · exact (NeverInvalid.mapM never _).bind fun _ => ok _
  · split
    · exact ok _
    · exact (NeverInvalid.mapM never _).bind fun _ => ok _
  · split
    · exact ok _
    · exact (neverInvalid_quotedEntries never _).bind fun _ => ok _
  · exact ok _
  · exact (never _).bind fun _ => ok _
  · exact (never _).bind fun _ => (s.neverInvalid_quotedPath _).bind fun _ => ok _
  · exact (s.neverInvalid_quotedFields never _ _ _).bind fun _ => ok _
  · exact (s.neverInvalid_quotedQuery never _ _ _).bind fun _ => ok _
  · exact (NeverInvalid.mapM never _).bind fun _ => ok _
  · split
    · exact error nofun
    · exact (s.neverInvalid_quotedLevel never _).bind fun _ => ok _
  · exact ok _

end Texts

theorem neverInvalid_quotedWithin (depth : Nat) (outer : List Nat) (v : Value) :
    NeverInvalid (s.quotedWithin depth outer v) := by
  induction depth generalizing outer v with
  | zero =>
    cases v with
    | atom a mark => exact ok _
    | object h => exact error nofun
  | succ depth ih =>
    cases v with
    | atom a mark => exact ok _
    | object h =>
      unfold quotedWithin
      split
      · exact s.neverInvalid_quotedObject (ih _) _ _ _
      · exact ok _

theorem neverInvalid_quoted (v : Value) : NeverInvalid (s.quoted v) :=
  s.neverInvalid_quotedWithin _ _ v

theorem neverInvalid_plainWithin (depth : Nat) (v : Value) :
    NeverInvalid (s.plainWithin s.quoted depth v) := by
  induction depth generalizing v with
  | zero =>
    cases v with
    | atom a mark => exact ok _
    | object h => exact error nofun
  | succ depth ih =>
    cases v with
    | atom a mark => exact ok _
    | object h =>
      unfold plainWithin
      split
      · exact s.neverInvalid_quotedFields s.neverInvalid_quoted _ _ _
      · exact s.neverInvalid_quotedQuery s.neverInvalid_quoted _ _ _
      · split
        · exact error nofun
        · unfold plainError
          split
          · exact (ih _).bind fun _ => (ih _).bind fun _ => ok _
          · split
            · exact ok _
            · exact error nofun
      · exact s.neverInvalid_quoted _
      · exact ok _

/-- There is a text for a value, or a fault that is no objection to a record. -/
theorem neverInvalid_plain (v : Value) : NeverInvalid (v.plain s.view) := by
  cases v with
  | atom a mark => exact ok _
  | object h => exact s.neverInvalid_plainWithin _ _

end Store

/-! ### Lines -/

namespace LogLine

theorem neverInvalid_fieldName (v : Value) : NeverInvalid (fieldName v) := by
  unfold fieldName
  split
  · exact error nofun
  · exact .elim nofun

variable (s : Store)

theorem neverInvalid_fieldValue (v : Value) : NeverInvalid (fieldValue s.view v) := by
  unfold fieldValue
  split
  · exact ok _
  · exact s.neverInvalid_plain _

theorem neverInvalid_field (entry : Value × Value) : NeverInvalid (field s.view entry) := by
  refine (neverInvalid_fieldName _).bind fun n => ?_
  split
  · exact ok _
  · exact (neverInvalid_fieldValue s _).bind fun _ => ok _

theorem neverInvalid_shortName (v : Value) : NeverInvalid (shortName s.view v) := by
  unfold shortName
  split
  · exact (neverInvalid_fieldName v).map _
  · exact ok _

theorem neverInvalid_part? (entries : List (Value × Value)) (name : String) :
    NeverInvalid (part? s.view entries name) := by
  unfold part?
  split
  · exact (s.neverInvalid_plain _).map _
  · exact ok _

/-- An event has a line, or a fault that is no objection to a record. -/
theorem neverInvalid_ofEvent (entries : List (Value × Value)) :
    NeverInvalid (ofEvent s.view entries) := by
  refine NeverInvalid.bind ((s.neverInvalid_plain _).map _) fun level => ?_
  refine (neverInvalid_part? s _ _).bind fun _ => (neverInvalid_shortName s _).bind fun _ => ?_
  refine (neverInvalid_part? s _ _).bind fun _ => ?_
  exact (NeverInvalid.mapM (neverInvalid_field s) _).bind fun _ => ok _

end LogLine

/-! ### Handlers -/

namespace Store

variable (s : Store)

theorem neverInvalid_answers (h : Nat) (methods : List String) :
    NeverInvalid (s.answers h methods) := by
  unfold answers
  split
  · exact error nofun
  · exact ok _

theorem neverInvalid_filters (h : Nat) : NeverInvalid (s.filters h) := by
  unfold filters
  split
  · exact ok _
  · exact .elim nofun

theorem neverInvalid_passFilter (depth : Nat) (v : Value) :
    NeverInvalid (s.passFilter depth v) := by
  induction depth generalizing v with
  | zero => exact error nofun
  | succ depth ih =>
    unfold passFilter
    split
    · refine (s.neverInvalid_answers _ _).bind fun _ => (s.neverInvalid_filters _).bind fun _ => ?_
      exact .forM ih _
    · exact error nofun

theorem neverInvalid_passFilters (filters : List Value) : NeverInvalid (s.passFilters filters) :=
  .forM (s.neverInvalid_passFilter _) filters

theorem neverInvalid_unbraced (cs : List Char) : NeverInvalid (unbraced cs) := by
  fun_induction unbraced cs with
  | case1 cs ih => exact ih.map _
  | case2 cs ih => exact ih.map _
  | case3 => exact error nofun
  | case4 => exact error nofun
  | case5 => exact error nofun
  | case6 c cs _ _ _ _ _ ih => exact ih.map _
  | case7 => exact ok _

theorem neverInvalid_checkKeywords (h : Nat) : NeverInvalid (s.checkKeywords h) := by
  unfold checkKeywords
  split
  · exact ok _
  · split
    · split
      · exact ok _
      · exact error nofun
    · exact error nofun

/-- A console needs a text with sound markup. -/
theorem neverInvalid_checkShown (h : Nat) (text : String) : NeverInvalid (s.checkShown h text) := by
  have last : ∀ c : Bool, NeverInvalid (if c then throw .missing else pure () : Except Fault Unit) :=
    fun c => by
      cases c
      · exact ok _
      · exact error nofun
  have styled : NeverInvalid (do
      if s.hasTrue h "highlighter" then throw .wrongType
      s.checkKeywords h
      s.answers h ["render", "get_level_text"]
      if ((s.assigned? h "formatter").bind Value.given?).isSome then throw .missing
      s.answers h ["_log_render"]
      if s.hasAssigned h "console" then throw .missing : Except Fault Unit) := by
    refine .guarded nofun ((s.neverInvalid_checkKeywords h).bind fun _ => ?_)
    refine (s.neverInvalid_answers _ _).bind fun _ => .guarded nofun ?_
    exact (s.neverInvalid_answers _ _).bind fun _ => last _
  unfold checkShown
  refine (s.neverInvalid_answers _ _).bind fun _ => ?_
  dsimp only
  split
  · exact (Markup.neverInvalid_check text).bind fun _ => styled
  · exact styled

theorem neverInvalid_handlerLevel (v : Value) : NeverInvalid (s.handlerLevel v) := by
  unfold handlerLevel
  split
  · split
    · exact error nofun
    · exact ok _
  · exact .elim nofun
  · exact error nofun

section Event

variable {r : LogRecord} {entries : List (Value × Value)} (said : r.content = .event entries)
include said

theorem neverInvalid_line (stamp? : Option String) : NeverInvalid (r.line s.view stamp?) := by
  unfold LogRecord.line
  rw [said]
  exact LogLine.neverInvalid_ofEvent s entries

theorem neverInvalid_text : NeverInvalid (r.text s) := by
  unfold LogRecord.text
  rw [said]
  refine NeverInvalid.bind ((neverInvalid_quotedEntries s.neverInvalid_quoted entries).map _)
    fun text => ?_
  split
  · exact ok _
  · exact ok _

/-- The text of an event at a handler, whatever handlers stand behind it. -/
theorem neverInvalid_formatted (depth h : Nat) (handler : LogHandler) :
    NeverInvalid (s.formatted r depth h handler) := by
  induction depth generalizing h handler with
  | zero => exact error nofun
  | succ depth ih =>
    unfold formatted
    refine (s.neverInvalid_answers _ _).bind fun _ => ?_
    split
    · exact (s.neverInvalid_line said _).bind fun _ => ok _
    · split
      · exact s.neverInvalid_text said
      · split
        · exact (neverInvalid_unbraced _).map _
        · exact ih _ _
        · exact (s.neverInvalid_answers _ _).bind fun _ => error nofun
        · exact error nofun

end Event

end Store

/-! ### Printing -/

theorem neverRejects_settle {α : Type} {x : Except Fault α} (never : NeverInvalid x) :
    NeverRejects (Printing.settle x) := by
  cases x with
  | ok a => exact .pure a
  | error fault => exact fun _ => never

namespace Store

variable (s : Store)

theorem neverRejects_leaveOut (h : Nat) : NeverRejects (s.leaveOut h) :=
  neverRejects_settle (s.neverInvalid_answers _ _)

theorem neverRejects_locked (h : Nat) {step : Printing Unit} (never : NeverRejects step) :
    NeverRejects (s.locked h step) := by
  refine (neverRejects_settle (s.neverInvalid_answers _ _)).bind fun _ => ?_
  dsimp only
  split
  · exact fun _ => .error nofun
  · intro printed
    -- What the step comes to is gone on with once the handler is open again.
    have after : NeverRejects (do
        Printing.settle (s.answers h ["release"])
        Printing.settle (step.run.run printed).1) :=
      (neverRejects_settle (s.neverInvalid_answers _ _)).bind fun _ =>
        neverRejects_settle (never printed)
    exact after _

variable {r : LogRecord} {entries : List (Value × Value)} (said : r.content = .event entries)
include said

theorem neverRejects_emit (h : Nat) (handler : LogHandler) :
    NeverRejects (s.emit r h handler) := by
  refine (neverRejects_settle (s.neverInvalid_answers _ _)).bind fun _ => ?_
  split
  · refine neverRejects_settle (NeverInvalid.bind ?_ fun text => s.neverInvalid_checkShown h text)
    exact s.neverInvalid_formatted said _ _ _
  · split
    · refine NeverRejects.bind (fun _ => .ok _) fun _ => ?_
      split
      · exact s.neverRejects_leaveOut h
      · exact .pure _
    · exact .throw nofun
    · exact s.neverRejects_leaveOut h

theorem neverRejects_handle (v : Value) : NeverRejects (s.handle r v) := by
  refine (neverRejects_settle (s.neverInvalid_handlerLevel v)).bind fun level => ?_
  split
  · exact .throw nofun
  · exact .pure _
  · split
    · refine NeverRejects.bind (neverRejects_settle ?_) fun _ =>
        s.neverRejects_locked _ (s.neverRejects_emit said _ _)
      refine (s.neverInvalid_answers _ _).bind fun _ => .guarded nofun ?_
      exact s.neverInvalid_passFilters _
    · exact (neverRejects_settle (s.neverInvalid_answers _ _)).bind fun _ => .throw nofun
    · exact .throw nofun

/-- Handing an event to all handlers does not end on the objections to a record. -/
theorem neverRejects_dispatch (channel : LogChannel) (name : String) :
    NeverRejects (s.dispatch channel name r) :=
  (neverRejects_settle (s.neverInvalid_passFilters _)).bind fun _ =>
    .forM (s.neverRejects_handle said) _

end Store

end GraphQuery
