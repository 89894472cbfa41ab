import GraphQuery.Log.Line
import GraphQuery.Proofs.Fault
import Mathlib.Data.List.Forall2
import Mathlib.Data.List.TakeWhile

/-!
What a log line says of an event.

A line is a row of parts: a time stamp, the short name of a logger, a level, the event, and the
context in parentheses. The plain form and the one for consoles show the same parts; they differ in
what they put around some of them. Internal entries have no part in a line, so it makes no
difference if they are taken out before.

* `LogPart`: the parts, with `LogPart.plain` and `LogPart.rich` for the two forms.
* `LogLine.render_false`, `LogLine.render_true`: a line shows its parts in one of the two forms.
* `LogLine.Tells`: what a line has to say of an event. `LogLine.ofEvent_eq_ok_iff`: the line of an
  event is the one that says so.
* `LogLine.visible_eq_ok_iff`: when internal entries can be told from others, and what is left.
* `LogLine.ofEvent_visible`: a line of what is left is the line of all.
-/

namespace GraphQuery

/-! ### Parts -/

/-- A part of a log line. -/
inductive LogPart where
  | stamp (s : String)
  | logger (name : String)
  | level (word : String)
  | event (text : String)
  | context (pairs : List (String × String))

namespace LogPart

open LogLine (tagged)

/-- A part as it is shown where there is no markup. -/
def plain : LogPart → String
  | stamp s => s
  | logger name => "[" ++ name ++ "]"
  | level word => word
  | event text => text
  | context pairs => "(" ++ ", ".intercalate (pairs.map fun p => p.1 ++ "=" ++ p.2) ++ ")"

/-- A part as it is shown with markup: tags are put around the name of a logger, a level that has a
colour, an event, and each key of the context. -/
def rich : LogPart → String
  | stamp s => s
  | logger name => tagged "cyan" name
  | level word => (levelColours.lookup word).elim word fun colour => tagged colour word
  | event text => tagged "bold" text
  | context pairs =>
    "(" ++ ", ".intercalate (pairs.map fun p => tagged "dim" p.1 ++ "=" ++ p.2) ++ ")"

end LogPart

namespace LogLine

/-- The parts of a line in their order. What is not there is left out. -/
def layout (line : LogLine) : List LogPart :=
  (line.stamp?.map LogPart.stamp).toList ++ (line.logger?.map LogPart.logger).toList
    ++ [.level line.level] ++ (line.event?.map LogPart.event).toList
    ++ if line.fields.isEmpty then [] else [.context line.fields]

/-- The plain form of a line. -/
theorem render_false (line : LogLine) :
    line.render false = " ".intercalate (line.layout.map LogPart.plain) := by
  have parts_eq : line.parts false = line.layout.map LogPart.plain := by
    obtain ⟨stamp?, logger?, level, event?, fields⟩ := line
    cases stamp? <;> cases logger? <;> cases event? <;> cases fields <;> rfl
  rw [render, parts_eq]

/-- The form of a line for consoles. -/
theorem render_true (line : LogLine) :
    line.render true = " ".intercalate (line.layout.map LogPart.rich) := by
  have parts_eq : line.parts true = line.layout.map LogPart.rich := by
    obtain ⟨stamp?, logger?, level, event?, fields⟩ := line
    have levelText_eq : levelText true level = (LogPart.level level).rich := by
      change _ = (levelColours.lookup level).elim level fun colour => tagged colour level
      unfold levelText
      cases levelColours.lookup level <;> rfl
    unfold parts
    rw [levelText_eq]
    cases stamp? <;> cases logger? <;> cases event? <;> cases fields <;> rfl
  rw [render, parts_eq]

/-! ### What a line has to say -/

/-- The short name is what stands behind the last point of a name. -/
def IsShort (name short : String) : Prop :=
  '.' ∉ short.toList ∧ (name = short ∨ ∃ front, name = front ++ "." ++ short)

/-- What is said of a value that may be left out: nothing unless it is there and counts as true. -/
inductive Says {α : Type} (view : ObjectView) (text : Value → α → Prop) :
    Option Value → Option α → Prop where
  | absent : Says view text none none
  | empty {v : Value} : v.truth view = false → Says view text (some v) none
  | said {v : Value} {a : α} : v.truth view = true → text v a → Says view text (some v) (some a)

/-- A value in the context: a text of more than eighty characters is cut, and dots tell so. -/
inductive SaysValue (view : ObjectView) : Value → String → Prop where
  | short {s : String} {mark : Nat} : s.length ≤ 80 → SaysValue view (.atom (.text s) mark) s
  | long {s : String} {mark : Nat} : 80 < s.length →
      SaysValue view (.atom (.text s) mark) (String.ofList (s.toList.take 77) ++ "...")
  | other {v : Value} {t : String} : (∀ s mark, v ≠ .atom (.text s) mark) →
      v.plain view = .ok t → SaysValue view v t

/-- An entry belongs to the context: it is neither a part of its own nor internal. -/
def isContext (entry : Value × Value) : Bool :=
  entry.1.name?.all fun n => !reservedFields.contains n.word && n.word.toList.head? != some '_'

/-- What a line has to say of an event with the given entries. -/
structure Tells (view : ObjectView) (entries : List (Value × Value)) (line : LogLine) : Prop where
  named : ∀ e ∈ entries, e.1.name?.isSome
  stamp : Says view (fun v t => v.plain view = .ok t) (Value.lookup? entries "timestamp")
    line.stamp?
  logger : Says view (fun v t => ∃ n, v.name? = some n ∧ IsShort n.word t)
    (Value.lookup? entries "logger") line.logger?
  level : ∃ t, ((Value.lookup? entries "level").getD (.text "INFO")).plain view = .ok t ∧
    line.level = Text.uppercase t
  event : Says view (fun v t => v.plain view = .ok t) (Value.lookup? entries "event") line.event?
  context : List.Forall₂ (fun e p => ∃ n, e.1.name? = some n ∧ p.1 = n.running ∧
    SaysValue view e.2 p.2) (entries.filter isContext) line.fields

/-! ### It says so -/

theorem fieldName_eq_ok_iff {v : Value} {n : Name} : fieldName v = .ok n ↔ v.name? = some n := by
  cases v with
  | object h => simp [fieldName, Value.name?]
  | atom a mark => cases a <;> simp [fieldName, Value.name?, Atom.name?]

/-- The last part of a name is its short name. -/
theorem isShort_lastPart (name : String) : IsShort name (lastPart name) := by
  obtain ⟨cs, rfl⟩ : ∃ cs, name = String.ofList cs := ⟨name.toList, String.ofList_toList.symm⟩
  unfold lastPart
  rw [String.toList_ofList]
  -- Read backwards, a name begins with its last part.
  have whole : cs = (cs.reverse.dropWhile (· != '.')).reverse ++
      (cs.reverse.takeWhile (· != '.')).reverse := by
    rw [← List.reverse_append, List.takeWhile_append_dropWhile, List.reverse_reverse]
  constructor
  · rw [String.toList_ofList, List.mem_reverse]
    intro mem
    have kept := List.all_eq_true.mp (List.all_takeWhile (p := (· != '.')) (l := cs.reverse)) _ mem
    simp at kept
  · cases front : cs.reverse.dropWhile (· != '.') with
    | nil =>
      rw [front, List.reverse_nil, List.nil_append] at whole
      exact .inl (congrArg String.ofList whole)
    | cons c rest =>
      have point : c = '.' := by
        have first := List.head?_dropWhile_not (· != '.') cs.reverse
        simpa [front] using first
      rw [front, List.reverse_cons, point] at whole
      refine .inr ⟨String.ofList rest.reverse, ?_⟩
      rw [show "." = String.ofList ['.'] from rfl]
      simpa only [String.ofList_append] using congrArg String.ofList whole

theorem saysValue_of_fieldValue {view : ObjectView} {v : Value} {t : String}
    (ok : fieldValue view v = .ok t) : SaysValue view v t := by
  unfold fieldValue at ok
  split at ok
  · cases ok
    unfold shortened
    split
    · exact .short ‹_›
    · exact .long (Nat.lt_of_not_le ‹_›)
  · rename_i other
    exact .other other ok

theorem says_part? {view : ObjectView} {entries : List (Value × Value)} {name : String}
    {part? : Option String} (ok : LogLine.part? view entries name = .ok part?) :
    Says view (fun v t => v.plain view = .ok t) (Value.lookup? entries name) part? := by
  unfold LogLine.part? at ok
  cases found : Value.lookup? entries name with
  | none =>
    rw [found] at ok
    cases ok
    exact .absent
  | some v =>
    rw [found] at ok
    cases truth : v.truth view with
    | false =>
      rw [Option.filter_some_neg (by simp [truth])] at ok
      cases ok
      exact .empty truth
    | true =>
      rw [Option.filter_some_pos truth] at ok
      obtain ⟨t, text, rfl⟩ := exists_of_map_eq_ok ok
      exact .said truth text

theorem says_shortName {view : ObjectView} {v? : Option Value} {logger? : Option String}
    (ok : shortName view (v?.getD (.text "")) = .ok logger?) :
    Says view (fun v t => ∃ n, v.name? = some n ∧ IsShort n.word t) v? logger? := by
  cases v? with
  | none =>
    cases ok
    exact .absent
  | some v =>
    unfold shortName at ok
    rw [Option.getD_some] at ok
    split at ok
    · obtain ⟨n, named, rfl⟩ := exists_of_map_eq_ok ok
      exact .said ‹_› ⟨n, fieldName_eq_ok_iff.mp named, isShort_lastPart n.word⟩
    · cases ok
      exact .empty (Bool.not_eq_true _ ▸ ‹_›)

/-! ### The context -/

/-- An entry of a name that is not internal. -/
def isShown (entry : Value × Value) : Bool := entry.1.name?.all fun n => !isInternal n

/-- The entries that are left for the context, and those that are shown of it. -/
theorem filter_remaining (entries : List (Value × Value)) :
    (remaining entries).filter isShown = entries.filter isContext := by
  unfold remaining reservedFields
  simp only [List.foldl_cons, List.foldl_nil, Value.remove, List.filter_filter]
  refine List.filter_congr fun e _ => ?_
  cases named : e.1.name? with
  | none => simp [isContext, isShown, Value.isText, Value.text?, named]
  | some n =>
    rw [Bool.eq_iff_iff]
    simp only [isContext, isShown, Value.isText, Value.text?, named, isInternal, reservedFields,
      Option.map_some, Option.all_some, Bool.and_eq_true, bne_iff_ne, beq_eq_false_iff_ne, ne_eq,
      Option.some_inj, Bool.not_eq_true', List.contains_cons, List.contains_nil,
      Bool.or_eq_false_iff]
    tauto

theorem mem_of_mem_remaining {entries : List (Value × Value)} {e : Value × Value}
    (mem : e ∈ remaining entries) : e ∈ entries := by
  simp only [remaining, reservedFields, List.foldl_cons, List.foldl_nil, Value.remove] at mem
  exact List.mem_of_mem_filter (List.mem_of_mem_filter (List.mem_of_mem_filter
    (List.mem_of_mem_filter mem)))

/-- What a context says of entries. -/
abbrev SaysPair (view : ObjectView) (e : Value × Value) (p : String × String) : Prop :=
  ∃ n, e.1.name? = some n ∧ p.1 = n.running ∧ SaysValue view e.2 p.2

/-- What a field says, if it is one of the context. -/
theorem saysPair_of_field {view : ObjectView} {e : Value × Value} {p? : Option (String × String)}
    (ok : field view e = .ok p?) :
    e.1.name?.isSome ∧ (isShown e = false ∧ p? = none ∨
      isShown e = true ∧ ∃ p, p? = some p ∧ SaysPair view e p) := by
  obtain ⟨n, named, ok⟩ := exists_of_bind_eq_ok ok
  have isName := fieldName_eq_ok_iff.mp named
  have shown : isShown e = !isInternal n := by rw [isShown, isName, Option.all_some]
  refine ⟨by rw [isName, Option.isSome_some], ?_⟩
  split at ok
  · cases ok
    exact .inl ⟨by rw [shown, ‹isInternal n = true›]; rfl, rfl⟩
  · rename_i notInternal
    obtain ⟨t, value, ok⟩ := exists_of_bind_eq_ok ok
    cases ok
    exact .inr ⟨by rw [shown, Bool.eq_false_iff.mpr notInternal]; rfl, _, rfl, n, isName, rfl,
      saysValue_of_fieldValue value⟩

/-- An internal entry is no field. -/
theorem field_of_internal (view : ObjectView) {e : Value × Value} {n : Name}
    (isName : e.1.name? = some n) (hidden : isShown e = false) : field view e = .ok none := by
  have internal : isInternal n = true := by simpa [isShown, isName] using hidden
  unfold field
  rw [fieldName_eq_ok_iff.mpr isName]
  change (if isInternal n then Except.ok none else _) = _
  rw [internal, if_pos rfl]

/-- What the fields of entries say. -/
theorem says_of_mapM_field {view : ObjectView} {entries : List (Value × Value)}
    {fields : List (Option (String × String))} (ok : entries.mapM (field view) = .ok fields) :
    (∀ e ∈ entries, e.1.name?.isSome) ∧
    List.Forall₂ (SaysPair view) (entries.filter isShown) (fields.filterMap id) := by
  induction entries generalizing fields with
  | nil =>
    cases ok
    exact ⟨fun _ mem => absurd mem List.not_mem_nil, .nil⟩
  | cons e rest ih =>
    rw [List.mapM_cons] at ok
    obtain ⟨p?, first, ok⟩ := exists_of_bind_eq_ok ok
    obtain ⟨ps, others, ok⟩ := exists_of_bind_eq_ok ok
    cases ok
    obtain ⟨named, said⟩ := saysPair_of_field first
    obtain ⟨allNamed, allSaid⟩ := ih others
    refine ⟨List.forall_mem_cons.mpr ⟨named, allNamed⟩, ?_⟩
    rcases said with ⟨hidden, rfl⟩ | ⟨shown, p, rfl, said⟩
    · rwa [List.filter_cons_of_neg (by simp [hidden])]
    · rw [List.filter_cons_of_pos shown]
      exact .cons said allSaid

/-- Entries of a name of their own are there under that name. -/
theorem named_of_remaining {entries : List (Value × Value)}
    (named : ∀ e ∈ remaining entries, e.1.name?.isSome) : ∀ e ∈ entries, e.1.name?.isSome := by
  intro e mem
  cases isName : e.1.name? with
  | some n => rfl
  | none =>
    have stays : e ∈ remaining entries := by
      simp [remaining, reservedFields, Value.remove, Value.isText, Value.text?, isName, mem]
    simpa [isName] using named e stays

/-- A line that can be put together for an event says of it what it has to. -/
theorem tells_of_ofEvent {view : ObjectView} {entries : List (Value × Value)} {line : LogLine}
    (ok : ofEvent view entries = .ok line) : Tells view entries line := by
  obtain ⟨level, levelOk, ok⟩ := exists_of_bind_eq_ok ok
  obtain ⟨text, told, rfl⟩ := exists_of_map_eq_ok levelOk
  obtain ⟨stamp?, stampOk, ok⟩ := exists_of_bind_eq_ok ok
  obtain ⟨logger?, loggerOk, ok⟩ := exists_of_bind_eq_ok ok
  obtain ⟨event?, eventOk, ok⟩ := exists_of_bind_eq_ok ok
  obtain ⟨fields, fieldsOk, ok⟩ := exists_of_bind_eq_ok ok
  cases ok
  obtain ⟨named, said⟩ := says_of_mapM_field fieldsOk
  rw [filter_remaining] at said
  exact ⟨named_of_remaining named, says_part? stampOk, says_shortName loggerOk, ⟨text, told, rfl⟩,
    says_part? eventOk, said⟩

/-! ### Nothing else says so -/

/-- A name has only one short name. -/
theorem lastPart_of_isShort {name short : String} (isShort : IsShort name short) :
    lastPart name = short := by
  obtain ⟨pointless, whole⟩ := isShort
  have kept : ∀ c ∈ short.toList.reverse, (c != '.') = true := by
    intro c mem
    refine bne_iff_ne.mpr ?_
    rintro rfl
    exact pointless (List.mem_reverse.mp mem)
  have taken : name.toList.reverse.takeWhile (· != '.') = short.toList.reverse := by
    rcases whole with rfl | ⟨front, rfl⟩
    · exact List.takeWhile_eq_self_iff.mpr kept
    · have split : (front ++ "." ++ short).toList.reverse =
          short.toList.reverse ++ '.' :: front.toList.reverse := by
        simp [String.toList_append]
      rw [split, List.takeWhile_append_of_pos kept, List.takeWhile_cons_of_neg (by simp),
        List.append_nil]
  rw [lastPart, taken, List.reverse_reverse, String.ofList_toList]

theorem fieldValue_eq_ok {view : ObjectView} {v : Value} {t : String}
    (told : SaysValue view v t) : fieldValue view v = .ok t := by
  cases told with
  | short fits => exact congrArg Except.ok (if_pos fits)
  | long wide => exact congrArg Except.ok (if_neg (Nat.not_le_of_lt wide))
  | other other plain =>
    unfold fieldValue
    split
    · rename_i s mark
      exact absurd rfl (other s mark)
    · exact plain

theorem part?_eq_ok {view : ObjectView} {entries : List (Value × Value)} {name : String}
    {part : Option String}
    (told : Says view (fun v t => v.plain view = .ok t) (Value.lookup? entries name) part) :
    part? view entries name = .ok part := by
  unfold part?
  cases found : Value.lookup? entries name with
  | none =>
    rw [found] at told
    cases told
    rfl
  | some v =>
    rw [found] at told
    cases told with
    | empty untrue => rw [Option.filter_some_neg (by simp [untrue])]
    | said truth plain =>
      rw [Option.filter_some_pos truth]
      exact congrArg (some <$> ·) plain

theorem shortName_eq_ok {view : ObjectView} {v? : Option Value} {logger? : Option String}
    (told : Says view (fun v t => ∃ n, v.name? = some n ∧ IsShort n.word t) v? logger?) :
    shortName view (v?.getD (.text "")) = .ok logger? := by
  cases told with
  | absent => rfl
  | empty untrue => rw [Option.getD_some, shortName, if_neg (by simp [untrue])]
  | said truth named =>
    obtain ⟨n, isName, isShort⟩ := named
    rw [Option.getD_some, shortName, if_pos truth, fieldName_eq_ok_iff.mpr isName]
    exact congrArg (Except.ok ∘ some) (lastPart_of_isShort isShort)

/-- There are fields for entries of which everything is said. -/
theorem exists_fields_of_forall₂ {view : ObjectView} {entries : List (Value × Value)}
    {pairs : List (String × String)} (named : ∀ e ∈ entries, e.1.name?.isSome)
    (said : List.Forall₂ (SaysPair view) (entries.filter isShown) pairs) :
    ∃ fields, entries.mapM (field view) = .ok fields ∧ fields.filterMap id = pairs := by
  induction entries generalizing pairs with
  | nil =>
    cases said
    exact ⟨[], rfl, rfl⟩
  | cons e rest ih =>
    obtain ⟨first, others⟩ := List.forall_mem_cons.mp named
    obtain ⟨n, isName⟩ := Option.isSome_iff_exists.mp first
    rw [List.mapM_cons]
    cases shown : isShown e with
    | true =>
      rw [List.filter_cons_of_pos shown] at said
      cases said with
      | cons pair more =>
        rename_i p ps
        obtain ⟨fields, ok, eq⟩ := ih others more
        obtain ⟨n', isName', running, value⟩ := pair
        have apparent : isInternal n' = false := by simpa [isShown, isName'] using shown
        have here : field view e = .ok (some p) := by
          rw [field, fieldName_eq_ok_iff.mpr isName', fieldValue_eq_ok value]
          change (if isInternal n' then Except.ok none else .ok (some (n'.running, p.2))) = _
          rw [apparent, ← running]
          rfl
        refine ⟨some p :: fields, ?_, congrArg (p :: ·) eq⟩
        rw [here, ok]
        rfl
    | false =>
      rw [List.filter_cons_of_neg (by simp [shown])] at said
      obtain ⟨fields, ok, eq⟩ := ih others said
      refine ⟨none :: fields, ?_, eq⟩
      rw [field_of_internal view isName shown, ok]
      rfl

/-- The line of an event is the one that says of it what it has to. -/
theorem ofEvent_eq_ok_iff {view : ObjectView} {entries : List (Value × Value)} {line : LogLine} :
    ofEvent view entries = .ok line ↔ Tells view entries line := by
  refine ⟨tells_of_ofEvent, fun tells => ?_⟩
  obtain ⟨level, plain, capitals⟩ := tells.level
  have left : ∀ e ∈ remaining entries, e.1.name?.isSome :=
    fun e mem => tells.named e (mem_of_mem_remaining mem)
  have context := tells.context
  rw [← filter_remaining] at context
  obtain ⟨fields, ok, eq⟩ := exists_fields_of_forall₂ left context
  have levelOk : levelOf view entries = .ok line.level := by rw [levelOf, plain, capitals]; rfl
  rw [ofEvent, levelOk]
  change ofEntries view line.level entries = _
  rw [ofEntries, part?_eq_ok tells.stamp, shortName_eq_ok tells.logger,
    part?_eq_ok tells.event, ok]
  change Except.ok (LogLine.mk _ _ _ _ (fields.filterMap id)) = _
  rw [eq]

/-! ### How the values of an event look -/

/-- The values of an event look the same in two views. -/
def LooksLike (view view' : ObjectView) (entries : List (Value × Value)) : Prop :=
  ∀ e ∈ entries, e.2.plain view' = e.2.plain view ∧ e.2.truth view' = e.2.truth view

section LooksLike

variable {view view' : ObjectView} {entries : List (Value × Value)}
  (same : LooksLike view view' entries)
include same

/-- What is stored under a name looks the same. -/
theorem looks_of_lookup? {name : String} {v : Value}
    (found : Value.lookup? entries name = some v) :
    v.plain view' = v.plain view ∧ v.truth view' = v.truth view := by
  obtain ⟨e, stored, rfl⟩ := Option.map_eq_some_iff.mp found
  exact same e (List.mem_of_find?_eq_some stored)

theorem levelOf_congr : levelOf view' entries = levelOf view entries := by
  unfold levelOf
  cases found : Value.lookup? entries "level" with
  | none => rfl
  | some v => rw [Option.getD_some, (looks_of_lookup? same found).1]

theorem part?_congr (name : String) : part? view' entries name = part? view entries name := by
  unfold part?
  cases found : Value.lookup? entries name with
  | none => rfl
  | some v =>
    obtain ⟨plain, truth⟩ := looks_of_lookup? same found
    rw [Option.filter_some, Option.filter_some, truth]
    cases v.truth view with
    | false => rfl
    | true => exact congrArg (some <$> ·) plain

theorem ofEntries_congr (level : String) :
    ofEntries view' level entries = ofEntries view level entries := by
  have logger : shortName view' ((Value.lookup? entries "logger").getD (.text "")) =
      shortName view ((Value.lookup? entries "logger").getD (.text "")) := by
    unfold shortName
    cases found : Value.lookup? entries "logger" with
    | none => rfl
    | some v => rw [Option.getD_some, (looks_of_lookup? same found).2]
  have fields : (remaining entries).mapM (field view') = (remaining entries).mapM (field view) := by
    refine mapM_congr fun e mem => ?_
    have value : fieldValue view' e.2 = fieldValue view e.2 := by
      unfold fieldValue
      split
      · rfl
      · exact (same e (mem_of_mem_remaining mem)).1
    rw [field, field, value]
  rw [ofEntries, ofEntries, part?_congr same, part?_congr same, logger, fields]

theorem ofEvent_congr : ofEvent view' entries = ofEvent view entries := by
  unfold ofEvent
  rw [levelOf_congr same]
  exact congrArg _ (funext fun level => ofEntries_congr same level)

end LooksLike

/-! ### Internal entries -/

theorem filterAuxM_eq {α : Type} {p : α → Except Fault Bool} {q : α → Bool} {as : List α}
    (each : ∀ a ∈ as, p a = .ok (q a)) (acc : List α) :
    as.filterAuxM p acc = .ok ((as.filter q).reverse ++ acc) := by
  induction as generalizing acc with
  | nil => rfl
  | cons a rest ih =>
    obtain ⟨first, others⟩ := List.forall_mem_cons.mp each
    rw [List.filterAuxM, first]
    change rest.filterAuxM p (cond (q a) (a :: acc) acc) = _
    rw [ih others]
    cases eq : q a with
    | true => simp [eq]
    | false => simp [eq]

theorem exists_of_filterAuxM {α : Type} {p : α → Except Fault Bool} {as acc kept : List α}
    (ok : as.filterAuxM p acc = .ok kept) : ∀ a ∈ as, ∃ b, p a = .ok b := by
  induction as generalizing acc with
  | nil => exact fun _ mem => absurd mem List.not_mem_nil
  | cons a rest ih =>
    obtain ⟨b, first, ok⟩ := exists_of_bind_eq_ok ok
    exact List.forall_mem_cons.mpr ⟨⟨b, first⟩, ih ok⟩

/-- Internal entries can be told from others just in case all names are texts. What is left are the
others, in their order. -/
theorem visible_eq_ok_iff {entries kept : List (Value × Value)} :
    visible entries = .ok kept ↔
      (∀ e ∈ entries, e.1.name?.isSome) ∧ kept = entries.filter isShown := by
  have shows : ∀ e n, e.1.name? = some n →
      (do return !isInternal (← fieldName e.1)) = Except.ok (ε := Fault) (isShown e) := by
    intro e n isName
    rw [fieldName_eq_ok_iff.mpr isName, isShown, isName]
    rfl
  unfold visible List.filterM
  constructor
  · intro ok
    have named : ∀ e ∈ entries, ∃ n, e.1.name? = some n := by
      obtain ⟨_, kept, -⟩ := exists_of_bind_eq_ok ok
      intro e mem
      obtain ⟨b, told⟩ := exists_of_filterAuxM kept e mem
      obtain ⟨n, isName, -⟩ := exists_of_bind_eq_ok told
      exact ⟨n, fieldName_eq_ok_iff.mp isName⟩
    refine ⟨fun e mem => Option.isSome_iff_exists.mpr (named e mem), ?_⟩
    rw [filterAuxM_eq (q := isShown) fun e mem => (named e mem).elim (shows e)] at ok
    cases ok
    rw [List.append_nil, List.reverse_reverse]
  · rintro ⟨named, rfl⟩
    rw [filterAuxM_eq (q := isShown) fun e mem =>
      (Option.isSome_iff_exists.mp (named e mem)).elim (shows e)]
    simp [Bind.bind, Except.bind, Pure.pure, Except.pure]

/-- Taking internal entries out once more changes nothing. -/
theorem visible_visible {entries kept : List (Value × Value)} (ok : visible entries = .ok kept) :
    visible kept = .ok kept := by
  obtain ⟨named, rfl⟩ := visible_eq_ok_iff.mp ok
  refine visible_eq_ok_iff.mpr ⟨fun e mem => named e (List.mem_of_mem_filter mem), ?_⟩
  rw [List.filter_filter]
  simp

/-- What is stored under a name that is not internal is still there. -/
theorem lookup?_filter {entries : List (Value × Value)} {name : String}
    (shown : name.toList.head? ≠ some '_') :
    Value.lookup? (entries.filter isShown) name = Value.lookup? entries name := by
  unfold Value.lookup?
  rw [List.find?_filter]
  congr 2
  funext e
  cases named : e.1.name? with
  | none => simp [Value.isText, Value.text?, named]
  | some n =>
    by_cases eq : n.word = name
    · simp [isShown, isInternal, Value.isText, Value.text?, named, eq, shown]
    · simp [Value.isText, Value.text?, named, eq]

theorem remaining_filter (entries : List (Value × Value)) :
    remaining (entries.filter isShown) = (remaining entries).filter isShown := by
  simp only [remaining, reservedFields, List.foldl_cons, List.foldl_nil, Value.remove,
    List.filter_filter]
  congr 1
  funext e
  ac_rfl

/-- What the fields of entries say, that of the first entry apart from those of the rest. -/
theorem filterMap_mapM_cons {α β : Type} (f : α → Except Fault (Option β)) (a : α) (rest : List α) :
    List.filterMap id <$> (a :: rest).mapM f =
      f a >>= fun b? => (b?.toList ++ ·) <$> (List.filterMap id <$> rest.mapM f) := by
  rw [List.mapM_cons]
  cases f a with
  | error fault => rfl
  | ok b? =>
    cases rest.mapM f with
    | error fault => rfl
    | ok bs => cases b? <;> rfl

/-- Of entries that are left out there is nothing to be seen. -/
theorem filterMap_mapM_field (view : ObjectView) {entries : List (Value × Value)}
    (named : ∀ e ∈ entries, e.1.name?.isSome) :
    (List.filterMap id <$> (entries.filter isShown).mapM (field view)) =
      List.filterMap id <$> entries.mapM (field view) := by
  induction entries with
  | nil => rfl
  | cons e rest ih =>
    obtain ⟨first, others⟩ := List.forall_mem_cons.mp named
    obtain ⟨n, isName⟩ := Option.isSome_iff_exists.mp first
    rw [filterMap_mapM_cons]
    cases shown : isShown e with
    | true => rw [List.filter_cons_of_pos shown, filterMap_mapM_cons, ih others]
    | false =>
      rw [List.filter_cons_of_neg (by simp [shown]), ih others, field_of_internal view isName shown]
      exact (id_map _).symm

/-- A line is made of the parts of their own and of what is to be seen of the fields. -/
theorem ofEntries_eq (view : ObjectView) (level : String) (entries : List (Value × Value)) :
    ofEntries view level entries = (do
      let stamp? ← part? view entries "timestamp"
      let logger? ← shortName view ((Value.lookup? entries "logger").getD (.text ""))
      let event? ← part? view entries "event"
      let fields ← List.filterMap id <$> (remaining entries).mapM (field view)
      return ⟨stamp?, logger?, level, event?, fields⟩) := by
  unfold ofEntries
  cases (remaining entries).mapM (field view) <;> rfl

/-- A line of what is left without the internal entries is the line of all. -/
theorem ofEvent_visible (view : ObjectView) {entries kept : List (Value × Value)}
    (ok : visible entries = .ok kept) : ofEvent view kept = ofEvent view entries := by
  obtain ⟨named, rfl⟩ := visible_eq_ok_iff.mp ok
  have left : ∀ e ∈ remaining entries, e.1.name?.isSome :=
    fun e mem => named e (mem_of_mem_remaining mem)
  have lookups : ∀ name ∈ reservedFields, Value.lookup? (entries.filter isShown) name =
      Value.lookup? entries name :=
    fun name mem => lookup?_filter (by revert name; decide)
  have fields : ∀ level, ofEntries view level (entries.filter isShown) =
      ofEntries view level entries := by
    intro level
    rw [ofEntries_eq, ofEntries_eq, remaining_filter, filterMap_mapM_field view left, part?, part?,
      part?, part?, lookups "timestamp" (by decide), lookups "logger" (by decide),
      lookups "event" (by decide)]
  unfold ofEvent levelOf
  rw [lookups "level" (by decide)]
  exact congrArg _ (funext fields)

end LogLine

end GraphQuery
