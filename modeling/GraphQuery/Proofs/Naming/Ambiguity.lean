import GraphQuery.Proofs.Naming.Lookup
import GraphQuery.Settings.Basic
import GraphQuery.Store.View

/-!
What the check of the settings says about ambiguous name stems.

The check warns of two stems if one is the other followed by digits. It looks at the stems alone;
whether a number is passed over is decided by the names that an environment has given. With stems
that are texts the two agree: the warnings are all there is to fear, and a warning about a numeral
is not idle.

* `Health.Warns`: the report warns of the names of two kinds, `Health.warns_iff` what this says of
  their stems.
* `ambiguous_stems_collide`: without a warning no number is ever passed over, and with a warning
  about a numeral there are calls that pass over one.
-/

namespace GraphQuery

/-- The stems of all kinds are configured as these texts. -/
def Settings.StemsAre (s : Settings) (stems : Kind → String) : Prop :=
  ∀ kind, ∃ mark, s.value (.ofKind kind) = .atom (.text (stems kind)) mark

namespace Health

/-- The report warns that names of the second kind may clash with names of the first. -/
def Warns (view : ObjectView) (s : Settings) (health : Health) (kind kind' : Kind) : Prop :=
  ∃ quoted quoted', (s.value (.ofKind kind)).quoted view = .ok quoted ∧
    (s.value (.ofKind kind')).quoted view = .ok quoted' ∧
    stemWarning (.ofKind kind) (.ofKind kind') quoted quoted' ∈ health.warnings

/-- The warning about the stems of two kinds, if they are ambiguous. -/
def warningOf (stems : Kind → String) (kind kind' : Kind) : List Finding :=
  if isNumbered (stems kind) (stems kind') then
    [stemWarning (.ofKind kind) (.ofKind kind') (Text.quoted (stems kind))
      (Text.quoted (stems kind'))]
  else []

/-- Two texts are ambiguous just in case one is the other followed by digits. -/
theorem ambiguous_text (view : ObjectView) (short long : String) (mark mark' : Nat) :
    ambiguous view (.atom (.text short) mark) (.atom (.text long) mark') =
      .ok (isNumbered short long) := by
  have equal : (Value.atom (.text short) mark).equal view (.atom (.text long) mark') =
      (short == long) := rfl
  unfold ambiguous
  rw [equal]
  by_cases same : short = long
  · subst same
    rw [isNumbered_self, if_pos (beq_self_eq_true short)]
  · rw [if_neg (by simpa using same)]
    rfl

/-- The pairs of different kinds, in the order of the fields with their stems. -/
def kindPairs : List (Kind × Kind) :=
  Kind.all.flatMap fun kind => (Kind.all.filter (· ≠ kind)).map fun kind' => (kind, kind')

theorem stemPairs_eq : stemPairs = kindPairs.map fun p => (.ofKind p.1, .ofKind p.2) := rfl

theorem mem_kindPairs {kind kind' : Kind} : (kind, kind') ∈ kindPairs ↔ kind' ≠ kind := by
  cases kind <;> cases kind' <;> decide

/-- What can be done for each item of a list can be done for the list. -/
theorem mapM_of_forall {α β : Type} {f : α → Except Fault β} {g : α → β} {as : List α}
    (each : ∀ a ∈ as, f a = .ok (g a)) : as.mapM f = .ok (as.map g) := by
  induction as with
  | nil => rfl
  | cons a rest ih =>
    rw [List.mapM_cons, each a (by simp), ih fun b mem => each b (List.mem_cons_of_mem a mem)]
    rfl

section Warned

variable {view : ObjectView} {s : Settings} {stems : Kind → String}

/-- The warnings about stems that are texts. -/
theorem stemWarnings_eq (view : ObjectView) (texts : s.StemsAre stems) :
    stemWarnings view s = .ok (kindPairs.flatMap fun p => warningOf stems p.1 p.2) := by
  unfold stemWarnings
  rw [stemPairs_eq, List.mapM_map, mapM_of_forall (g := fun p => warningOf stems p.1 p.2)]
  · simp only [Functor.map, Except.map, List.flatMap]
  · rintro ⟨kind, kind'⟩ -
    obtain ⟨mark, value⟩ := texts kind
    obtain ⟨mark', value'⟩ := texts kind'
    simp only [Function.comp_apply, value, value', ambiguous_text, warningOf]
    cases isNumbered (stems kind) (stems kind') <;> rfl

/-- The report is made with the warnings about stems. -/
theorem warnings_eq (texts : s.StemsAre stems) {health : Health}
    (report : ofSettings view s = .ok health) :
    health.warnings = kindPairs.flatMap fun p => warningOf stems p.1 p.2 := by
  unfold ofSettings at report
  rw [stemWarnings_eq view texts] at report
  simp only [bind, Except.bind] at report
  split at report
  · cases report
  · split at report
    · cases report
    · cases report
      rfl

/-- Fields with stems have different names. -/
theorem name_ofKind_inj {kind other : Kind}
    (eq : (Setting.ofKind kind).name = (Setting.ofKind other).name) : kind = other := by
  revert eq
  cases kind <;> cases other <;> decide

/-- The name of a field ends before the first blank. -/
theorem takeWhile_name (kind : Kind) (rest : String) :
    ((Setting.ofKind kind).name ++ (" (" ++ rest)).toList.takeWhile (· ≠ ' ') =
      (Setting.ofKind kind).name.toList := by
  have word : (Setting.ofKind kind).name.toList.all (· ≠ ' ') = true := by
    cases kind <;> decide
  rw [String.toList_append, String.toList_append,
    List.takeWhile_append_of_pos (by simpa using word)]
  simp

/-- A warning tells which stems it is about. -/
theorem stemWarning_inj (quoted : Kind → String) {kind kind' other other' : Kind}
    (eq : stemWarning (.ofKind kind) (.ofKind kind') (quoted kind) (quoted kind') =
      stemWarning (.ofKind other) (.ofKind other') (quoted other) (quoted other')) :
    kind = other ∧ kind' = other' := by
  obtain rfl := name_ofKind_inj (congrArg Finding.field eq)
  have message := congrArg Finding.message eq
  simp only [stemWarning, String.append_assoc, String.append_right_inj] at message
  have names := congrArg (fun text => text.toList.takeWhile (· ≠ ' ')) message
  simp only [takeWhile_name] at names
  exact ⟨name_ofKind_inj (String.toList_inj.mp names), rfl⟩

/-- The report warns of two kinds just in case the stem of one is that of the other followed by
digits. -/
theorem warns_iff (texts : s.StemsAre stems) {health : Health}
    (report : ofSettings view s = .ok health) {kind kind' : Kind} :
    Warns view s health kind kind' ↔ isNumbered (stems kind) (stems kind') := by
  obtain ⟨mark, value⟩ := texts kind
  obtain ⟨mark', value'⟩ := texts kind'
  unfold Warns
  rw [warnings_eq texts report, value, value']
  constructor
  · rintro ⟨_, _, quoted, quoted', mem⟩
    obtain ⟨⟨other, other'⟩, -, warned⟩ := List.mem_flatMap.mp mem
    cases quoted
    cases quoted'
    unfold warningOf at warned
    split at warned
    · rename_i numbered
      obtain ⟨rfl, rfl⟩ := stemWarning_inj (fun kind => Text.quoted (stems kind))
        (List.mem_singleton.mp warned)
      exact numbered
    · cases warned
  · intro numbered
    refine ⟨_, _, rfl, rfl, List.mem_flatMap.mpr ⟨(kind, kind'), ?_, ?_⟩⟩
    · rw [mem_kindPairs]
      rintro rfl
      simp [isNumbered_self] at numbered
    · rw [warningOf, if_pos numbered]
      exact List.mem_singleton_self _

/-- A report without warnings says that no stem is another one followed by digits. -/
theorem unambiguous (texts : s.StemsAre stems) {health : Health}
    (report : ofSettings view s = .ok health) (silent : health.warnings = []) (kind kind' : Kind) :
    isNumbered (stems kind) (stems kind') = false := by
  rw [Bool.eq_false_iff]
  intro numbered
  obtain ⟨_, _, _, _, mem⟩ := (warns_iff texts report).mpr numbered
  rw [silent] at mem
  cases mem

end Warned

end Health

/-! ### The environments of the settings -/

/-- No name has been given in a new environment, and its stems are those of the settings. -/
theorem Settings.StemsAre.unbroken {s : Settings} {stems : Kind → String} (texts : s.StemsAre stems)
    (view : ObjectView) (bareFirst? separator? : Option Value) (mark : Nat) :
    ((s.naming [] bareFirst? separator?).environment view (.blank mark)).Unbroken stems [] := by
  refine ⟨fun kind => ?_, rfl, rfl⟩
  obtain ⟨_, value⟩ := texts kind
  change Wording.ofValue view (s.value (.ofKind kind)) = _
  rw [value]
  rfl

/-- A stem with a numeral behind it is a name of the shorter stem. -/
theorem exists_meeting {short long : String} {extra : String} (eq : long = short ++ extra)
    (numeral : Text.IsNumeral extra) (bareFirst : Bool) :
    ∃ count, 0 < count ∧ numberedName long bareFirst 0 = numberedName short bareFirst count := by
  obtain ⟨n, pos, rfl⟩ := numeral.exists_number
  subst eq
  cases bareFirst with
  | true =>
    refine ⟨n, pos, ?_⟩
    simp [numberedName, Nat.ne_of_gt pos]
  | false =>
    -- The number nought behind the longer stem makes the numeral ten times as large.
    refine ⟨10 * n, by omega, ?_⟩
    rw [numberedName, numberedName, if_neg (by simp), if_neg (by simp),
      Text.toString_ten_mul pos, String.append_assoc]
    rfl

/-- The warnings of the check of the settings predict collisions, whatever the settings are as long
as the stems are texts.

If the check reports no warning, then in every environment that is made from the settings, and
whether or not the very first name is left bare, calls for the names of references and parameters
for which no stem is suggested pass over no number: the new names are numbered from nought on in the
order of the calls for them. If the check warns of the names of two kinds, the stem of one is that
of the other followed by digits; and if these are a numeral that does not begin with a nought, there
are calls for names of these two kinds that pass over one. -/
theorem ambiguous_stems_collide (view : ObjectView) (s : Settings) (stems : Kind → String)
    (texts : s.StemsAre stems) (health : Health) (report : Health.ofSettings view s = .ok health) :
    (health.warnings = [] →
      ∀ (now : ObjectView) (bareFirst? separator? : Option Value) (mark : Nat)
        (calls : List Lookup), (∀ c ∈ calls, c.bearer.stem = none) →
        let e := (s.naming [] bareFirst? separator?).environment now (.blank mark)
        e.skipped calls = [] ∧ (e.called calls).size = (Lookup.firsts calls).length ∧
          (e.called calls).allocations = (Lookup.firsts calls).mapIdx fun k c =>
            c.entry (numberedName (stems c.kind) e.bareFirst k)) ∧
    ∀ kind kind', Health.Warns view s health kind kind' →
      ∃ extra, stems kind' = stems kind ++ extra ∧ Text.isDigits extra ∧
        (Text.IsNumeral extra →
          ∀ (now : ObjectView) (bareFirst? separator? : Option Value) (mark : Nat),
            ∃ calls : List Lookup,
              (∀ c ∈ calls, c.bearer.stem = none ∧ (c.kind = kind ∨ c.kind = kind')) ∧
              ((s.naming [] bareFirst? separator?).environment now (.blank mark)).skipped calls ≠
                []) := by
  constructor
  · intro silent now bareFirst? separator? mark calls plain e
    have fresh : e.Unbroken stems [] := texts.unbroken now bareFirst? separator? mark
    have smooth := fresh.skipped_eq_nil (Health.unambiguous texts report silent) plain
    obtain ⟨run, same⟩ := fresh.after plain smooth
    refine ⟨smooth, run.counter_eq, ?_⟩
    rw [run.allocations_eq, same]
    rfl
  · intro kind kind' warns
    have numbered := (Health.warns_iff texts report).mp warns
    obtain ⟨extra, eq, isDigits⟩ := isNumbered_iff.mp numbered
    refine ⟨extra, eq, isDigits, ?_⟩
    intro numeral now bareFirst? separator? mark
    obtain ⟨count, pos, meets⟩ := exists_meeting eq numeral _
    exact (texts.unbroken now bareFirst? separator? mark).exists_skipped pos meets

/-- The names of variables are set to clash with those of nodes and relationships, and do. -/
theorem ambiguous_stems_collide_variables :
    let s : Settings :=
      ⟨fun field => if field = .variableStem then .text "this1" else field.default⟩
    ∃ calls : List Lookup, (∀ c ∈ calls, c.bearer.stem = none ∧ (c.kind = .node ∨ c.kind = .var)) ∧
      ((s.naming [] none none).environment Store.empty.view (.blank 0)).skipped calls ≠ [] := by
  intro s
  let stems : Kind → String := fun kind => (s.value (.ofKind kind)).text?.getD ""
  have texts : s.StemsAre stems := by
    intro kind
    cases kind <;> exact ⟨_, rfl⟩
  obtain ⟨health, report⟩ : ∃ health, Health.ofSettings Store.empty.view s = .ok health :=
    ⟨_, rfl⟩
  have warns : Health.Warns Store.empty.view s health .node .var :=
    (Health.warns_iff texts report).mpr (by decide)
  obtain ⟨extra, eq, -, collide⟩ :=
    (ambiguous_stems_collide Store.empty.view s stems texts health report).2 .node .var warns
  obtain rfl : extra = "1" := String.append_right_inj "this" |>.mp eq.symm
  exact collide ⟨List.all_eq_true.mp (by decide), '1', rfl, by decide⟩ Store.empty.view none none 0

end GraphQuery
