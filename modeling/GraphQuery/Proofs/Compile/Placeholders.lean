import GraphQuery.Compile
import GraphQuery.Proofs.Assembly.Exported
import GraphQuery.Proofs.Rendering.Written
import GraphQuery.Proofs.Store.Tidiness

/-!
The parameters of a query are those whose names are in its text.

What the library has assembled has tidy templates, so the names that a reader meets in the text of a
query are those of the keys that were written. The ledger has these keys and no others, each with
the value of its parameter, and putting the query together changes none of them.

* `Settings.IsTidy`, `Store.SuggestsPlain`: all name stems are plain names, and the separator is
  white space.
* `Store.textKeyed_eq`: entries whose keys are different texts stay as they are in a query.
* `placeholders_of_compiled`: the names in the text and the parameters of a query.
-/

namespace GraphQuery

/-! ### Plain stems -/

/-- The configured stems are plain names, and the separator is white space. -/
structure Settings.IsTidy (settings : Settings) : Prop where
  stems : ∀ kind, ∃ name mark, settings.value (.ofKind kind) = .atom (.text name) mark ∧
    Text.isPlainName name.toList
  separator : ∃ sep mark, settings.value .separator = .atom (.text sep) mark ∧ Text.isBlank sep

/-- The stem that is suggested for an object. -/
def Object.stem? : Object → Option Name
  | reference r => r.stem
  | param p => p.stem
  | _ => none

/-- The suggested stems are plain names. -/
def Store.SuggestsPlain (s : Store) : Prop :=
  ∀ o ∈ s.objects, ∀ n, o.stem? = some n → Text.isPlainName n.running.toList

/-- The settings in which no field is given are tidy. -/
theorem Settings.defaults_isTidy : defaults.IsTidy := by
  refine ⟨fun kind => ?_, "\n", Setting.defaultMark, rfl, by decide⟩
  cases kind <;> exact ⟨_, _, rfl, by decide⟩

/-- The environment of a build has plain stems. -/
theorem Settings.IsTidy.worded {settings : Settings} (tidy : settings.IsTidy) (s : Store) :
    (s.freshEnvironment settings).Worded Wording.IsPlainName := by
  refine ⟨fun kind => ?_, fun a mem => absurd mem List.not_mem_nil⟩
  obtain ⟨name, mark, eq, plain⟩ := tidy.stems kind
  change (Wording.ofValue s.view (settings.value (.ofKind kind))).IsPlainName
  rw [eq]
  exact ⟨name, rfl, plain⟩

/-- The environment of a build has given no name yet. -/
theorem Settings.IsTidy.accounts {settings : Settings} (tidy : settings.IsTidy) (s : Store) :
    (s.freshEnvironment settings).Accounts [] := by
  refine Environment.accounts_blank (fun kind => ?_) s.view 0
  obtain ⟨name, mark, eq, -⟩ := tidy.stems kind
  change (settings.value (.ofKind kind)).text?.isSome
  rw [eq]
  rfl

/-- Clauses are put apart by white space. -/
theorem Settings.IsTidy.exists_separator {settings : Settings} (tidy : settings.IsTidy)
    (s : Store) :
    ∃ sep, (s.freshEnvironment settings).separator = .text sep ∧ Text.isBlank sep := by
  obtain ⟨sep, mark, eq, blank⟩ := tidy.separator
  refine ⟨sep, ?_, blank⟩
  change Wording.ofValue s.view (settings.value .separator) = .text sep
  rw [eq]
  rfl

/-! ### Tidy templates that are filled -/

section Tidy

variable {s : Store} {t : Template}

/-- What a tidy segment speaks of suggests plain names, if everything in the store does. -/
theorem Store.SuggestsPlain.suggests (plain : s.SuggestsPlain) {segment : Segment}
    (tidy : segment.Tidy s.grounds) : segment.Suggests Wording.IsPlainName := by
  constructor
  · intro b isBearer n stem
    have grounded : s.grounds.bearer b := by
      cases segment <;> cases isBearer <;> exact tidy
    obtain ⟨r, rfl, found⟩ := grounded
    exact Wording.isPlainName_ofName (plain _ (Array.mem_of_getElem? found) n stem)
  · intro p isParam n stem
    have grounded : s.grounds.param p := by
      cases segment <;> cases isParam
      exact tidy
    exact Wording.isPlainName_ofName (plain _ (Array.mem_of_getElem? grounded) n stem)

/-- A key is asked for just in case it is in the template. -/
theorem Template.mem_asks_key {p : Param} : Ask.key p ∈ t.asks ↔ .key p ∈ t := by
  unfold asks
  rw [List.mem_filterMap]
  constructor
  · rintro ⟨segment, mem, asked⟩
    cases segment with
    | label b | item b => cases b <;> cases asked
    | key p' =>
      cases asked
      exact mem
    | _ => cases asked
  · exact fun mem => ⟨.key p, mem, rfl⟩

end Tidy

/-! ### Putting a query together -/

/-- A value with a text is accepted as that text. -/
theorem acceptText_of_text? {v : Value} {s : String} (text : v.text? = some s) :
    acceptText v = .ok s := by
  cases v with
  | object h => cases text
  | atom a mark =>
    cases a with
    | text | direction =>
      cases text
      rfl
    | _ => cases text

/-- Different texts do not match. -/
theorem Value.matched_text_of_ne (view : ObjectView) {a b : String} (ne : a ≠ b) :
    matched view (.text a) (.text b) = false := by
  simp [matched, same, equal, Value.text, Atom.equal, Atom.name?, Name.word, ne]

/-- What is stored under a new text comes at the end. -/
theorem Value.store_of_new (view : ObjectView) {entries : List (Value × Value)} {a : String}
    (new : ∀ entry ∈ entries, ∃ b, entry.1 = .text b ∧ b ≠ a) (v : Value) :
    store view entries (.text a) v = entries ++ [(.text a, v)] := by
  have absent : (entries.any fun entry => matched view entry.1 (.text a)) = false := by
    rw [List.any_eq_false]
    intro entry mem
    obtain ⟨b, eq, ne⟩ := new entry mem
    rw [eq, matched_text_of_ne view ne]
    decide
  simp [store, absent]

/-- Entries whose keys are different texts are stored as they are, behind entries whose keys are
other texts. -/
theorem Store.foldl_store_eq (view : ObjectView) {params before : List (Value × Value)}
    (texts : ∀ entry ∈ params, ∃ a, entry.1.text? = some a)
    (nodup : (params.map fun entry => entry.1.text?).Nodup)
    (apart : ∀ entry ∈ before, ∃ a, entry.1 = .text a ∧
      some a ∉ params.map fun entry => entry.1.text?) :
    params.foldl (fun entries entry =>
        Value.store view entries ((acceptText entry.1).toOption.elim entry.1 .text) entry.2)
        before =
      before ++ params.map fun entry => (.text (entry.1.text?.getD ""), entry.2) := by
  induction params generalizing before with
  | nil => exact (List.append_nil before).symm
  | cons entry rest ih =>
    obtain ⟨⟨a, text⟩, others⟩ := List.forall_mem_cons.mp texts
    rw [List.map_cons, List.nodup_cons] at nodup
    have new : ∀ old ∈ before, ∃ b, old.1 = .text b ∧ b ≠ a := by
      intro old mem
      obtain ⟨b, eq, other⟩ := apart old mem
      refine ⟨b, eq, ?_⟩
      rintro rfl
      exact other (by simp [text])
    rw [List.foldl_cons, acceptText_of_text? text]
    change List.foldl _ (Value.store view before (.text a) entry.2) rest = _
    rw [Value.store_of_new view new, ih others nodup.2, List.append_assoc, List.map_cons, text]
    · rfl
    · intro old mem
      rcases List.mem_append.mp mem with mem | mem
      · obtain ⟨b, eq, other⟩ := apart old mem
        exact ⟨b, eq, fun later => other (List.mem_cons_of_mem _ later)⟩
      · rw [List.mem_singleton.mp mem]
        exact ⟨a, rfl, fun later => nodup.1 (text ▸ later)⟩

section TextKeyed

variable (view : ObjectView) {params : List (Value × Value)}
  (texts : ∀ entry ∈ params, ∃ a, entry.1.text? = some a)
  (nodup : (params.map fun entry => entry.1.text?).Nodup)
include texts nodup

/-- Entries whose keys are different texts stay as they are in a query. -/
theorem Store.textKeyed_eq :
    textKeyed view params = params.map fun entry => (.text (entry.1.text?.getD ""), entry.2) :=
  foldl_store_eq view texts nodup fun _ mem => absurd mem List.not_mem_nil

/-- The texts of the keys are still the same in a query, and so are the values. -/
theorem Store.textKeyed_texts :
    (textKeyed view params).map (fun entry => (entry.1.text?, entry.2)) =
      params.map fun entry => (entry.1.text?, entry.2) := by
  rw [textKeyed_eq view texts nodup, List.map_map]
  refine List.map_congr_left fun entry mem => ?_
  obtain ⟨a, text⟩ := texts entry mem
  simp only [Function.comp_apply, text]
  rfl

/-- The keys of a query are texts. -/
theorem Store.textKeyed_isText {entry : Value × Value} (mem : entry ∈ textKeyed view params) :
    ∃ name, entry.1 = .text name := by
  rw [textKeyed_eq view texts nodup] at mem
  obtain ⟨old, -, rfl⟩ := List.mem_map.mp mem
  exact ⟨_, rfl⟩

/-- No two parameters of a query have one key. -/
theorem Store.textKeyed_nodup : ((textKeyed view params).map (·.1)).Nodup := by
  refine .of_map Value.text? ?_
  have keys := congrArg (List.map Prod.fst) (textKeyed_texts view texts nodup)
  simp only [List.map_map, Function.comp_def] at keys ⊢
  rw [keys]
  exact nodup

/-- A query has a value under a text just in case the entries have. -/
theorem Store.mem_textKeyed_iff (name : String) (v : Value) :
    (.text name, v) ∈ textKeyed view params ↔
      (some name, v) ∈ params.map fun entry => (entry.1.text?, entry.2) := by
  rw [← textKeyed_texts view texts nodup]
  constructor
  · exact fun mem => List.mem_map.mpr ⟨_, mem, rfl⟩
  · intro mem
    obtain ⟨⟨key, _⟩, stored, eq⟩ := List.mem_map.mp mem
    obtain ⟨text_eq, rfl⟩ := Prod.mk.inj eq
    obtain ⟨a, rfl⟩ := textKeyed_isText view texts nodup stored
    cases text_eq
    exact stored

end TextKeyed

/-! ### Compiling -/

/-- A query is put together from a writing that did not fail. -/
theorem Store.compile_ok {s : Store} {settings : Settings} {h : Nat} {q : CompiledQuery}
    (compiled : (s.compile settings h).result = .ok q) :
    let w := s.write h (s.freshEnvironment settings)
    w.fault? = none ∧ query s.view w.value w.pen.env.params = .ok q := by
  intro w
  unfold compile at compiled
  dsimp only at compiled
  split at compiled
  · cases compiled
  · rename_i fault
    exact ⟨fault, compiled⟩

/-- A query has the text that it is given and the parameters under their texts. -/
theorem Store.query_ok {view : ObjectView} {text : Value} {params : List (Value × Value)}
    {q : CompiledQuery} (ok : query view text params = .ok q) :
    acceptText text = .ok q.text ∧ q.params = textKeyed view params := by
  unfold query at ok
  split at ok
  · rename_i accepted _
    cases ok
    exact ⟨accepted, rfl⟩
  · cases ok
  · cases ok

/-- In an environment that has met the keys of a template, the parameters are those that were
written, under the names that they were written with. -/
theorem Template.Writes.mem_params_iff {s : Store} {sep : String} {e : Environment} {t : Template}
    {pieces : List Piece} (h : Template.Writes sep e t pieces)
    (accounts : e.Accounts (Ask.firsts t.asks)) (grounded : ∀ p, .key p ∈ t → s.grounds.param p)
    (name : String) (v : Value) :
    (some name, v) ∈ e.params.map (fun entry => (entry.1.text?, entry.2)) ↔
      ∃ p, (p, name) ∈ pieces.filterMap Piece.key? ∧ p.value = v := by
  rw [accounts.params_eq]
  constructor
  · intro mem
    obtain ⟨p, first, eq⟩ := List.mem_map.mp mem
    obtain ⟨ask, ask_mem, sought⟩ := List.mem_filterMap.mp first
    obtain rfl : ask = .key p := by
      cases ask <;> cases sought
      rfl
    obtain ⟨text_eq, value_eq⟩ := Prod.mk.inj eq
    obtain ⟨name', written⟩ := h.exists_name (mem_asks_key.mp (Ask.mem_of_mem_firsts ask_mem))
    rw [Environment.text?_of_find? (h.of_key written).2] at text_eq
    cases text_eq
    exact ⟨p, written, value_eq⟩
  · rintro ⟨p, written, rfl⟩
    obtain ⟨key_mem, found⟩ := h.of_key written
    obtain ⟨ask, first, role_eq, id_eq⟩ := Ask.exists_same_firsts (mem_asks_key.mpr key_mem)
    cases ask with
    | label r => cases role_eq
    | key p' =>
      -- One handle is that of one parameter.
      have held := grounded p' (mem_asks_key.mp (Ask.mem_of_mem_firsts first))
      have held' := grounded p key_mem
      change p'.id = p.id at id_eq
      change s.get? p'.id = _ at held
      rw [id_eq, held'] at held
      cases held
      refine List.mem_map.mpr ⟨p, List.mem_filterMap.mpr ⟨.key p, first, rfl⟩, ?_⟩
      rw [Environment.text?_of_find? found]

/-- Something that the library has assembled is compiled, where all stems are plain names and
clauses are put apart by white space. The text of the query is what was written, and a reader meets
the names of the keys in it, in their order, whatever stands in backticks. The parameters of the
query have these names and no others, each name once and with the value of the parameter that was
written there. -/
theorem placeholders_of_compiled {s : Store} (assembled : s.Assembled) (plain : s.SuggestsPlain)
    {settings : Settings} (tidy : settings.IsTidy) {h : Nat} {q : CompiledQuery}
    (compiled : (s.compile settings h).result = .ok q) :
    let w := s.write h (s.freshEnvironment settings)
    q.text = w.text ∧
    Text.placeholders q.text = w.keys.map (·.2) ∧
    (∀ p name, (p, name) ∈ w.keys → s.get? p.id = some (.param p)) ∧
    (∀ entry ∈ q.params, ∃ name, entry.1 = .text name) ∧
    (q.params.map (·.1)).Nodup ∧
    (∀ name v, (.text name, v) ∈ q.params ↔ ∃ p, (p, name) ∈ w.keys ∧ p.value = v) ∧
    ∀ name, name ∈ Text.placeholders q.text ↔ ∃ v, (.text name, v) ∈ q.params := by
  intro w
  obtain ⟨ok, made⟩ := Store.compile_ok compiled
  obtain ⟨sep, separator, blank⟩ := tidy.exists_separator s
  -- The template is tidy, so its segments speak of what is in the store.
  have tidied : Template.Tidy s.grounds (s.template h) :=
    (assembled.sound.tree_clean h).template.tidy
  have segments := tidied.of_mem ok
  have suggests := fun segment mem => plain.suggests (segments segment mem)
  have references := fun segment mem => (segments segment mem).references
  have written := Template.fill_writes (tidy.worded s) separator suggests ok
  have accounts : w.pen.env.Accounts (Ask.firsts (s.template h).asks) := by
    have env_eq : w.pen.env = (s.freshEnvironment settings).after (s.template h).asks :=
      Template.fill_after references ok
    rw [env_eq]
    exact (tidy.accounts s).after _
  have texts := fun entry (mem : entry ∈ w.pen.env.params) => accounts.exists_text mem
  have nodup := accounts.params_nodup
  obtain ⟨accepted, params_eq⟩ := Store.query_ok made
  have text_eq : q.text = w.text := Except.ok.inj (accepted.symm.trans written.acceptText_value)
  have names : Text.placeholders q.text = w.keys.map (·.2) := by
    rw [text_eq]
    exact written.placeholders_eq blank tidied
  have entries : ∀ name v, (.text name, v) ∈ q.params ↔
      ∃ p, (p, name) ∈ w.keys ∧ p.value = v := by
    intro name v
    rw [params_eq, Store.mem_textKeyed_iff s.view texts nodup]
    exact written.mem_params_iff accounts (fun p mem => segments _ mem) name v
  refine ⟨text_eq, names, ?_, ?_, ?_, entries, ?_⟩
  · intro p name mem
    exact segments _ (written.of_key mem).1
  · rw [params_eq]
    exact fun _ => Store.textKeyed_isText s.view texts nodup
  · rw [params_eq]
    exact Store.textKeyed_nodup s.view texts nodup
  · intro name
    rw [names, List.mem_map]
    constructor
    · rintro ⟨⟨p, _⟩, mem, rfl⟩
      exact ⟨p.value, (entries _ _).mpr ⟨p, mem, rfl⟩⟩
    · rintro ⟨v, mem⟩
      obtain ⟨p, mem, -⟩ := (entries name v).mp mem
      exact ⟨_, mem, rfl⟩

/-- A clause that matches a node by a property whose name looks like a parameter. -/
theorem placeholders_of_compiled_title :
    let calls : List Construction := [.node .null none, .propertyOf (.object 0) [.text "$title"],
      .comparison "=" (.object 1) (.text "Heat"), .read false (.bool false) [.object 0],
      .build 5 (.restrict (.object 3))]
    let s := calls.foldl (fun s c => (outcome c.perform.run s).2) .empty
    ∃ q, (s.compile .defaults 5).result = .ok q ∧
      q.text = "MATCH (this0)\nWHERE this0.`$title` = $param1" ∧
      ∀ name, name ∈ Text.placeholders q.text ↔ ∃ v, (.text name, v) ∈ q.params := by
  intro calls s
  have assembled : s.Assembled := by
    refine Store.Assembled.empty.called <| .plain trivial rfl <| .plain trivial rfl <|
      .plain ?equals rfl <| .plain trivial rfl <| .plain trivial rfl .nil
    exact (by decide : "=" ∈ comparisonOperators)
  have plain : s.SuggestsPlain := by
    have unnamed : ∀ o ∈ s.objects, o.stem? = none := by decide +kernel
    intro o mem n stem
    cases (unnamed o mem).symm.trans stem
  have text : (s.compile .defaults 5).result.toOption.map CompiledQuery.text =
      some "MATCH (this0)\nWHERE this0.`$title` = $param1" := by decide +kernel
  obtain ⟨q, compiled, text_eq⟩ := Option.map_eq_some_iff.mp text
  cases result : (s.compile .defaults 5).result with
  | error f => simp [result, Except.toOption] at compiled
  | ok q' =>
    rw [result] at compiled
    cases compiled
    obtain ⟨-, -, -, -, -, -, names⟩ :=
      placeholders_of_compiled assembled plain Settings.defaults_isTidy result
    exact ⟨q, rfl, text_eq, names⟩

end GraphQuery
