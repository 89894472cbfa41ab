import GraphQuery.Proofs.Assembly.Exported
import GraphQuery.Proofs.Naming.Numbering
import GraphQuery.Proofs.Rendering.Written
import GraphQuery.Proofs.Store.Tidiness

/-!
Names are given in the order of the text.

Wherever a label or a key is written, a question is put to the environment, and what is written next
stands behind it in the text. So the places of a text at which names stand are, from left to right,
the questions that the environment has answered, and its ledger is that of the first places.

* `Place`, `Writing.places`: the places of a text at which a name was written.
* `Writing.Traces`: the environment has answered the questions of the pieces and no others. A
  segment keeps this (`Segment.write_traces`), and so does a template (`Template.fill_traces`).
* `allocated_in_textual_order`: the ledger, the parameters and the numbers of names, read off the
  places of a text.
-/

namespace GraphQuery

/-! ### Places -/

/-- A place of a text at which a name was written: what stands in front of it, what was asked there,
the name that was answered, and what was written for it. -/
structure Place where
  before : String
  ask : Ask
  name : Wording
  shown : String

namespace Place

/-- The entry of the ledger that a place calls for. -/
def entry (p : Place) : Allocation := ⟨p.ask.role, p.ask.id, p.name, p.ask.param?⟩

/-- The environment knows the name at the place, and what stands there is the name: a label as it is
written in running text or on its own, a key behind its sign. -/
structure Honest (e : Environment) (p : Place) : Prop where
  found : e.find? p.ask.role p.ask.id = some p.name
  shows : match p.ask with
    | .label _ => p.name.written = .ok p.shown ∨ p.name.word? = some p.shown
    | .key _ => ∃ s, p.name.written = .ok s ∧ p.shown = "$" ++ s

/-- The name at a place stays what it is when the environment goes on. -/
theorem Honest.mono {e e' : Environment} {p : Place} (h : p.Honest e) (ext : e.Extends e') :
    p.Honest e' :=
  ⟨ext.find?_eq h.found, h.shows⟩

/-- The places up to a further one, each instance only once. -/
def noted (seen : List Place) (p : Place) : List Place :=
  if ∃ q ∈ seen, q.ask.Same p.ask then seen else seen ++ [p]

/-- The first places of each instance, in their order. -/
def firsts (places : List Place) : List Place := places.foldl noted []

/-- The first places are those of the first questions. -/
theorem firsts_asks (places : List Place) :
    (firsts places).map ask = Ask.firsts (places.map ask) := by
  have step : ∀ seen p, (noted seen p).map ask = Ask.noted (seen.map ask) p.ask := by
    intro seen p
    unfold noted Ask.noted
    have asked : (∃ a ∈ seen.map ask, a.Same p.ask) ↔ ∃ q ∈ seen, q.ask.Same p.ask := by simp
    rw [if_congr asked rfl rfl]
    split <;> simp
  induction places using List.reverseRecOn with
  | nil => rfl
  | append_singleton places p ih =>
    simp only [firsts, Ask.firsts, List.map_append, List.map_cons, List.map_nil, List.foldl_append,
      List.foldl_cons, List.foldl_nil] at ih ⊢
    rw [step, ih]

/-- A first place is a place. -/
theorem mem_of_mem_firsts {places : List Place} {p : Place} (mem : p ∈ firsts places) :
    p ∈ places := by
  induction places using List.reverseRecOn with
  | nil => cases mem
  | append_singleton places q ih =>
    simp only [firsts, List.foldl_append, List.foldl_cons, List.foldl_nil] at mem
    change p ∈ noted (firsts places) q at mem
    unfold noted at mem
    split at mem
    · exact List.mem_append_left _ (ih mem)
    · rcases List.mem_append.mp mem with mem | mem
      · exact List.mem_append_left _ (ih mem)
      · exact List.mem_append_right _ mem

end Place

namespace Piece

/-- The place of a piece behind a text, if a label of a reference or a key is written there. -/
def place? (before : String) : Piece → Option Place
  | label (.reference r) given s => some ⟨before, .label r, given, s⟩
  | key p given s => some ⟨before, .key p, given, s⟩
  | _ => none

/-- The question whose answer the piece shows. -/
def ask? (piece : Piece) : Option Ask := (piece.place? "").map Place.ask

theorem map_place? (before : String) (piece : Piece) :
    (piece.place? before).map Place.ask = piece.ask? := by
  cases piece with
  | label b given s => cases b <;> rfl
  | _ => rfl

/-- A place begins where its piece does, and what stands there is what was written. -/
theorem place?_eq {before : String} {piece : Piece} {p : Place}
    (h : piece.place? before = some p) : p.before = before ∧ p.shown = piece.written := by
  cases piece with
  | label b given s =>
    cases b with
    | reference r =>
      cases h
      exact ⟨rfl, rfl⟩
    | param _ => cases h
  | key q given s =>
    cases h
    exact ⟨rfl, rfl⟩
  | _ => cases h

/-- If the piece shows a name then the environment knows it. -/
def Honest (e : Environment) (piece : Piece) : Prop :=
  ∀ before p, piece.place? before = some p → p.Honest e

/-- The places of pieces behind a text, from left to right. -/
def places (before : String) : List Piece → List Place
  | [] => []
  | piece :: rest => (piece.place? before).toList ++ places (before ++ piece.written) rest

theorem mem_places_cons {before : String} {piece : Piece} {rest : List Piece} {p : Place} :
    p ∈ places before (piece :: rest) ↔
      piece.place? before = some p ∨ p ∈ places (before ++ piece.written) rest := by
  simp [places]

/-- The places show the answers that the pieces show. -/
theorem places_asks (before : String) (pieces : List Piece) :
    (places before pieces).map Place.ask = pieces.filterMap ask? := by
  induction pieces generalizing before with
  | nil => rfl
  | cons piece rest ih =>
    rw [places, List.map_append, ih, List.filterMap_cons, ← map_place? before]
    cases piece.place? before <;> rfl

/-- Every place is the place of a piece. -/
theorem exists_of_mem_places {before : String} {pieces : List Piece} {p : Place}
    (mem : p ∈ places before pieces) : ∃ piece ∈ pieces, piece.place? p.before = some p := by
  induction pieces generalizing before with
  | nil => cases mem
  | cons piece rest ih =>
    rcases mem_places_cons.mp mem with here | later
    · refine ⟨piece, List.mem_cons_self, ?_⟩
      rw [(place?_eq here).1]
      exact here
    · obtain ⟨piece', mem', eq⟩ := ih later
      exact ⟨piece', List.mem_cons_of_mem _ mem', eq⟩

/-- A place lies behind the text in front of the pieces. -/
theorem places_behind {before : String} {pieces : List Piece} {p : Place}
    (mem : p ∈ places before pieces) : ∃ between, p.before = before ++ between := by
  induction pieces generalizing before with
  | nil => cases mem
  | cons piece rest ih =>
    rcases mem_places_cons.mp mem with here | later
    · exact ⟨"", by rw [(place?_eq here).1, String.append_empty]⟩
    · obtain ⟨between, eq⟩ := ih later
      exact ⟨piece.written ++ between, by rw [eq, String.append_assoc]⟩

/-- What is written at a place is in the text there. -/
theorem places_text {before : String} {pieces : List Piece} {p : Place}
    (mem : p ∈ places before pieces) :
    ∃ behind, before ++ String.join (pieces.map written) = p.before ++ p.shown ++ behind := by
  induction pieces generalizing before with
  | nil => cases mem
  | cons piece rest ih =>
    rw [List.map_cons, String.join_cons, ← String.append_assoc]
    rcases mem_places_cons.mp mem with here | later
    · obtain ⟨before_eq, shown_eq⟩ := place?_eq here
      exact ⟨String.join (rest.map written), by rw [before_eq, shown_eq]⟩
    · exact ih later

/-- The places follow one behind another. -/
theorem places_pairwise (before : String) (pieces : List Piece) :
    (places before pieces).Pairwise fun p q =>
      ∃ between, q.before = p.before ++ p.shown ++ between := by
  induction pieces generalizing before with
  | nil => exact .nil
  | cons piece rest ih =>
    rw [places]
    cases here : piece.place? before with
    | none => exact ih _
    | some p =>
      obtain ⟨before_eq, shown_eq⟩ := place?_eq here
      refine .cons (fun q mem => ?_) (ih _)
      rw [before_eq, shown_eq]
      exact places_behind mem

end Piece

/-- The places of what was written at which a name stands, from left to right. -/
def Writing.places (w : Writing Environment) : List Place := Piece.places "" w.pieces

/-- The questions whose answers were written, from left to right. -/
def Writing.asks (w : Writing Environment) : List Ask := w.pieces.filterMap Piece.ask?

theorem Writing.places_asks (w : Writing Environment) : w.places.map Place.ask = w.asks :=
  Piece.places_asks "" w.pieces

/-! ### Writing puts the questions of its places -/

namespace Environment

/-- Where all stems are texts, every question is answered with a text. -/
theorem Worded.exists_answer {e : Environment} (h : e.Worded Wording.IsText) (role : Role)
    (owner : Nat) {stem : Wording} (isText : stem.IsText) (param? : Option Value) :
    ∃ name, (e.nameFor role owner stem param?).answer = .ok name ∧ name.IsText := by
  cases answered : (e.nameFor role owner stem param?).answer with
  | ok name => exact ⟨name, rfl, h.answer numbered_isText isText answered⟩
  | error f =>
    unfold Environment.nameFor at answered
    split at answered
    · cases answered
    · cases allocate_allocates e role owner stem param? with
      | named _ _ answer =>
        rw [answer] at answered
        cases answered
      | failed noText _ _ => exact absurd isText noText

/-- In a new environment all stems are texts, and there is no name yet. -/
theorem worded_blank {n : Naming} (texts : ∀ kind, (n.stems kind).text?.isSome)
    (view : ObjectView) (mark : Nat) :
    (n.environment view (.blank mark)).Worded Wording.IsText :=
  ⟨fun kind => Wording.isText_ofValue view (texts kind), fun _ mem => absurd mem List.not_mem_nil⟩

end Environment

/-- What was written shows the answers to the questions that were put to an environment on the way,
and all names that were passed over have been told of. -/
structure Writing.Traces (e : Environment) (w : Writing Environment) : Prop where
  env_eq : w.pen.env = e.after w.asks
  honest : ∀ piece ∈ w.pieces, piece.Honest w.pen.env
  told : ∀ o ∈ e.passedOver w.asks, o ∈ w.occurrences

section Filling

variable {pen : Pen Environment}

/-- With a name that was answered, writing goes on. -/
theorem Pen.take_of_answer {given : Allocated Environment Wording} {name : Wording}
    (answered : given.answer = .ok name)
    (write : Pen Environment → Wording → Writing Environment) :
    pen.take given write =
      { write ⟨given.env, pen.lists⟩ name with
        occurrences := given.occurrences ++ (write ⟨given.env, pen.lists⟩ name).occurrences } := by
  simp only [take, answered]

/-- A piece that shows the answer to a question traces the environment. -/
theorem Writing.traces_piece {a : Ask} {given : Allocated Environment Wording} {piece : Piece}
    {lists : List Bool} (put : a.put pen.env = given) (asks : piece.ask? = some a)
    (honest : piece.Honest given.env) :
    Writing.Traces pen.env ⟨⟨given.env, lists⟩, [piece], given.occurrences, none⟩ := by
  have asks_eq : Writing.asks ⟨⟨given.env, lists⟩, [piece], given.occurrences, none⟩ = [a] := by
    simp [Writing.asks, asks]
  refine ⟨?_, List.forall_mem_singleton.mpr honest, ?_⟩
  · rw [asks_eq, Environment.after_cons, put]
    rfl
  · rw [asks_eq]
    simp [Environment.passedOver, put]

/-- Where no question is put, no name is written. -/
theorem Writing.traces_nameless {w : Writing Environment} (env_eq : w.pen.env = pen.env)
    (nameless : ∀ piece ∈ w.pieces, ∀ before, piece.place? before = none) :
    w.Traces pen.env := by
  have asks_eq : w.asks = [] := by
    refine List.filterMap_eq_nil_iff.mpr fun piece mem => ?_
    rw [← Piece.map_place? "", nameless piece mem]
    rfl
  refine ⟨?_, fun piece mem before p found => ?_, ?_⟩
  · rw [asks_eq, env_eq]
    rfl
  · rw [nameless piece mem] at found
    cases found
  · rw [asks_eq]
    exact fun _ mem => absurd mem List.not_mem_nil

/-- Writing a segment shows the answer to its question. -/
theorem Segment.write_traces (worded : pen.env.Worded Wording.IsText) {segment : Segment}
    (references : ∀ b, segment.bearer? = some b → ∃ r, b = .reference r) :
    (segment.write pen).Traces pen.env := by
  have stemmed : ∀ (suggested : Option Name) kind, (pen.env.stemFor suggested kind).IsText :=
    fun _ => worded.stemFor fun n _ => Wording.isText_ofName n
  cases segment with
  | label b =>
    obtain ⟨r, rfl⟩ := references b rfl
    obtain ⟨name, answered, isText⟩ := worded.exists_answer .label r.id (stemmed r.stem r.kind) none
    obtain ⟨s, written⟩ := isText.exists_written
    have found := Environment.find?_of_nameFor (stemmed r.stem r.kind).isNull_eq answered
    change (Registry.labelFor pen.env (.reference r)).answer = .ok name at answered
    rw [Segment.write, Pen.take_of_answer answered]
    simp only [Pen.run, written, Pen.put, List.append_nil]
    refine Writing.traces_piece (a := .label r) rfl rfl fun before p eq => ?_
    cases eq
    exact ⟨found, .inl written⟩
  | item b =>
    obtain ⟨r, rfl⟩ := references b rfl
    obtain ⟨name, answered, isText⟩ := worded.exists_answer .label r.id (stemmed r.stem r.kind) none
    obtain ⟨s, word⟩ := isText.exists_word
    have found := Environment.find?_of_nameFor (stemmed r.stem r.kind).isNull_eq answered
    change (Registry.labelFor pen.env (.reference r)).answer = .ok name at answered
    rw [Segment.write, Pen.take_of_answer answered]
    simp only [word, Pen.put, List.append_nil]
    refine Writing.traces_piece (a := .label r) rfl rfl fun before p eq => ?_
    cases eq
    exact ⟨found, .inr word⟩
  | key q =>
    obtain ⟨name, answered, isText⟩ :=
      worded.exists_answer .key q.id (stemmed q.stem .param) (some q.value)
    obtain ⟨s, written⟩ := isText.exists_written
    have found := Environment.find?_of_nameFor (stemmed q.stem .param).isNull_eq answered
    change (Registry.keyFor pen.env q).answer = .ok name at answered
    rw [Segment.write, Pen.take_of_answer answered]
    simp only [Pen.run, written, Pen.put, List.append_nil]
    refine Writing.traces_piece (a := .key q) rfl rfl fun before p eq => ?_
    cases eq
    exact ⟨found, s, written, rfl⟩
  | formed | joining | joined | blank | blankItem | closeList =>
    simp only [Segment.write]
    split <;> refine Writing.traces_nameless ?_ ?_ <;>
      simp [Pen.rest, Pen.put, Pen.fail, Piece.place?]
  | text _ | separator | joint | openList | union _ _ | fault _ =>
    refine Writing.traces_nameless rfl ?_
    simp [Segment.write, Pen.rest, Pen.put, Pen.fail, Piece.place?]

/-- One writing after another shows the answers of both. -/
theorem Writing.Traces.append {e : Environment} {w w' : Writing Environment} (h : w.Traces e)
    (h' : w'.Traces w.pen.env) (ext : w.pen.env.Extends w'.pen.env) {fault? : Option Fault} :
    Writing.Traces e
      ⟨w'.pen, w.pieces ++ w'.pieces, w.occurrences ++ w'.occurrences, fault?⟩ := by
  have asks_eq : Writing.asks
      ⟨w'.pen, w.pieces ++ w'.pieces, w.occurrences ++ w'.occurrences, fault?⟩ =
        w.asks ++ w'.asks :=
    List.filterMap_append
  refine ⟨?_, ?_, ?_⟩
  · rw [asks_eq, Environment.after_append, ← h.env_eq]
    exact h'.env_eq
  · refine List.forall_mem_append.mpr ⟨fun piece mem before p found => ?_, h'.honest⟩
    exact (h.honest piece mem before p found).mono ext
  · rw [asks_eq, Environment.passedOver_append, ← h.env_eq]
    intro o mem
    rcases List.mem_append.mp mem with first | later
    · exact List.mem_append_left _ (h.told o first)
    · exact List.mem_append_right _ (h'.told o later)

/-- Filling a tidy template shows the answers to the questions that are put on the way, as far as it
gets. -/
theorem Template.fill_traces {s : Store} {t : Template} (tidy : Template.Tidy s.grounds t)
    (worded : pen.env.Worded Wording.IsText) : (t.fill pen).Traces pen.env := by
  have suggests := Segment.suggests_of_forall Wording.isText_ofName
  induction tidy generalizing pen with
  | nil => exact Writing.traces_nameless rfl fun _ mem => absurd mem List.not_mem_nil
  | @cons segment rest tidy _ _ ih =>
    have first := Segment.write_traces worded (Segment.Tidy.references tidy)
    simp only [fill]
    split
    · exact first
    · have others := ih (Segment.write_worded Environment.numbered_isText worded (suggests segment))
      exact first.append others (fill_extends _ rest)
  | fault => exact Writing.traces_nameless rfl fun _ mem => absurd mem List.not_mem_nil

end Filling

/-! ### The ledger of the places -/

/-- The entries of the ledger are those that the first places call for. -/
theorem Environment.Accounts.allocations_eq {e : Environment} {places : List Place}
    (accounts : e.Accounts (Ask.firsts (places.map Place.ask)))
    (honest : ∀ p ∈ places, p.Honest e) :
    e.allocations = (Place.firsts places).map Place.entry := by
  have made := accounts.entries
  rw [← Place.firsts_asks, List.forall₂_map_right_iff] at made
  have known := (List.forall₂_and_left _ _).mpr ⟨fun _ mem => accounts.find?_eq mem, made⟩
  have shown := (List.forall₂_and_left _ _).mpr
    ⟨fun p mem => honest p (Place.mem_of_mem_firsts mem), known.flip⟩
  have entries : List.Forall₂ (fun a p => a = Place.entry p) e.allocations
      (Place.firsts places) := by
    refine shown.flip.imp fun a p ⟨honest, found, made⟩ => ?_
    -- The name of the entry and the name at the place are found under one instance.
    have name_eq : a.name = p.name := by
      rw [made.role_eq, made.owner_eq, honest.found] at found
      exact (Option.some.inj found).symm
    obtain ⟨role, owner, name, param?⟩ := a
    obtain ⟨rfl, rfl, rfl⟩ := made
    cases name_eq
    rfl
  exact List.forall₂_eq_eq_eq ▸ List.forall₂_map_right_iff.mpr entries

/-- Something that the library has assembled is written in a new environment whose stems are texts,
as far as that goes. The places at which labels of references and keys of parameters were written
follow one behind another in the text, and what stands there is the name that the environment knows.
The ledger has an entry for the first place of each instance, in the order of the places and with a
text that no other entry has, and the parameters are those of the keys among them. If no name had to
be passed over then the entries are numbered from nought on, each behind the stem that is suggested
for the instance or else configured for its kind. -/
theorem allocated_in_textual_order {s : Store} (assembled : s.Assembled) (n : Naming)
    (view : ObjectView) (mark : Nat) (texts : ∀ kind, (n.stems kind).text?.isSome) (h : Nat) :
    let e := n.environment view (.blank mark)
    let w := s.write h e
    let firsts := Place.firsts w.places
    (∀ p ∈ w.places, p.Honest w.pen.env ∧ ∃ behind, w.text = p.before ++ p.shown ++ behind) ∧
    w.places.Pairwise (fun p q => ∃ between, q.before = p.before ++ p.shown ++ between) ∧
    w.pen.env.allocations = firsts.map Place.entry ∧
    (firsts.map fun p => p.name.word?).Nodup ∧
    w.pen.env.params =
      firsts.filterMap (fun p => p.ask.param?.map fun v => (p.name.handed mark, v)) ∧
    ((∀ event ∈ w.events, ∀ identifier index, event ≠ .collision identifier index) →
      ∀ (k : Nat) (p : Place), firsts[k]? = some p →
        p.name = (p.ask.stem e).numbered e.bareFirst k) := by
  intro e w firsts
  -- The template is tidy, so the names in it are those of references and parameters.
  have tidy : Template.Tidy s.grounds (s.template h) :=
    (assembled.sound.tree_clean h).template.tidy
  have traces : w.Traces e := by
    change (Template.fill ⟨e, []⟩ (s.template h)).Traces (Pen.mk e []).env
    exact Template.fill_traces tidy (Environment.worded_blank texts view mark)
  have ext : e.Extends w.pen.env := s.write_extends h e
  have honest : ∀ p ∈ w.places, p.Honest w.pen.env := by
    intro p mem
    obtain ⟨piece, written, found⟩ := Piece.exists_of_mem_places mem
    exact traces.honest piece written p.before p found
  have accounts : w.pen.env.Accounts (Ask.firsts (w.places.map Place.ask)) := by
    rw [w.places_asks, traces.env_eq]
    exact (Environment.accounts_blank texts view mark).after w.asks
  have ledger : w.pen.env.allocations = firsts.map Place.entry := accounts.allocations_eq honest
  refine ⟨fun p mem => ⟨honest p mem, ?_⟩, Piece.places_pairwise "" w.pieces, ledger, ?_, ?_, ?_⟩
  · have located := Piece.places_text mem
    rwa [String.empty_append] at located
  · have nodup := accounts.texts
    rwa [ledger, List.map_map] at nodup
  · have mark_eq : w.pen.env.mark = mark := ext.mark_eq
    unfold Environment.params
    rw [ledger, List.filterMap_map, mark_eq]
    rfl
  · intro smooth k p at_k
    have passed : e.passedOver w.asks = [] := by
      refine List.eq_nil_iff_forall_not_mem.mpr fun o mem => ?_
      obtain ⟨identifier, index, eq⟩ := e.passedOver_collision w.asks o mem
      exact smooth o.event (List.mem_map_of_mem (traces.told o mem)) identifier index eq
    have counted := (Environment.counted_blank n view mark).after
      (Environment.accounts_blank texts view mark) passed
    have names := counted.names
    -- In the end, stems are what they were at first.
    rw [← traces.env_eq, ledger, List.map_map, ext.bareFirst_eq] at names
    simp only [Ask.stem_eq ext] at names
    change (firsts.map fun p => p.name) = (Ask.firsts w.asks).mapIdx _ at names
    rw [← w.places_asks, ← Place.firsts_asks] at names
    have kth := congrArg (fun names => names[k]?) names
    simpa [firsts, at_k] using kth

/-- A node is matched on a path and by a property: the path stands in front, so it has number nought
though the node was made before. -/
theorem allocated_in_textual_order_path :
    let calls : List Construction := [.node .null none, .reference .path .null,
      .propertyOf (.object 0) [.text "age"], .comparison ">=" (.object 2) (.int 18),
      .read false (.bool false) [.object 0], .build 6 (.path (.object 1)),
      .build 6 (.restrict (.object 4))]
    let s := Store.empty.called calls
    let e := (Settings.defaults.naming [] none none).environment s.view (.blank 0)
    let w := s.write 6 e
    let firsts := Place.firsts w.places
    w.text = "MATCH p0 = (this1)\nWHERE this1.age >= $param2" ∧
      w.places.map (·.shown) = ["p0", "this1", "this1", "$param2"] ∧
      w.pen.env.allocations = firsts.map Place.entry ∧
      ∀ (k : Nat) (p : Place), firsts[k]? = some p →
        p.name = (p.ask.stem e).numbered e.bareFirst k := by
  intro calls s e w firsts
  have exported : Store.empty.ExportedInTurn calls := by
    refine .plain trivial rfl <| .plain trivial rfl <| .plain trivial rfl <|
      .plain ?operator rfl <| .plain trivial rfl <| .plain trivial rfl <| .plain trivial rfl .nil
    exact (by decide : ">=" ∈ comparisonOperators)
  have assembled : s.Assembled := Store.Assembled.empty.called exported
  have texts : ∀ kind, ((Settings.defaults.naming [] none none).stems kind).text?.isSome := by
    intro kind
    cases kind <;> rfl
  have quiet : w.events = [] := List.isEmpty_iff.mp (by decide +kernel)
  have text : w.text = "MATCH p0 = (this1)\nWHERE this1.age >= $param2" := by decide +kernel
  have shown : w.places.map (·.shown) = ["p0", "this1", "this1", "$param2"] := by decide +kernel
  -- From here on it does not matter what is in the store.
  clear_value s
  obtain ⟨-, -, ledger, -, -, numbered⟩ :=
    allocated_in_textual_order assembled _ s.view 0 texts 6
  refine ⟨text, shown, ledger, numbered fun event mem => ?_⟩
  rw [quiet] at mem
  cases mem

end GraphQuery
