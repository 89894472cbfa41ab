import GraphQuery.Proofs.Naming.Namespace
import GraphQuery.Proofs.Rendering.Stability
import GraphQuery.Proofs.Rendering.Tidiness
import GraphQuery.Settings.Basic

/-!
What is written for a template when nothing fails.

All names are plain, and the separator is white space. Then each segment is written in one way only,
a key with the name that its parameter has in the end. So the names that are met in the text of a
tidy template are those of its keys, and the ledger is that of the questions for its labels and
keys.

* `Template.Writes`: pieces are those of a template.
* `Template.fill_writes`: a template that is filled without a fault writes such pieces.
* `Template.Writes.namesFrom_eq`: the names that are met in their text.
* `Template.fill_after`: the environment in the end.
-/

namespace GraphQuery

/-! ### Plain names -/

namespace Wording

/-- The wording is a text that is a plain name. -/
def IsPlainName (w : Wording) : Prop := ∃ s, w = .text s ∧ Text.isPlainName s.toList

theorem numbered_isPlainName : Environment.Numbered IsPlainName := by
  rintro _ s ⟨_, rfl, plain⟩ written bareFirst index
  cases written
  exact ⟨_, rfl, Text.isPlainName_numberedName plain bareFirst index⟩

/-- A name that is written as a plain name is a text. -/
theorem isPlainName_ofName {n : Name} (plain : Text.isPlainName n.running.toList) :
    (ofName n).IsPlainName := by
  cases n with
  | text s => exact ⟨s, rfl, plain⟩
  | direction d => cases d <;> exact absurd plain (by decide)

end Wording

/-- A name that is answered has the property of all names. -/
theorem Environment.Worded.answer {P : Wording → Prop} {e : Environment} (h : e.Worded P)
    (numbered : Numbered P) {role : Role} {owner : Nat} {stem name : Wording}
    {param? : Option Value} (worded : P stem)
    (answered : (e.nameFor role owner stem param?).answer = .ok name) : P name := by
  unfold Environment.nameFor at answered
  split at answered
  · rename_i found
    cases answered
    obtain ⟨a, a_found, rfl⟩ := Option.map_eq_some_iff.mp found
    exact h.names a (List.mem_of_find?_eq_some a_found)
  · cases allocate_allocates e role owner stem param? with
    | named makes _ answer =>
      rw [answer] at answered
      cases answered
      exact makes.worded numbered worded
    | failed _ _ answer =>
      rw [answer] at answered
      cases answered

/-! ### Pieces -/

/-- The parameter and the name of a key. -/
def Piece.key? : Piece → Option (Param × String)
  | key p given _ => given.word?.map fun name => (p, name)
  | _ => none

/-- The keys that were written, in their order. -/
def Writing.keys (w : Writing Environment) : List (Param × String) := w.pieces.filterMap Piece.key?

section Writes

variable (sep : String) (e : Environment)

/-- The pieces are those of a segment. Keys are those of the environment in the end. -/
inductive Segment.Writes : Segment → List Piece → Prop where
  | text {s : String} : Writes (.text s) [.text s]
  | label {b : Bearer} {s : String} : Text.isPlainName s.toList →
      Writes (.label b) [.label b (.text s) s]
  | item {b : Bearer} {s : String} : Text.isPlainName s.toList →
      Writes (.item b) [.label b (.text s) s]
  | key {p : Param} {s : String} : Text.isPlainName s.toList →
      e.find? .key p.id = some (.text s) → Writes (.key p) [.key p (.text s) ("$" ++ s)]
  | separator : Writes .separator [.separator sep]
  | joint : Writes .joint [.separator sep]
  | silent {segment : Segment} : segment.isSilent → Writes segment []

/-- The pieces are those of a template. -/
inductive Template.Writes : Template → List Piece → Prop where
  | nil : Writes [] []
  | cons {segment : Segment} {rest : Template} {first others : List Piece} :
      segment.Writes sep e first → Writes rest others → Writes (segment :: rest) (first ++ others)

end Writes

variable {sep : String} {e e' : Environment}

/-- Keys stay what they are when the environment goes on. -/
theorem Segment.Writes.mono {segment : Segment} {pieces : List Piece}
    (h : segment.Writes sep e pieces) (ext : e.Extends e') : segment.Writes sep e' pieces := by
  cases h with
  | text => exact .text
  | label plain => exact .label plain
  | item plain => exact .item plain
  | key plain found => exact .key plain (ext.find?_eq found)
  | separator => exact .separator
  | joint => exact .joint
  | silent silent => exact .silent silent

section Filling

variable {pen : Pen Environment}

/-- A name that is written without a fault was answered. -/
theorem Pen.exists_of_take {given : Allocated Environment Wording}
    {write : Pen Environment → Wording → Writing Environment}
    (ok : (pen.take given write).fault? = none) :
    ∃ name, given.answer = .ok name ∧
      (pen.take given write).pieces = (write ⟨given.env, pen.lists⟩ name).pieces := by
  unfold Pen.take at ok ⊢
  cases answered : given.answer with
  | ok name => exact ⟨name, rfl, rfl⟩
  | error f => simp [answered] at ok

/-- A segment is written in one way only. -/
theorem Segment.write_writes (worded : pen.env.Worded Wording.IsPlainName)
    (separator : pen.env.separator = .text sep) {segment : Segment}
    (suggests : segment.Suggests Wording.IsPlainName) (ok : (segment.write pen).fault? = none) :
    segment.Writes sep (segment.write pen).pen.env (segment.write pen).pieces := by
  have numbered := Wording.numbered_isPlainName
  cases segment with
  | text s => exact .text
  | label b =>
    have stem := worded.stemFor (suggests.bearer b rfl) b.kind
    obtain ⟨name, answered, pieces⟩ := Pen.exists_of_take ok
    obtain ⟨s, rfl, plain⟩ := worded.answer numbered stem answered
    rw [Segment.write, pieces]
    exact .label plain
  | item b =>
    have stem := worded.stemFor (suggests.bearer b rfl) b.kind
    obtain ⟨name, answered, pieces⟩ := Pen.exists_of_take ok
    obtain ⟨s, rfl, plain⟩ := worded.answer numbered stem answered
    rw [Segment.write, pieces]
    exact .item plain
  | key p =>
    have stem := worded.stemFor (suggests.param p rfl) .param
    obtain ⟨name, answered, pieces⟩ := Pen.exists_of_take ok
    obtain ⟨s, rfl, plain⟩ := worded.answer numbered stem answered
    have something : (pen.env.stemFor p.stem .param).isNull = false := by
      obtain ⟨t, eq, -⟩ := stem
      rw [eq]
      rfl
    rw [write_key_env, Segment.write, pieces]
    exact .key plain (Environment.find?_of_nameFor something answered)
  | separator =>
    simp only [Segment.write, Registry.separator, separator]
    exact .separator
  | joint =>
    simp only [Segment.write, Registry.separator, separator]
    exact .joint
  | fault f => simp [Segment.write, Pen.fail] at ok
  | formed | joining | joined | blank | blankItem =>
    simp only [Segment.write, Registry.separator, separator]
    exact .silent rfl
  | openList | union => exact .silent rfl
  | closeList =>
    simp only [Segment.write]
    split <;> exact .silent rfl

/-- What is filled without a fault is so from its first segment on. -/
theorem Template.fill_cons_of_ok {segment : Segment} {rest : Template}
    (ok : (fill pen (segment :: rest)).fault? = none) :
    (segment.write pen).fault? = none ∧ (fill (segment.write pen).pen rest).fault? = none ∧
      (fill pen (segment :: rest)).pen = (fill (segment.write pen).pen rest).pen ∧
      (fill pen (segment :: rest)).pieces =
        (segment.write pen).pieces ++ (fill (segment.write pen).pen rest).pieces := by
  simp only [fill] at ok ⊢
  cases first : (segment.write pen).fault? with
  | some f => simp [first] at ok
  | none =>
    simp only [first] at ok ⊢
    exact ⟨trivial, ok, trivial, trivial⟩

/-- In a tidy template that is filled without a fault, every segment is tidy. -/
theorem Template.Tidy.of_mem {G : Grounds} {t : Template} (tidy : Template.Tidy G t)
    {pen : Pen Environment} (ok : (t.fill pen).fault? = none) : ∀ segment ∈ t, segment.Tidy G := by
  induction tidy generalizing pen with
  | nil => exact fun _ mem => absurd mem List.not_mem_nil
  | cons tidy _ _ ih =>
    obtain ⟨-, rest, -, -⟩ := fill_cons_of_ok ok
    exact List.forall_mem_cons.mpr ⟨tidy, ih rest⟩
  | fault => cases ok

/-- A template that is filled without a fault is written in one way only. -/
theorem Template.fill_writes (worded : pen.env.Worded Wording.IsPlainName)
    (separator : pen.env.separator = .text sep) {t : Template}
    (suggests : ∀ segment ∈ t, segment.Suggests Wording.IsPlainName)
    (ok : (t.fill pen).fault? = none) :
    Template.Writes sep (t.fill pen).pen.env t (t.fill pen).pieces := by
  induction t generalizing pen with
  | nil => exact .nil
  | cons segment rest ih =>
    obtain ⟨first, others⟩ := List.forall_mem_cons.mp suggests
    obtain ⟨ok, ok', pen_eq, pieces_eq⟩ := fill_cons_of_ok ok
    have written := Segment.write_writes worded separator first ok
    have separator' : (segment.write pen).pen.env.separator = .text sep :=
      (segment.write_extends pen).separator_eq.trans separator
    have worded' := Segment.write_worded Wording.numbered_isPlainName worded first
    rw [pen_eq, pieces_eq]
    -- The key of the first segment is still the same in the end.
    exact .cons (written.mono (fill_extends _ rest)) (ih worded' separator' others ok')

end Filling

/-- Whoever wrote a key found it in the template, and knew its name. -/
theorem Template.Writes.of_key {t : Template} {pieces : List Piece}
    (h : Template.Writes sep e t pieces) {p : Param} {name : String}
    (mem : (p, name) ∈ pieces.filterMap Piece.key?) :
    .key p ∈ t ∧ e.find? .key p.id = some (.text name) := by
  induction h with
  | nil => cases mem
  | cons segment _ ih =>
    rw [List.filterMap_append, List.mem_append] at mem
    rcases mem with mem | mem
    · cases segment with
      | key _ found =>
        obtain ⟨rfl, rfl⟩ := Prod.mk.inj (List.mem_singleton.mp mem)
        exact ⟨List.mem_cons_self, found⟩
      | _ => cases mem
    · exact ⟨List.mem_cons_of_mem _ (ih mem).1, (ih mem).2⟩

/-- Every key in the template was written. -/
theorem Template.Writes.exists_name {t : Template} {pieces : List Piece}
    (h : Template.Writes sep e t pieces) {p : Param} (mem : .key p ∈ t) :
    ∃ name, (p, name) ∈ pieces.filterMap Piece.key? := by
  induction h with
  | nil => cases mem
  | cons segment _ ih =>
    rcases List.mem_cons.mp mem with rfl | mem
    · cases segment with
      | key => exact ⟨_, List.mem_cons_self⟩
      | silent silent => cases silent
    · obtain ⟨name, written⟩ := ih mem
      refine ⟨name, ?_⟩
      rw [List.filterMap_append]
      exact List.mem_append_right _ written

/-- What was written is answered as the text that it is. -/
theorem Template.Writes.acceptText_value {t : Template} {w : Writing Environment}
    (h : Template.Writes sep e t w.pieces) : acceptText w.value = .ok w.text := by
  have regular : ∀ piece ∈ w.pieces, piece ≠ .noBytes ∧
      ∀ b given s, piece = .label b given s → given = .text s := by
    generalize w.pieces = pieces at h
    induction h with
    | nil => exact fun _ mem => absurd mem List.not_mem_nil
    | cons segment _ ih =>
      rw [List.forall_mem_append]
      refine ⟨?_, ih⟩
      cases segment <;> simp
  unfold Writing.value
  split
  · rename_i b given s pieces
    obtain rfl := (regular (.label b given s) (by simp [pieces])).2 b given s rfl
    have text_eq : w.text = s := by simp [Writing.text, pieces, Piece.written]
    rw [text_eq]
    split <;> rfl
  · rename_i pieces
    exact absurd rfl (regular .noBytes (by simp [pieces])).1
  · rfl

/-! ### Reading -/

section Reading

variable {G : Grounds} {t : Template} {pieces : List Piece} (blank : Text.isBlank sep)
include blank

/-- What is written for a template delimits a name if the template does. -/
theorem Template.Writes.delimits (h : Template.Writes sep e t pieces) (delimits : t.Delimits) :
    Text.Delimits (String.join (pieces.map Piece.written)).toList := by
  have begins : ∀ {s : String} (others : List Piece), Text.parts s →
      Text.Delimits (String.join (s :: others.map Piece.written)).toList := by
    intro s others parts
    rw [String.join_cons]
    exact Text.delimits_of_parts (Text.parts_append parts _)
  induction h with
  | nil => trivial
  | @cons _ _ _ others segment _ ih =>
    cases segment with
    | text =>
      rcases delimits with parts | ⟨rfl, delimits⟩
      · exact begins others parts
      · change Text.Delimits (String.join ("" :: others.map Piece.written)).toList
        rw [String.join_cons, String.empty_append]
        exact ih delimits
    | label _ | item _ => cases delimits
    | @key p s _ _ =>
      have sign : Text.parts ("$" ++ s) := Text.parts_append (by decide) s
      exact begins others sign
    | separator | joint => exact begins others (Text.parts_of_isBlank blank)
    | silent silent => exact ih ((Template.delimits_silent_iff silent).mp delimits)

/-- The names that are met in what is written for a tidy template are those of its keys. -/
theorem Template.Writes.placeholders_eq (h : Template.Writes sep e t pieces)
    (tidy : Template.Tidy G t) :
    Text.placeholders (String.join (pieces.map Piece.written)) =
      (pieces.filterMap Piece.key?).map (·.2) := by
  have quietly : ∀ {s : String} (others : List Piece), Text.IsQuiet s →
      Text.placeholders (String.join (s :: others.map Piece.written)) =
        Text.placeholders (String.join (others.map Piece.written)) := by
    intro s others quiet
    rw [String.join_cons]
    exact Text.placeholders_append quiet _
  induction h with
  | nil => rfl
  | @cons _ _ _ others segment rest ih =>
    cases tidy with
    | fault =>
      cases segment with
      | silent silent => cases silent
    | cons quiet delimits tidy =>
      cases segment with
      | text => exact (quietly others quiet).trans (ih tidy)
      | label plain | item plain =>
        exact (quietly others (Text.isQuietFrom_of_isPlainName plain)).trans (ih tidy)
      | @key p s plain _ =>
        -- The name ends where the rest of the text begins, as that delimits it.
        have delimited := rest.delimits blank (delimits _ rfl)
        change Text.placeholders (String.join (("$" ++ s) :: others.map Piece.written)) =
          s :: (others.filterMap Piece.key?).map (·.2)
        rw [String.join_cons, Text.placeholders_sign plain delimited, ih tidy]
      | separator | joint => exact (quietly others (Text.isQuiet_of_isBlank blank)).trans (ih tidy)
      | silent _ => exact ih tidy

end Reading

/-! ### The ledger -/

section Ledger

variable {pen : Pen Environment}

/-- The question that is put in the place of a segment. -/
def Segment.ask? : Segment → Option Ask
  | label (.reference r) | item (.reference r) => some (.label r)
  | key p => some (.key p)
  | _ => none

/-- The questions that are put in the places of a template. -/
def Template.asks (t : Template) : List Ask := t.filterMap Segment.ask?

@[simp] theorem Template.asks_nil : asks [] = [] := rfl

@[simp] theorem Template.asks_cons (segment : Segment) (t : Template) :
    asks (segment :: t) = segment.ask?.toList ++ asks t := by
  unfold asks
  rw [List.filterMap_cons]
  cases segment.ask? <;> rfl

@[simp] theorem Template.asks_append (t u : Template) : asks (t ++ u) = asks t ++ asks u :=
  List.filterMap_append

theorem Template.asks_flatMap {α : Type} (f : α → Template) (as : List α) :
    asks (as.flatMap f) = as.flatMap fun a => asks (f a) := by
  induction as with
  | nil => rfl
  | cons a as ih => simp only [List.flatMap_cons, asks_append, ih]

/-- Parts ask what they ask on their own, if what stands between them asks nothing. -/
theorem Template.asks_join {between : Template} (silent : between.asks = [])
    (ts : List Template) : (join between ts).asks = ts.flatMap asks := by
  induction ts with
  | nil => rfl
  | cons t ts ih =>
    cases ts with
    | nil => exact (List.append_nil _).symm
    | cons u us =>
      rw [List.flatMap_cons, ← ih]
      change asks (t ++ between ++ join between (u :: us)) = _
      rw [asks_append, asks_append, silent, List.append_nil]

/-- Writing a segment puts its question. -/
theorem Segment.write_after {segment : Segment}
    (references : ∀ b, segment.bearer? = some b → ∃ r, b = .reference r) :
    (segment.write pen).pen.env = pen.env.after segment.ask?.toList := by
  rcases segment.write_env pen with ⟨b, isBearer, eq⟩ | ⟨p, isParam, eq⟩ | eq
  · obtain ⟨r, rfl⟩ := references b isBearer
    rw [eq]
    cases segment <;> cases isBearer <;> rfl
  · rw [eq]
    cases segment <;> cases isParam
    rfl
  · cases segment with
    | label b =>
      obtain ⟨r, rfl⟩ := references b rfl
      exact write_label_env pen _
    | item b =>
      obtain ⟨r, rfl⟩ := references b rfl
      exact write_item_env pen _
    | key p => exact write_key_env pen p
    | _ => exact eq

/-- Filling a template without a fault puts its questions in turn. -/
theorem Template.fill_after {t : Template}
    (references : ∀ segment ∈ t, ∀ b, segment.bearer? = some b → ∃ r, b = .reference r)
    (ok : (t.fill pen).fault? = none) : (t.fill pen).pen.env = pen.env.after t.asks := by
  induction t generalizing pen with
  | nil => rfl
  | cons segment rest ih =>
    obtain ⟨first, others⟩ := List.forall_mem_cons.mp references
    obtain ⟨-, ok', pen_eq, -⟩ := fill_cons_of_ok ok
    rw [pen_eq, ih others ok', asks_cons, Environment.after_append, Segment.write_after first]

end Ledger

end GraphQuery
