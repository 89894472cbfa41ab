import GraphQuery.Proofs.Naming.Numbering
import GraphQuery.Proofs.Rendering.Parts
import GraphQuery.Proofs.Rendering.Places

/-!
Outlines: what is written, with holes for the names and the separator.

The template of a query is filled from left to right, and as long as no name is in the way of
another one, every instance gets the number of its first place. So where a name stands, and which
number it has, can be read off the template. What is left open is what names are made of: the stems,
whether the very first one stands alone, and the separator.

* `Hole`, `Outline`: a name that is yet to be made, and a text with such names in it.
* `Template.outline`: the outline of a template.
* `Template.fill_told`: whatever name is passed over while a template is filled, it is told.
* `Template.fill_outline`: what is written of a template is its outline, filled in.
-/

namespace GraphQuery

/-! ### Outlines -/

/-- A name that is yet to be made: the stem that is suggested for it, the kind that it has the stem
of otherwise, and its number. -/
structure Hole where
  suggested? : Option Name
  kind : Kind
  index : Nat
  deriving DecidableEq

/-- Whether a name is part of running text or stands alone. -/
inductive Manner where
  | running
  | alone
  deriving DecidableEq

/-- A part of an outline. -/
inductive Stroke where
  | text (s : String)
  | separator
  | name (hole : Hole) (manner : Manner)
  deriving DecidableEq

/-- A text in which names and separators are yet to be filled in, how many numbers it uses up, and
the parameters with the names that they will have. -/
structure Outline where
  strokes : List Stroke
  size : Nat
  params : List (Hole × Value)

/-- The name that an environment makes. -/
def Hole.filled (e : Environment) (hole : Hole) : Wording :=
  (e.stemFor hole.suggested? hole.kind).numbered e.bareFirst hole.index

/-- What an environment makes of a part of an outline. -/
def Stroke.filled (e : Environment) : Stroke → String
  | text s => s
  | separator => e.separator.word?.getD ""
  | name hole .running => (hole.filled e).written.toOption.getD ""
  | name hole .alone => (hole.filled e).word?.getD ""

namespace Outline

/-- The text that an environment makes of an outline. -/
def filled (e : Environment) (o : Outline) : String := String.join (o.strokes.map (Stroke.filled e))

/-- The keys that an environment makes, with the values of their parameters. -/
def filledParams (e : Environment) (o : Outline) : List (Value × Value) :=
  o.params.map fun p => ((p.1.filled e).handed e.mark, p.2)

end Outline

/-! ### The outline of a template -/

namespace Ask

/-- The stem that is suggested for the instance. -/
def suggested? : Ask → Option Name
  | label r => r.stem
  | key p => p.stem

/-- The kind that the instance has its stem of otherwise. -/
def kind : Ask → Kind
  | label r => r.kind
  | key _ => .param

theorem stem_eq_stemFor (e : Environment) (a : Ask) : a.stem e = e.stemFor a.suggested? a.kind := by
  cases a <;> rfl

/-- The name of an instance, numbered by its place among the first questions. -/
def hole (firsts : List Ask) (a : Ask) : Hole :=
  ⟨a.suggested?, a.kind, firsts.findIdx fun b => decide (b.Same a)⟩

/-- Where there is one question about each instance, all questions are first ones. -/
theorem mem_firsts_of_distinct {asks : List Ask}
    (distinct : ∀ a ∈ asks, ∀ b ∈ asks, a.Same b → a = b) {a : Ask} (mem : a ∈ asks) :
    a ∈ firsts asks := by
  obtain ⟨b, first, same⟩ := exists_same_firsts mem
  rwa [← distinct b (mem_of_mem_firsts first) a mem same]

end Ask

/-- What a segment is in an outline. Checks and announcements leave no trace. -/
def Segment.strokes (firsts : List Ask) : Segment → List Stroke
  | text s => [.text s]
  | label (.reference r) => [.name ((Ask.label r).hole firsts) .running]
  | item (.reference r) => [.name ((Ask.label r).hole firsts) .alone]
  | key p => [.text "$", .name ((Ask.key p).hole firsts) .running]
  | separator | joint => [.separator]
  | _ => []

/-- The outline of a template. It depends on nothing but the template. -/
def Template.outline (t : Template) : Outline :=
  let firsts := Ask.firsts t.asks
  ⟨t.flatMap (Segment.strokes firsts), firsts.length,
    firsts.filterMap fun a => a.param?.map fun v => (a.hole firsts, v)⟩

/-! ### Names that are numbered without a gap -/

section Numbered

variable {e e' : Environment} {seen : List Ask}

/-- What an environment makes of a hole stays the same when it goes on. -/
theorem Hole.filled_eq (ext : e.Extends e') (hole : Hole) : hole.filled e' = hole.filled e := by
  simp only [Hole.filled, Environment.stemFor, ext.stems_eq, ext.bareFirst_eq]

theorem Stroke.filled_eq (ext : e.Extends e') (stroke : Stroke) :
    stroke.filled e' = stroke.filled e := by
  cases stroke with
  | text s => rfl
  | separator => simp only [Stroke.filled, ext.separator_eq]
  | name hole manner => cases manner <;> simp only [Stroke.filled, hole.filled_eq ext]

namespace Environment

/-- In a ledger without a gap, an instance has the number of its first question. -/
theorem Counted.find?_eq (counted : e.Counted seen) (accounts : e.Accounts seen) {k : Nat} {a : Ask}
    (at_k : seen[k]? = some a) :
    e.find? a.role a.id = some ((a.stem e).numbered e.bareFirst k) := by
  obtain ⟨lt, get⟩ := List.getElem?_eq_some_iff.mp at_k
  have lt' : k < e.allocations.length := by rwa [accounts.entries.length_eq]
  have made : MadeFor e.allocations[k] a := by
    have made := accounts.entries.get lt' lt
    rwa [List.get_eq_getElem, List.get_eq_getElem, get] at made
  have name : e.allocations[k].name = (a.stem e).numbered e.bareFirst k := by
    have kth := congrArg (fun names => names[k]?) counted.names
    simpa [at_k, lt'] using kth
  have found := accounts.find?_eq (List.getElem_mem lt')
  rwa [made.role_eq, made.owner_eq, name] at found

/-- In a ledger without a gap, the name of an instance is what its hole is filled with. -/
theorem Counted.find?_hole (counted : e.Counted seen) (accounts : e.Accounts seen)
    (distinct : ∀ a ∈ seen, ∀ b ∈ seen, a.Same b → a = b) {a : Ask} (mem : a ∈ seen) :
    e.find? a.role a.id = some ((a.hole seen).filled e) := by
  have lt : (seen.findIdx fun b => decide (b.Same a)) < seen.length :=
    List.findIdx_lt_length_of_exists ⟨a, mem, decide_eq_true ⟨rfl, rfl⟩⟩
  have same : (seen[seen.findIdx fun b => decide (b.Same a)]).Same a :=
    of_decide_eq_true (List.findIdx_getElem (w := lt))
  -- The instance carries the stem that its first question has asked with.
  have get := distinct _ (List.getElem_mem lt) a mem same
  have found := counted.find?_eq accounts (List.getElem?_eq_some_iff.mpr ⟨lt, get⟩)
  rwa [Ask.stem_eq_stemFor] at found

/-- In a ledger without a gap, the parameters have the keys that their holes are filled with. -/
theorem Counted.params_eq (counted : e.Counted seen) (accounts : e.Accounts seen)
    (distinct : ∀ a ∈ seen, ∀ b ∈ seen, a.Same b → a = b) :
    e.params = seen.filterMap fun a =>
      a.param?.map fun v => (((a.hole seen).filled e).handed e.mark, v) := by
  have made :=
    (List.forall₂_and_left _ _).mpr ⟨fun _ mem => accounts.find?_eq mem, accounts.entries⟩
  have known := (List.forall₂_and_left _ _).mpr
    ⟨fun a mem => counted.find?_hole accounts distinct mem, made.flip⟩
  refine filterMap_eq_of_forall₂ (known.flip.imp fun x a ⟨found, named, made⟩ => ?_)
  rw [made.role_eq, made.owner_eq, found] at named
  rw [made.param_eq, Option.some.inj named]

end Environment

end Numbered

/-! ### Filling in -/

section Filling

variable {e : Environment} {pen : Pen Environment} {seen : List Ask}

theorem Segment.shown_label_of_find? {r : Reference} {name : Wording}
    (found : e.find? .label r.id = some name) :
    (label (.reference r)).shown e = name.written.toOption.getD "" := by
  have given : Registry.labelFor e (.reference r) = ⟨e, [], .ok name⟩ :=
    Environment.nameFor_of_find? found _ _
  simp only [shown, write, given, Pen.take, Pen.run]
  cases name.written <;>
    simp [Writing.text, Pen.put, Pen.fail, Piece.written, Except.toOption, String.join_cons]

theorem Segment.shown_item_of_find? {r : Reference} {name : Wording}
    (found : e.find? .label r.id = some name) :
    (item (.reference r)).shown e = name.word?.getD "" := by
  have given : Registry.labelFor e (.reference r) = ⟨e, [], .ok name⟩ :=
    Environment.nameFor_of_find? found _ _
  simp only [shown, write, given, Pen.take]
  cases name.word? <;> simp [Writing.text, Pen.put, Pen.rest, Piece.written, String.join_cons]

theorem Segment.shown_key_of_find? {p : Param} {name : Wording}
    (found : e.find? .key p.id = some name) (isText : name.IsText) :
    (key p).shown e = "$" ++ name.written.toOption.getD "" := by
  have given : Registry.keyFor e p = ⟨e, [], .ok name⟩ := Environment.nameFor_of_find? found _ _
  obtain ⟨s, written⟩ := isText.exists_written
  simp [shown, write, given, Pen.take, Pen.run, written, Writing.text, Pen.put, Piece.written,
    Except.toOption, String.join_cons]

/-- A segment shows what its part of the outline is filled with, once its name is known. -/
theorem Segment.shown_strokes {sep : String} (textual : e.IsTextual sep) {segment : Segment}
    (references : ∀ b, segment.bearer? = some b → ∃ r, b = .reference r)
    (known : ∀ a, segment.ask? = some a → e.find? a.role a.id = some ((a.hole seen).filled e)) :
    segment.shown e = String.join ((segment.strokes seen).map (Stroke.filled e)) := by
  cases segment with
  | text s => simp [strokes, Stroke.filled]
  | label b =>
    obtain ⟨r, rfl⟩ := references b rfl
    rw [shown_label_of_find? (known (.label r) rfl)]
    simp [strokes, Stroke.filled]
  | item b =>
    obtain ⟨r, rfl⟩ := references b rfl
    rw [shown_item_of_find? (known (.label r) rfl)]
    simp [strokes, Stroke.filled]
  | key p =>
    have found := known (.key p) rfl
    have isText : ((Ask.hole seen (.key p)).filled e).IsText :=
      textual.worded.of_find? found
    rw [shown_key_of_find? found isText]
    simp [strokes, Stroke.filled]
  | separator =>
    rw [shown_separator textual]
    simp [strokes, Stroke.filled, textual.separator_eq, Wording.word?]
  | joint =>
    rw [shown_joint textual]
    simp [strokes, Stroke.filled, textual.separator_eq, Wording.word?]
  | fault f => rfl
  | formed | joining | joined | blank | blankItem | openList | closeList | union =>
    rw [shown_silent textual rfl]
    rfl

/-- A template shows what its outline is filled with, once its names are known. -/
theorem Template.shown_strokes {sep : String} (textual : e.IsTextual sep) {t : Template}
    (references : ∀ segment ∈ t, ∀ b, segment.bearer? = some b → ∃ r, b = .reference r)
    (known : ∀ a ∈ t.asks, e.find? a.role a.id = some ((a.hole seen).filled e)) :
    t.shown e = String.join ((t.flatMap (Segment.strokes seen)).map (Stroke.filled e)) := by
  induction t with
  | nil => rfl
  | cons segment rest ih =>
    obtain ⟨first, others⟩ := List.forall_mem_cons.mp references
    rw [asks_cons, List.forall_mem_append] at known
    have shown := Segment.shown_strokes textual first fun a asked => known.1 a (by simp [asked])
    rw [shown_cons, shown, ih others known.2, List.flatMap_cons, List.map_append,
      String.join_append]

/-! ### Names that are passed over -/

/-- Whatever name is passed over while a segment is written, it is told. -/
theorem Segment.write_told {segment : Segment}
    (references : ∀ b, segment.bearer? = some b → ∃ r, b = .reference r) :
    ∀ o ∈ pen.env.passedOver segment.ask?.toList, o ∈ (segment.write pen).occurrences := by
  have take : ∀ (given : Allocated Environment Wording) write,
      ∀ o ∈ given.occurrences, o ∈ (pen.take given write).occurrences := by
    intro given write o mem
    unfold Pen.take
    cases given.answer with
    | ok name => exact List.mem_append_left _ mem
    | error f => exact mem
  cases segment with
  | label b | item b =>
    obtain ⟨r, rfl⟩ := references b rfl
    simp only [ask?, Option.toList, Environment.passedOver, List.append_nil]
    exact take _ _
  | key p =>
    simp only [ask?, Option.toList, Environment.passedOver, List.append_nil]
    exact take _ _
  | _ => exact fun _ mem => absurd mem List.not_mem_nil

/-- Whatever name is passed over while a template is filled without a fault, it is told. -/
theorem Template.fill_told {t : Template}
    (references : ∀ segment ∈ t, ∀ b, segment.bearer? = some b → ∃ r, b = .reference r)
    (ok : (t.fill pen).fault? = none) :
    ∀ o ∈ pen.env.passedOver t.asks, o ∈ (t.fill pen).occurrences := by
  induction t generalizing pen with
  | nil => exact fun _ mem => absurd mem List.not_mem_nil
  | cons segment rest ih =>
    obtain ⟨first, others⟩ := List.forall_mem_cons.mp references
    obtain ⟨ok₁, ok₂, -⟩ := fill_cons_of_ok ok
    have told : ∀ o ∈ pen.env.passedOver segment.ask?.toList, o ∈ (segment.write pen).occurrences :=
      Segment.write_told first
    rw [asks_cons, Environment.passedOver_append, ← Segment.write_after first]
    simp only [fill, ok₁]
    intro o mem
    rcases List.mem_append.mp mem with mem | mem
    · exact List.mem_append_left _ (told o mem)
    · exact List.mem_append_right _ (ih others ok₂ o mem)

/-- Where a template is filled and no collision is told, no name has been passed over. -/
theorem Template.passedOver_eq_nil {t : Template}
    (references : ∀ segment ∈ t, ∀ b, segment.bearer? = some b → ∃ r, b = .reference r)
    (ok : (t.fill pen).fault? = none)
    (smooth : ∀ identifier index, .collision identifier index ∉ (t.fill pen).events) :
    pen.env.passedOver t.asks = [] := by
  refine List.eq_nil_iff_forall_not_mem.mpr fun o mem => ?_
  obtain ⟨identifier, index, eq⟩ := pen.env.passedOver_collision t.asks o mem
  refine smooth identifier index ?_
  rw [← eq]
  exact List.mem_map_of_mem (fill_told references ok o mem)

/-! ### Filling a template fills its outline -/

/-- A template that is filled in a new environment comes to its outline, as long as no name is
passed over: its text, the numbers that it uses up, and its parameters. -/
theorem Template.fill_outline {sep : String} (textual : pen.env.IsTextual sep)
    (blank : pen.env.allocations = []) (zero : pen.env.counter = 0) {t : Template}
    (references : ∀ segment ∈ t, ∀ b, segment.bearer? = some b → ∃ r, b = .reference r)
    (distinct : ∀ a ∈ t.asks, ∀ b ∈ t.asks, a.Same b → a = b)
    (ok : (t.fill pen).fault? = none)
    (smooth : ∀ identifier index, .collision identifier index ∉ (t.fill pen).events) :
    t.shown (t.fill pen).pen.env = t.outline.filled pen.env ∧
    (t.fill pen).pen.env.size = t.outline.size ∧
    (t.fill pen).pen.env.params = t.outline.filledParams pen.env := by
  have ext := fill_extends pen t
  have env : (t.fill pen).pen.env = pen.env.after t.asks := fill_after references ok
  -- In the end the ledger has the first questions, numbered without a gap.
  have later : (t.fill pen).pen.env.IsTextual sep := by
    refine ⟨?_, ext.separator_eq.trans textual.separator_eq⟩
    exact fill_worded Environment.numbered_isText textual.worded fun segment _ =>
      segment.suggests_of_forall Wording.isText_ofName
  have accounts : (t.fill pen).pen.env.Accounts (Ask.firsts t.asks) := by
    rw [env]
    exact (textual.worded.accounts blank).after t.asks
  have counted : (t.fill pen).pen.env.Counted (Ask.firsts t.asks) := by
    have start : pen.env.Counted [] := ⟨zero, by simp [blank]⟩
    rw [env]
    exact start.after (textual.worded.accounts blank) (passedOver_eq_nil references ok smooth)
  have distinct' : ∀ a ∈ Ask.firsts t.asks, ∀ b ∈ Ask.firsts t.asks, a.Same b → a = b :=
    fun a mem b mem' => distinct a (Ask.mem_of_mem_firsts mem) b (Ask.mem_of_mem_firsts mem')
  refine ⟨?_, counted.counter_eq, ?_⟩
  · rw [shown_strokes later references fun a mem =>
      counted.find?_hole accounts distinct' (Ask.mem_firsts_of_distinct distinct mem)]
    exact congrArg String.join (List.map_congr_left fun stroke _ => stroke.filled_eq ext)
  · rw [counted.params_eq accounts distinct', Outline.filledParams, outline, List.map_filterMap]
    refine List.filterMap_congr fun a _ => ?_
    rw [(a.hole _).filled_eq ext, ext.mark_eq, Option.map_map]
    rfl

end Filling

end GraphQuery
