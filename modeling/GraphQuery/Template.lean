import GraphQuery.Registry

/-!
Templates: the text of a query before anything in it has a name.

A template is a sequence of segments: literal text, places for labels, keys and separators, and
marks that check or announce something. It depends on the query alone. A registry, such as an
environment, fills it from left to right, allocating names as it goes, so the order of the text is
the order of allocation.

* `Template.fill`: the pieces of text, the events and the environment afterwards.
* `Template.fill_append`: filling one template after another fills their concatenation.
-/

namespace GraphQuery

/-- A segment of a template. -/
inductive Segment where
  /-- Literal text. -/
  | text (s : String)
  /-- A label, as part of running text. -/
  | label (b : Bearer)
  /-- A label as a whole item of a list, which has to be a text. -/
  | item (b : Bearer)
  /-- The key of a parameter, behind its sign. -/
  | key (p : Param)
  /-- The separator of clauses, as part of running text. -/
  | separator
  /-- Here it is found out whether the separator can be part of running text. -/
  | formed
  /-- The separator between two texts that it joins. -/
  | joint
  /-- From here on the separator has to be able to join parts. -/
  | joining
  /-- Here the separator joins at least one text. -/
  | joined
  /-- What the separator makes of no parts at all, as part of running text. -/
  | blank
  /-- The same as a whole item of a list. -/
  | blankItem
  /-- A list of items begins. -/
  | openList
  /-- A list of items ends. -/
  | closeList
  /-- A union of some branches begins. -/
  | union (branches : Nat) (keyword : String)
  /-- Nothing can be written here. -/
  | fault (f : Fault)
  deriving Inhabited

/-- A sequence of segments. -/
abbrev Template := List Segment

/-- What was written for a segment, with the name that was written where one was. -/
inductive Piece where
  | text (s : String)
  | separator (s : String)
  /-- A label, as it was written. -/
  | label (b : Bearer) (given : Wording) (s : String)
  | key (p : Param) (given : Wording) (s : String)
  /-- No parts, joined by a byte string. -/
  | noBytes
  deriving Inhabited

/-- The text of a piece. -/
def Piece.written : Piece → String
  | text s | separator s | label _ _ s | key _ _ s => s
  | noBytes => Atom.quoted (.bytes [])

/-- Where the writing of a template stands: the registry of names, and for each list of items that
is open whether one of its items is no text. -/
structure Pen (σ : Type) where
  env : σ
  lists : List Bool

/-- What came of writing: the pen afterwards, the pieces, the events with the names given until
then, and the fault that ended it, if one did. -/
structure Writing (σ : Type) where
  pen : Pen σ
  pieces : List Piece
  occurrences : List (Occurrence σ)
  fault? : Option Fault

namespace Writing

variable {σ : Type}

/-- The text of all pieces. -/
def text (w : Writing σ) : String :=
  String.join (w.pieces.map Piece.written)

/-- The events alone. -/
def events (w : Writing σ) : List Event := w.occurrences.map (·.event)

/-- What was written, if nothing failed: a label that stands for itself is handed out as it is,
everything else as text. -/
def value [Registry σ] (w : Writing σ) : Value :=
  match w.pieces with
  | [.label _ given s] =>
    if given.written.toOption = some s then given.handed (Registry.mark w.pen.env) else .text s
  | [.noBytes] => .bytes []
  | _ => .text w.text

/-- What a request for the text is answered. -/
def answer [Registry σ] (w : Writing σ) : Except Fault Value :=
  match w.fault? with
  | some f => .error f
  | none => .ok w.value

end Writing

namespace Pen

variable {σ : Type}

/-- Writes nothing. -/
def rest (pen : Pen σ) : Writing σ := ⟨pen, [], [], none⟩

/-- Writes a piece. -/
def put (pen : Pen σ) (piece : Piece) : Writing σ := ⟨pen, [piece], [], none⟩

/-- Ends with a fault. -/
def fail (pen : Pen σ) (f : Fault) : Writing σ := ⟨pen, [], [], some f⟩

/-- Notes that the innermost list has an item that is no text. -/
def spoil (pen : Pen σ) : Pen σ :=
  match pen.lists with
  | _ :: outer => ⟨pen.env, true :: outer⟩
  | [] => pen

/-- Goes on with an allocated name. -/
def take (pen : Pen σ) (given : Allocated σ Wording)
    (write : Pen σ → Wording → Writing σ) : Writing σ :=
  match given.answer with
  | .ok name =>
    let w := write ⟨given.env, pen.lists⟩ name
    { w with occurrences := given.occurrences ++ w.occurrences }
  | .error f => ⟨⟨given.env, pen.lists⟩, [], given.occurrences, some f⟩

/-- Writes what has a text in running text. -/
def run (pen : Pen σ) (w : Wording) (piece : String → Piece) : Writing σ :=
  match w.written with
  | .ok s => pen.put (piece s)
  | .error f => pen.fail f

end Pen

/-- Writes a segment. -/
def Segment.write {σ : Type} [Registry σ] (pen : Pen σ) : Segment → Writing σ
  | text s => pen.put (.text s)
  | label b => pen.take (Registry.labelFor pen.env b) fun pen name => pen.run name (.label b name)
  | item b => pen.take (Registry.labelFor pen.env b) fun pen name =>
    match name.word? with
    | some s => pen.put (.label b name s)
    | none => pen.spoil.rest
  | key p => pen.take (Registry.keyFor pen.env p) fun pen name =>
    pen.run name fun s => .key p name ("$" ++ s)
  | separator => pen.put (.separator ((Registry.separator pen.env).written.toOption.getD ""))
  | formed =>
    match (Registry.separator pen.env).written with
    | .ok _ => pen.rest
    | .error f => pen.fail f
  | joint => pen.put (.separator ((Registry.separator pen.env).word?.getD ""))
  | joining =>
    let separator := Registry.separator pen.env
    if separator.word?.isSome || separator.isBytes then pen.rest else pen.fail .missing
  | joined => if (Registry.separator pen.env).isBytes then pen.fail .wrongType else pen.rest
  | blank => if (Registry.separator pen.env).isBytes then pen.put .noBytes else pen.rest
  | blankItem => if (Registry.separator pen.env).isBytes then pen.spoil.rest else pen.rest
  | openList => Pen.rest ⟨pen.env, false :: pen.lists⟩
  | closeList =>
    match pen.lists with
    | true :: outer => Pen.fail ⟨pen.env, outer⟩ .wrongType
    | false :: outer => Pen.rest ⟨pen.env, outer⟩
    | [] => pen.rest
  | union branches keyword =>
    ⟨pen, [], [⟨.union branches keyword (Registry.size pen.env), pen.env⟩], none⟩
  | fault f => pen.fail f

namespace Template

section Filling

variable {σ : Type} [Registry σ]

/-- Writes the segments one after another, up to the first fault. -/
def fill (pen : Pen σ) : Template → Writing σ
  | [] => pen.rest
  | segment :: rest =>
    let first := segment.write pen
    match first.fault? with
    | some _ => first
    | none =>
      let others := fill first.pen rest
      ⟨others.pen, first.pieces ++ others.pieces, first.occurrences ++ others.occurrences,
        others.fault?⟩

/-- Writes the template with the names of a registry. -/
def render (t : Template) (e : σ) : Writing σ :=
  fill ⟨e, []⟩ t

/-- Filling a concatenation fills its parts in turn. -/
theorem fill_append (pen : Pen σ) (s t : Template) :
    fill pen (s ++ t) =
      match (fill pen s).fault? with
      | some _ => fill pen s
      | none =>
        let others := fill (fill pen s).pen t
        ⟨others.pen, (fill pen s).pieces ++ others.pieces,
          (fill pen s).occurrences ++ others.occurrences, others.fault?⟩ := by
  induction s generalizing pen with
  | nil => simp [fill, Pen.rest]
  | cons segment s ih =>
    simp only [List.cons_append, fill]
    cases h : (segment.write pen).fault? with
    | some f => simp [h]
    | none =>
      simp only [ih]
      cases h' : (fill (segment.write pen).pen s).fault? <;> simp [h', List.append_assoc]

end Filling

/-- A text that needs no environment, or the fault that asking for one meets. -/
def standalone : Template → Except Fault String
  | [] => .ok ""
  | .text s :: rest => (s ++ ·) <$> standalone rest
  | .openList :: rest | .closeList :: rest => standalone rest
  | .fault f :: _ => .error f
  | _ :: _ => .error .missing

/-- The parts with a segment between any two of them. -/
def join (between : Template) : List Template → Template
  | [] => []
  | [t] => t
  | t :: rest => t ++ between ++ join between rest

/-- The items of a list with the same text between any two of them. Every item has to be a text. -/
def listed (between : Template) (items : List Template) : Template :=
  .openList :: join between items ++ [.closeList]

/-- The items of a list with commas between them. -/
def commas (items : List Template) : Template := listed [.text ", "] items

end Template

end GraphQuery
