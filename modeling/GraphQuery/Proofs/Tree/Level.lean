import GraphQuery.Proofs.Rendering.Shown
import GraphQuery.Proofs.Text.Lexeme
import GraphQuery.Proofs.Tree.Made

/-!
Trees as arguments of a call: whatever the library makes is level as it is written.

Parentheses stand around nodes, groups and arguments, quoted names are closed, and neither words of
the library nor labels and keys have any of these characters. The separator may have some. So it is
asked for where the tree has clauses in it.

* `Template.Level`: the template is level as it is written, if the separators in it are.
* `Tree.Made.level`: the template of a tree that the library makes is level.
-/

namespace GraphQuery

open Text (IsLevel isPlain)

/-- What a template may speak of is level as it is written. -/
structure Grounds.Level (G : Grounds) (blank : Char → Bool) (e : Environment) : Prop where
  label : ∀ b, G.bearer b → IsLevel blank ((Segment.label b).shown e).toList
  item : ∀ b, G.bearer b → IsLevel blank ((Segment.item b).shown e).toList
  key : ∀ p, G.param p → IsLevel blank ((Segment.key p).shown e).toList

/-- The template is level as it is written, if the separators in it are. -/
def Template.Level (blank : Char → Bool) (e : Environment) (t : Template) : Prop :=
  (∀ segment ∈ t, segment.isSeparating = true → IsLevel blank (segment.shown e).toList) →
    IsLevel blank (t.shown e).toList

variable {blank : Char → Bool} {e : Environment}

/-! ### Templates -/

namespace Template

variable {t u : Template}

theorem Level.append (h : Level blank e t) (h' : Level blank e u) : Level blank e (t ++ u) := by
  intro separators
  obtain ⟨first, second⟩ := List.forall_mem_append.mp separators
  rw [shown_append, String.toList_append]
  exact (h first).append (h' second)

theorem level_nil : Level blank e [] := fun _ => Text.isLevel_nil

theorem level_segment {segment : Segment} (h : IsLevel blank (segment.shown e).toList) :
    Level blank e [segment] := by
  intro _
  rw [shown_cons, shown_nil, String.append_empty]
  exact h

/-- What a separator comes to is asked for. -/
theorem level_separating {segment : Segment} (separating : segment.isSeparating = true) :
    Level blank e [segment] := fun separators =>
  level_segment (separators segment List.mem_cons_self separating) separators

theorem level_text {s : String} (h : IsLevel blank s.toList) : Level blank e [.text s] := by
  refine level_segment ?_
  rwa [Segment.shown_text]

theorem level_plain {s : String} (plain : isPlain s) :
    Level blank e [.text s] :=
  level_text (Text.isLevel_of_isPlain plain)

/-- A plain word between spaces is level. -/
theorem level_spaced {word : String} (plain : isPlain word) :
    Level blank e [.text (" " ++ word ++ " ")] := by
  refine level_plain ?_
  rw [Text.isPlain_append, Text.isPlain_append, plain]
  decide

/-- A plain word behind a space is level. -/
theorem level_behind {word : String} (plain : isPlain word) :
    Level blank e [.text (" " ++ word)] := by
  refine level_plain ?_
  rw [Text.isPlain_append, plain]
  decide

/-- What is level is so in parentheses, with a plain word in front of them. -/
theorem Level.group (word : String) (plain : isPlain word)
    (h : Level blank e t) : Level blank e (.text (word ++ "(") :: t ++ [.text ")"]) := by
  intro separators
  have inner : IsLevel blank (t.shown e).toList := h fun segment mem =>
    separators segment (List.mem_append_left _ (List.mem_cons_of_mem _ mem))
  have shown : (shown e (.text (word ++ "(") :: t ++ [.text ")"])).toList =
      word.toList ++ ('(' :: (t.shown e).toList ++ [')']) := by
    simp
  rw [shown]
  exact (Text.isLevel_of_isPlain plain).append inner.group

theorem Level.parenthesized (h : Level blank e t) : Level blank e (GraphQuery.parenthesized t) :=
  Level.group "" (by decide) h

/-- Level parts with something level between them. -/
theorem Level.join {between : Template} (apart : Level blank e between) {ts : List Template}
    (h : ∀ t ∈ ts, Level blank e t) : Level blank e (Template.join between ts) := by
  induction ts with
  | nil => exact level_nil
  | cons t ts ih =>
    obtain ⟨first, others⟩ := List.forall_mem_cons.mp h
    cases ts with
    | nil => exact first
    | cons u ts => exact (first.append apart).append (ih others)

theorem Level.listed {between : Template} (apart : Level blank e between) {ts : List Template}
    (h : ∀ t ∈ ts, Level blank e t) : Level blank e (Template.listed between ts) :=
  ((level_segment Text.isLevel_nil).append (.join apart h)).append (level_segment Text.isLevel_nil)

theorem Level.commas {ts : List Template} (h : ∀ t ∈ ts, Level blank e t) :
    Level blank e (Template.commas ts) :=
  .listed (level_plain (by decide)) h

/-- The fragments of a clause, each behind a separator. -/
theorem level_fragments {ts : List Template} (h : ∀ t ∈ ts, Level blank e t) :
    Level blank e (ts.map fragmentTemplate).flatten := by
  induction ts with
  | nil => exact level_nil
  | cons t ts ih =>
    obtain ⟨first, others⟩ := List.forall_mem_cons.mp h
    rw [List.map_cons, List.flatten_cons]
    exact (((level_separating rfl).append first).append (level_separating rfl)).append (ih others)

/-- The sort items of a projection behind their keyword, or nothing. -/
theorem level_ordered {ts : List Template} (h : ∀ t ∈ ts, Level blank e t) :
    Level blank e (if ts.isEmpty then [] else .joint :: .text "ORDER BY " :: commas ts) := by
  split
  · exact level_nil
  · exact (level_separating rfl).append ((level_plain (by decide)).append (.commas h))

/-- A row count behind its keyword, or nothing. -/
theorem level_rowCount (keyword : String) (plain : isPlain keyword)
    {p? : Option Param} (h : ∀ p, p? = some p → IsLevel blank ((Segment.key p).shown e).toList) :
    Level blank e ((p?.map fun p => [.joint, .text keyword, .key p]).getD []) := by
  cases p? with
  | none => exact level_nil
  | some p =>
    exact (level_separating rfl).append ((level_plain plain).append (level_segment (h p rfl)))

end Template

/-! ### Words and names -/

section Names

variable (spaces : Text.Spaces blank)
include spaces

/-- A name is level as it stands in a query. -/
theorem Name.isLevel_escaped (n : Name) : IsLevel blank n.escaped.toList := by
  cases n with
  | text s => exact Text.isLevel_escaped spaces s
  | direction d => exact Text.isLevel_of_isPlain (by cases d <;> decide)

/-- Names are level, each behind its sign. -/
theorem isLevel_signed (sign : String) (plain : isPlain sign)
    (names : List Name) :
    IsLevel blank (String.join (names.map fun n => sign ++ n.escaped)).toList := by
  induction names with
  | nil => exact Text.isLevel_nil
  | cons n names ih =>
    rw [List.map_cons, String.join_cons, String.toList_append, String.toList_append]
    exact ((Text.isLevel_of_isPlain plain).append (n.isLevel_escaped spaces)).append ih

theorem Template.level_labels (names : List Name) : Level blank e [.text (labelsText names)] :=
  level_text (isLevel_signed spaces ":" (by decide) names)

/-- The properties in their braces. -/
theorem Template.level_braced {properties : List (Name × Template)}
    (h : ∀ p ∈ properties, Level blank e p.2) : Level blank e (braced properties) := by
  have written : ∀ t ∈ properties.map fun p => .text (p.1.escaped ++ ": ") :: p.2,
      Level blank e t := by
    refine List.forall_mem_map.mpr fun p mem => ?_
    have name : IsLevel blank (p.1.escaped ++ ": ").toList := by
      rw [String.toList_append]
      exact (p.1.isLevel_escaped spaces).append (Text.isLevel_of_isPlain (by decide))
    exact (level_text name).append (h p mem)
  unfold braced
  split
  · exact level_nil
  · exact ((level_plain (by decide)).append (.join (level_plain (by decide)) written)).append
      (level_plain (by decide))

end Names

theorem isPlain_operators :
    ∀ word ∈ comparisonOperators ++ checkOperators ++ junctionOperators, isPlain word := by decide

theorem isPlain_functionNames : ∀ word ∈ functionNames, isPlain word := by decide

theorem isPlain_sortOrders : ∀ word ∈ sortOrders, isPlain word := by decide

theorem isPlain_keywords : ∀ word ∈ clauseKeywords ++ unionKeywords, isPlain word := by decide

/-! ### Trees -/

namespace Tree

/-- The tree is level as it is written, in running text and as an item. -/
structure Level (blank : Char → Bool) (e : Environment) (t : Tree) : Prop where
  template : Template.Level blank e t.template
  item : Template.Level blank e (t.asItem t.template)

namespace Level

variable {t : Tree} {ts : List Tree}

/-- A tree that is written the same as an item, or that has no text. -/
theorem of_template (h : Template.Level blank e t.template)
    (sole : ∀ b, t.sole? ≠ some (.label b)) : t.Level blank e := by
  refine ⟨h, ?_⟩
  unfold asItem
  split
  · rename_i b eq
    exact absurd eq (sole b)
  · exact (Template.level_separating rfl).append (Template.level_separating rfl)
  · exact h

/-- What is no label and never blank is written the same as an item. -/
theorem of_sole (h : Template.Level blank e t.template) (sole : t.sole? = none) :
    t.Level blank e :=
  of_template h fun _ eq => by
    rw [sole] at eq
    cases eq

/-- A level tree is a level operand. -/
theorem asOperand (h : t.Level blank e) : Template.Level blank e (t.asOperand t.template) := by
  unfold Tree.asOperand
  split
  · exact h.template.parenthesized
  · exact h.item

section Lists

variable (h : ∀ t ∈ ts, t.Level blank e)
include h

theorem templates : ∀ w ∈ Tree.templates ts, Template.Level blank e w := by
  rw [templates_eq]
  exact List.forall_mem_map.mpr fun t mem => (h t mem).template

theorem operands : ∀ w ∈ Tree.operands ts, Template.Level blank e w := by
  rw [operands_eq]
  exact List.forall_mem_map.mpr fun t mem => (h t mem).asOperand

theorem items : ∀ w ∈ Tree.items ts, Template.Level blank e w := by
  rw [items_eq]
  exact List.forall_mem_map.mpr fun t mem => (h t mem).item

theorem written : ∀ w ∈ Tree.written ts, Template.Level blank e w := by
  intro w mem
  obtain ⟨t, t_mem, rfl⟩ := exists_of_mem_written mem
  exact (h t t_mem).template

end Lists

theorem entries {ps : List (Name × Tree)} (h : ∀ p ∈ ps, p.2.Level blank e) :
    ∀ p ∈ Tree.entries ps, Template.Level blank e p.2 := by
  rw [entries_eq]
  exact List.forall_mem_map.mpr fun p mem => (h p mem).template

theorem relationship (spaces : Text.Spaces blank) {b : Bearer}
    (bearer : IsLevel blank ((Segment.label b).shown e).toList) (type : Option Name)
    {ps : List (Name × Tree)} (h : ∀ p ∈ ps, p.2.Level blank e) (d : Direction) :
    (Tree.relationship b type ps d).Level blank e := by
  have tail : isPlain (d.tail ++ "[") := by cases d <;> decide
  have tip : isPlain ("]" ++ d.tip) := by cases d <;> decide
  have front := (Template.level_plain tail).append ((Template.level_segment bearer).append
    (Template.level_labels spaces type.toList))
  have inner := front.append (Template.level_braced spaces (entries h))
  exact .of_sole (inner.append (Template.level_plain tip)) rfl

theorem projection {ts us : List Tree} (h : ∀ t ∈ ts, t.Level blank e)
    (h' : ∀ u ∈ us, u.Level blank e) (kind : ProjectionKind) (distinct : Bool)
    {skip limit : Option Param}
    (skips : ∀ p, skip = some p → IsLevel blank ((Segment.key p).shown e).toList)
    (limits : ∀ p, limit = some p → IsLevel blank ((Segment.key p).shown e).toList) :
    (Tree.projection kind distinct ts us skip limit).Level blank e := by
  have keyword : isPlain (kind.keyword ++ (if distinct then " DISTINCT" else "") ++ " ") := by
    cases kind <;> cases distinct <;> decide
  have columns : Template.Level blank e (_ ++ [.joining]) :=
    ((Template.level_plain keyword).append (.commas (items h))).append
      (Template.level_separating rfl)
  have ordered := columns.append (Template.level_ordered (items h'))
  have skipped := ordered.append (Template.level_rowCount "SKIP " (by decide) skips)
  have limited := skipped.append (Template.level_rowCount "LIMIT " (by decide) limits)
  exact .of_sole (limited.append (Template.level_separating rfl)) rfl

theorem patternClause {keyword : String} (mem : keyword ∈ clauseKeywords) {path : Option Bearer}
    (paths : ∀ b, path = some b → IsLevel blank ((Segment.label b).shown e).toList)
    {ts us : List Tree} (h : ∀ t ∈ ts, t.Level blank e) (h' : ∀ u ∈ us, u.Level blank e) :
    (Tree.patternClause keyword path ts us).Level blank e := by
  have word : isPlain (keyword ++ " ") := by
    rw [Text.isPlain_append, isPlain_keywords keyword (by simp [mem])]
    decide
  have front : Template.Level blank e ((path.map fun b => [.label b, .text " = "]).getD []) := by
    cases path with
    | none => exact Template.level_nil
    | some b =>
      exact (Template.level_segment (paths b rfl)).append (Template.level_plain (by decide))
  have patterns := ((Template.level_plain word).append front).append (.commas (items h))
  exact .of_sole (patterns.append (Template.level_fragments (templates h'))) rfl

theorem statement {ts : List Tree} (h : ∀ t ∈ ts, t.Level blank e) :
    (Tree.statement ts).Level blank e := by
  have mark {segment : Segment} (separating : segment.isSeparating = true) :
      Template.Level blank e [segment] := Template.level_separating separating
  have joined : Template.Level blank e (Template.join [.joint] (Tree.written ts)) :=
    .join (mark rfl) (written h)
  have last : Template.Level blank e [if (Tree.written ts).isEmpty then .blank else .joined] := by
    split <;> exact mark rfl
  have template : Template.Level blank e (Tree.statement ts).template :=
    ((mark rfl : Template.Level blank e [.joining]).append joined).append last
  refine .of_template template fun b sole => ?_
  unfold sole? at sole
  split at sole <;> cases sole

theorem union {keyword : String} (mem : keyword ∈ unionKeywords) {ts : List Tree}
    (h : ∀ t ∈ ts, t.Level blank e) : (Tree.union keyword ts).Level blank e := by
  have mark {segment : Segment} (separating : segment.isSeparating = true) :
      Template.Level blank e [segment] := Template.level_separating separating
  have word := isPlain_keywords keyword (by simp [mem])
  have marks : Template.Level blank e [.union (Tree.items ts).length keyword, .formed] :=
    (Template.level_segment Text.isLevel_nil).append (mark rfl)
  have between : Template.Level blank e [.separator, .text keyword, .separator] :=
    (mark rfl).append ((Template.level_plain word).append (mark rfl))
  exact .of_sole (marks.append (.listed between (items h))) rfl

end Level

/-- A tree that the library makes is level, if labels and keys are. -/
theorem Made.level {strict : Prop} {G : Grounds} (spaces : Text.Spaces blank)
    (grounds : G.Level blank e) {t : Tree} (made : t.Made strict G) : t.Level blank e := by
  have plain {s : String} (h : isPlain s) : Template.Level blank e [.text s] :=
    Template.level_plain h
  induction made with
  | @label b isBearer =>
    exact ⟨Template.level_segment (grounds.label b isBearer),
      Template.level_segment (grounds.item b isBearer)⟩
  | @key p isParam => exact .of_sole (Template.level_segment (grounds.key p isParam)) rfl
  | property path _ ih =>
    have names := Template.level_text (e := e) (isLevel_signed spaces "." (by decide) path)
    exact .of_sole (ih.template.append names) rfl
  | @comparison o _ _ mem _ _ ih ih' =>
    have operator := isPlain_operators o (by simp [mem])
    exact .of_sole ((ih.template.append (Template.level_spaced operator)).append ih'.template) rfl
  | @check o _ mem _ ih =>
    have operator := isPlain_operators o (by simp [mem])
    exact .of_sole (ih.template.append (Template.level_behind operator)) rfl
  | @junction o _ mem _ _ ih =>
    have operator := isPlain_operators o (by simp [mem])
    exact .of_sole (.listed (Template.level_spaced operator) (Level.operands ih)) rfl
  | @negation t _ ih =>
    have operand : Template.Level blank e
        (if t.isJunction then parenthesized t.template else t.template) := by
      split
      · exact ih.template.parenthesized
      · exact ih.template
    refine .of_sole ?_ rfl
    rw [template]
    exact (plain (by decide)).append operand
  | @call name _ mem _ ih =>
    exact .of_sole (.group name (isPlain_functionNames name mem) (.commas (Level.items ih))) rfl
  | star => exact .of_sole (plain (by decide)) rfl
  | column _ ih => exact ⟨ih.template, ih.item⟩
  | aliased n _ ih =>
    exact .of_sole ((ih.template.append (plain (by decide))).append
      (Template.level_text (n.isLevel_escaped spaces))) rfl
  | @aliasedBearer _ b isBearer _ ih =>
    exact .of_sole ((ih.template.append (plain (by decide))).append
      (Template.level_segment (grounds.label b isBearer))) rfl
  | @sorted _ order mem _ ih =>
    have word := isPlain_sortOrders order mem
    exact .of_sole (ih.template.append (Template.level_behind word)) rfl
  | @node b labels _ isBearer _ ih =>
    have inner := ((Template.level_segment (grounds.label b isBearer)).append
      (Template.level_labels spaces labels)).append
      (Template.level_braced spaces (Level.entries ih))
    exact .of_sole (Template.Level.group "" (by decide) inner) rfl
  | relationship type d isBearer _ ih =>
    exact .relationship spaces (grounds.label _ isBearer) type ih d
  | pattern _ _ ih => exact .of_sole (.listed Template.level_nil (Level.items ih)) rfl
  | filter _ ih => exact .of_sole ((plain (by decide)).append ih.template) rfl
  | assignments _ _ ih ih' =>
    refine .of_sole ((plain (by decide)).append (.join (plain (by decide)) ?_)) rfl
    rw [pairs_eq]
    exact List.forall_mem_map.mpr fun e mem =>
      ((ih e mem).template.append (plain (by decide))).append (ih' e mem).template
  | removals _ ih => exact .of_sole ((plain (by decide)).append (.commas (Level.items ih))) rfl
  | deletions detach _ ih =>
    refine .of_sole (.append (plain ?_) (.commas (Level.items ih))) rfl
    cases detach <;> decide
  | projection kind distinct _ _ skips limits ih ih' =>
    exact .projection ih ih' kind distinct (fun p eq => grounds.key p (skips p eq))
      fun p eq => grounds.key p (limits p eq)
  | patternClause mem paths _ _ ih ih' =>
    exact .patternClause mem (fun b eq => grounds.label b (paths b eq)) ih ih'
  | projectionClause _ _ ih ih' =>
    exact .of_sole (ih.template.append (Template.level_fragments (Level.templates ih'))) rfl
  | statement _ ih => exact .statement ih
  | union mem _ ih => exact .union mem ih
  | stuck f => exact .of_sole (Template.level_segment Text.isLevel_nil) rfl
  | @halted t f _ ih =>
    refine .of_sole ?_ rfl
    have parts : (Tree.stuck [t] f).template = t.template ++ [.fault f] := by
      simp [Tree.template, Tree.templates]
    rw [parts]
    exact ih.template.append (Template.level_segment Text.isLevel_nil)

end Tree

end GraphQuery
