import GraphQuery.Proofs.Rendering.Tidiness
import GraphQuery.Tree

/-!
Tidy trees: a tree that is made of tidy ones has a tidy template.

Names are quiet because they are quoted, and behind every key stands a word of the query, a sign or
the separator, or nothing at all. Only the elements of a pattern have nothing between them; each of
them ends on a bracket or an arrow.

* `Tree.Clean`: a tree that may end on a key.
* One lemma for each constructor, such as `Tree.Clean.comparison`.
-/

namespace GraphQuery

/-! ### Names -/

/-- A name is quiet as it stands in a query. -/
theorem Name.isQuiet_escaped (n : Name) : Text.IsQuiet n.escaped := by
  cases n with
  | text s => exact Text.isQuiet_escaped s
  | direction d => cases d <;> decide

theorem isQuiet_pathText (path : List Name) : Text.IsQuiet (pathText path) := by
  refine Text.isQuiet_join fun s mem => ?_
  obtain ⟨n, -, rfl⟩ := List.mem_map.mp mem
  exact Text.IsQuiet.append (by decide) n.isQuiet_escaped

/-- A path begins with a point, if it is not empty. -/
theorem pathText_begins (path : List Name) : pathText path = "" ∨ Text.parts (pathText path) := by
  cases path with
  | nil => exact .inl rfl
  | cons n path =>
    refine .inr ?_
    unfold pathText
    rw [List.map_cons, String.join_cons, String.append_assoc]
    exact Text.parts_append (by decide) _

theorem isQuiet_labelsText (labels : List Name) : Text.IsQuiet (labelsText labels) := by
  refine Text.isQuiet_join fun s mem => ?_
  obtain ⟨n, -, rfl⟩ := List.mem_map.mp mem
  exact Text.IsQuiet.append (by decide) n.isQuiet_escaped

variable {G : Grounds}

/-! ### Frames -/

namespace Template

variable {t u : Template}

/-- A part that is left out or begins well. -/
theorem Clean.further (h : Clean G t) (h' : u = [] ∨ Begins u ∧ Clean G u) :
    Clean G (t ++ u) := by
  rcases h' with rfl | ⟨begins, clean⟩
  · rwa [List.append_nil]
  · exact h.append begins clean

/-- A template in parentheses. -/
theorem Clean.parenthesized (h : Clean G t) : Closed G (GraphQuery.parenthesized t) := by
  unfold GraphQuery.parenthesized
  exact (clean_text (by decide) h).close (begins_text (by decide) []) (closed_text (by decide))

/-- The properties in their braces. -/
theorem Clean.braced {properties : List (Name × Template)}
    (h : ∀ p ∈ properties, Clean G p.2) : Closed G (GraphQuery.braced properties) := by
  have written : ∀ t ∈ properties.map fun p => .text (p.1.escaped ++ ": ") :: p.2, Clean G t := by
    intro t mem
    obtain ⟨p, p_mem, rfl⟩ := List.mem_map.mp mem
    exact clean_text (p.1.isQuiet_escaped.append (by decide)) (h p p_mem)
  unfold GraphQuery.braced
  split
  · exact closed_nil
  · have inner : Clean G (Template.join [.text ", "]
        (properties.map fun p => .text (p.1.escaped ++ ": ") :: p.2)) :=
      Clean.join (begins_text (by decide) []) (closed_text (by decide)) written
    exact (clean_text (by decide) inner).close (begins_text (by decide) [])
      (closed_text (by decide))

/-- The fragments of a clause, each behind a separator. -/
theorem Clean.fragments (h : Clean G t) {ts : List Template} (h' : ∀ t ∈ ts, Clean G t) :
    Clean G (t ++ (ts.map fragmentTemplate).flatten) := by
  induction ts generalizing t with
  | nil => rwa [List.map_nil, List.flatten_nil, List.append_nil]
  | cons u ts ih =>
    have separator : Closed G [.separator] :=
      closed_cons trivial (fun _ eq => by cases eq) closed_nil
    have fragment : Clean G (fragmentTemplate u) :=
      (separator.append_clean (h' u List.mem_cons_self)).silent rfl
    rw [List.map_cons, List.flatten_cons, ← List.append_assoc]
    exact ih (h.append (begins_separator _) fragment) fun v mem => h' v (List.mem_cons_of_mem u mem)

/-- The sort items of a projection behind their keyword, or nothing. -/
theorem Clean.ordered (h : Clean G t) {ts : List Template} (h' : ∀ t ∈ ts, Clean G t) :
    Clean G (t ++
      if ts.isEmpty then [] else .joint :: .text "ORDER BY " :: Template.commas ts) := by
  refine h.further ?_
  split
  · exact .inl rfl
  · refine .inr ⟨begins_joint _, ?_⟩
    exact clean_cons trivial (fun _ eq => by cases eq) (clean_text (by decide) (.commas h'))

/-- A row count behind its keyword, or nothing. -/
theorem Clean.rowCount (h : Clean G t) (keyword : String) (quiet : Text.IsQuiet keyword)
    {p? : Option Param} (counts : ∀ p, p? = some p → G.param p) :
    Clean G (t ++ (p?.map fun p => [.joint, .text keyword, .key p]).getD []) := by
  refine h.further ?_
  cases p? with
  | none => exact .inl rfl
  | some p =>
    refine .inr ⟨begins_joint _, ?_⟩
    exact clean_cons trivial (fun _ eq => by cases eq) (clean_text quiet (clean_key (counts p rfl)))

end Template

/-! ### Trees -/

/-- The template of a tree is clean, in running text and as an item. -/
structure Tree.Clean (G : Grounds) (t : Tree) : Prop where
  template : Template.Clean G t.template
  item : Template.Clean G (t.asItem t.template)

/-- A tree that is an item may stand in front of everything. -/
def Tree.Closed (G : Grounds) (t : Tree) : Prop := Template.Closed G (t.asItem t.template)

namespace Tree

variable {t u : Tree} {ts us : List Tree}

/-! ### Lists of trees -/

theorem templates_eq (ts : List Tree) : templates ts = ts.map template := by
  induction ts with
  | nil => rfl
  | cons t ts ih => rw [templates, ih, List.map_cons]

theorem operands_eq (ts : List Tree) : operands ts = ts.map fun t => t.asOperand t.template := by
  induction ts with
  | nil => rfl
  | cons t ts ih => rw [operands, ih, List.map_cons]

theorem items_eq (ts : List Tree) : items ts = ts.map fun t => t.asItem t.template := by
  induction ts with
  | nil => rfl
  | cons t ts ih => rw [items, ih, List.map_cons]

theorem entries_eq (ps : List (Name × Tree)) :
    entries ps = ps.map fun p => (p.1, p.2.template) := by
  induction ps with
  | nil => rfl
  | cons p ps ih => rw [entries, ih, List.map_cons]

theorem pairs_eq (es : List (Tree × Tree)) :
    pairs es = es.map fun e => e.1.template ++ [.text " = "] ++ e.2.template := by
  induction es with
  | nil => rfl
  | cons e es ih => rw [pairs, ih, List.map_cons]

/-- What is written of a list of trees are templates of some of them. -/
theorem exists_of_mem_written {w : Template} (mem : w ∈ written ts) :
    ∃ t ∈ ts, w = t.template := by
  induction ts with
  | nil => cases mem
  | cons t ts ih =>
    have later : w ∈ written ts → ∃ u ∈ t :: ts, w = u.template := fun mem => by
      obtain ⟨u, u_mem, eq⟩ := ih mem
      exact ⟨u, List.mem_cons_of_mem t u_mem, eq⟩
    unfold written at mem
    split at mem
    · exact later mem
    · rcases List.mem_cons.mp mem with eq | mem
      · exact ⟨t, List.mem_cons_self, eq⟩
      · exact later mem

namespace Clean

/-- A tree that is not written as a value of its own. -/
theorem of_template (h : Template.Clean G t.template) (sole : t.sole? = none) : t.Clean G := by
  refine ⟨h, ?_⟩
  unfold asItem
  rw [sole]
  exact h

/-- A clean tree is a clean operand. -/
theorem asOperand (h : t.Clean G) : Template.Clean G (t.asOperand t.template) := by
  unfold Tree.asOperand
  split
  · exact h.template.parenthesized.clean
  · exact h.item

section Lists

variable (h : ∀ t ∈ ts, t.Clean G)
include h

theorem templates : ∀ w ∈ Tree.templates ts, Template.Clean G w := by
  rw [templates_eq]
  exact List.forall_mem_map.mpr fun t mem => (h t mem).template

theorem operands : ∀ w ∈ Tree.operands ts, Template.Clean G w := by
  rw [operands_eq]
  exact List.forall_mem_map.mpr fun t mem => (h t mem).asOperand

theorem items : ∀ w ∈ Tree.items ts, Template.Clean G w := by
  rw [items_eq]
  exact List.forall_mem_map.mpr fun t mem => (h t mem).item

theorem written : ∀ w ∈ Tree.written ts, Template.Clean G w := by
  intro w mem
  obtain ⟨t, t_mem, rfl⟩ := exists_of_mem_written mem
  exact (h t t_mem).template

end Lists

/-! ### One lemma for each constructor -/

theorem label {b : Bearer} (h : G.bearer b) : (Tree.label b).Clean G :=
  ⟨(Template.closed_label h).clean, (Template.closed_item h).clean⟩

theorem key {p : Param} (h : G.param p) : (Tree.key p).Clean G :=
  of_template (Template.clean_key h) rfl

theorem property (h : t.Clean G) (path : List Name) : (Tree.property t path).Clean G :=
  of_template (h.template.text (pathText_begins path) (isQuiet_pathText path)) rfl

/-- A word between blanks is quiet, and begins well. -/
theorem closed_word {word : String} (quiet : Text.IsQuiet word) :
    Template.Closed G [.text (" " ++ word ++ " ")] :=
  Template.closed_text ((Text.IsQuiet.append (by decide) quiet).append (by decide))

theorem begins_word (word : String) (rest : Template) :
    Template.Begins (.text (" " ++ word ++ " ") :: rest) :=
  Template.begins_text (Text.parts_append (Text.parts_append (by decide) word) " ") rest

theorem comparison {operator : String} (quiet : Text.IsQuiet operator) (h : t.Clean G)
    (h' : u.Clean G) : (Tree.comparison operator t u).Clean G :=
  of_template ((h.template.close (begins_word operator []) (closed_word quiet)).append_clean
    h'.template) rfl

/-- A word behind a template and a blank. -/
theorem behind (h : t.Clean G) {word : String} (quiet : Text.IsQuiet word) :
    Template.Clean G (t.template ++ [.text (" " ++ word)]) :=
  h.template.text (.inr (Text.parts_append (by decide) word))
    (Text.IsQuiet.append (by decide) quiet)

theorem check {operator : String} (quiet : Text.IsQuiet operator) (h : t.Clean G) :
    (Tree.check operator t).Clean G :=
  of_template (h.behind quiet) rfl

theorem junction {operator : String} (quiet : Text.IsQuiet operator) (h : ∀ t ∈ ts, t.Clean G) :
    (Tree.junction operator ts).Clean G :=
  of_template (.listed (begins_word operator []) (closed_word quiet) (operands h)) rfl

theorem negation (h : t.Clean G) : (Tree.negation t).Clean G := by
  refine of_template ?_ rfl
  unfold Tree.template
  split
  · exact Template.clean_text (by decide) h.template.parenthesized.clean
  · exact Template.clean_text (by decide) h.template

theorem call {name : String} (quiet : Text.IsQuiet name) (h : ∀ t ∈ ts, t.Clean G) :
    (Tree.call name ts).Clean G := by
  refine of_template ?_ rfl
  have arguments := Template.clean_text (quiet.append (by decide : Text.IsQuiet "("))
    (Template.Clean.commas (items h))
  exact arguments.text (.inr (by decide)) (by decide)

theorem star : Tree.star.Clean G := of_template (Template.closed_text (by decide)).clean rfl

theorem column (h : t.Clean G) : (Tree.column t).Clean G := ⟨h.template, h.item⟩

/-- What stands in front of the name of a column. -/
theorem front (h : t.Clean G) : Template.Closed G (t.template ++ [.text " AS "]) :=
  h.template.close (Template.begins_text (by decide) []) (Template.closed_text (by decide))

theorem aliased (h : t.Clean G) (n : Name) : (Tree.aliased t (.name n)).Clean G :=
  of_template (h.front.append (Template.closed_text n.isQuiet_escaped)).clean rfl

theorem aliasedBearer (h : t.Clean G) {b : Bearer} (h' : G.bearer b) :
    (Tree.aliased t (.bearer b)).Clean G :=
  of_template (h.front.append (Template.closed_label h')).clean rfl

theorem sorted (h : t.Clean G) {order : String} (quiet : Text.IsQuiet order) :
    (Tree.sorted t order).Clean G :=
  of_template (h.behind quiet) rfl

/-- The properties in their braces. -/
theorem braced {ps : List (Name × Tree)} (h : ∀ p ∈ ps, p.2.Clean G) :
    Template.Closed G (GraphQuery.braced (Tree.entries ps)) := by
  refine Template.Clean.braced ?_
  rw [entries_eq]
  exact List.forall_mem_map.mpr fun p mem => (h p mem).template

end Clean

/-- A node ends on its parenthesis. -/
theorem Closed.node {b : Bearer} (h : G.bearer b) (labels : List Name) {ps : List (Name × Tree)}
    (h' : ∀ p ∈ ps, p.2.Clean G) : (Tree.node b labels ps).Closed G := by
  have front : Template.Closed G [.text "(", .label b, .text (labelsText labels)] :=
    (Template.closed_text (by decide)).append
      ((Template.closed_label h).append (Template.closed_text (isQuiet_labelsText labels)))
  exact (front.append (Clean.braced h')).append (Template.closed_text (by decide))

/-- A relationship ends on its arrow. -/
theorem Closed.relationship {b : Bearer} (h : G.bearer b) (type : Option Name)
    {ps : List (Name × Tree)} (h' : ∀ p ∈ ps, p.2.Clean G) (d : Direction) :
    (Tree.relationship b type ps d).Closed G := by
  have tail : Text.IsQuiet (d.tail ++ "[") := by cases d <;> decide
  have tip : Text.IsQuiet ("]" ++ d.tip) := by cases d <;> decide
  have front : Template.Closed G
      [.text (d.tail ++ "["), .label b, .text (labelsText type.toList)] :=
    (Template.closed_text tail).append
      ((Template.closed_label h).append (Template.closed_text (isQuiet_labelsText type.toList)))
  exact (front.append (Clean.braced h')).append (Template.closed_text tip)

theorem Closed.stuck (f : Fault) : (Tree.stuck [] f).Closed G := Template.closed_fault f

/-- A tree that is written the same in running text and as an item. -/
theorem Closed.clean (h : t.Closed G) (sole : t.sole? = none) : t.Clean G := by
  have item := Template.Closed.clean h
  refine ⟨?_, item⟩
  unfold asItem at item
  rwa [sole] at item

namespace Clean

theorem pattern (h : ∀ t ∈ ts, t.Closed G) : (Tree.pattern ts).Clean G := by
  refine of_template (Template.Closed.listed_nil ?_).clean rfl
  rw [items_eq]
  exact List.forall_mem_map.mpr h

theorem filter (h : t.Clean G) : (Tree.filter t).Clean G :=
  of_template (Template.clean_text (by decide) h.template) rfl

theorem assignments {es : List (Tree × Tree)} (h : ∀ e ∈ es, e.1.Clean G ∧ e.2.Clean G) :
    (Tree.assignments es).Clean G := by
  have written : ∀ w ∈ Tree.pairs es, Template.Clean G w := by
    rw [pairs_eq]
    refine List.forall_mem_map.mpr fun e mem => ?_
    have target := (h e mem).1.template.close (Template.begins_text (s := " = ") (by decide) [])
      (Template.closed_text (by decide))
    exact target.append_clean (h e mem).2.template
  refine of_template (Template.clean_text (by decide) ?_) rfl
  exact .join (Template.begins_text (by decide) []) (Template.closed_text (by decide)) written

theorem removals (h : ∀ t ∈ ts, t.Clean G) : (Tree.removals ts).Clean G :=
  of_template (Template.clean_text (by decide) (.commas (items h))) rfl

theorem deletions (detach : Bool) (h : ∀ t ∈ ts, t.Clean G) :
    (Tree.deletions detach ts).Clean G := by
  refine of_template (Template.clean_text ?_ (.commas (items h))) rfl
  cases detach <;> decide

theorem projection (kind : ProjectionKind) (distinct : Bool) (h : ∀ t ∈ ts, t.Clean G)
    (h' : ∀ u ∈ us, u.Clean G) {skip limit : Option Param} (skips : ∀ p, skip = some p → G.param p)
    (limits : ∀ p, limit = some p → G.param p) :
    (Tree.projection kind distinct ts us skip limit).Clean G := by
  have keyword : Text.IsQuiet (kind.keyword ++ (if distinct then " DISTINCT" else "") ++ " ") := by
    cases kind <;> cases distinct <;> decide
  have columns : Template.Clean G (_ ++ [.joining]) :=
    (Template.clean_text keyword (.commas (items h))).silent rfl
  have ordered := columns.ordered (items h')
  have limited := (ordered.rowCount "SKIP " (by decide) skips).rowCount "LIMIT " (by decide) limits
  exact of_template (limited.silent rfl) rfl

theorem patternClause {keyword : String} (quiet : Text.IsQuiet keyword) {path : Option Bearer}
    (paths : ∀ b, path = some b → G.bearer b) (h : ∀ t ∈ ts, t.Clean G)
    (h' : ∀ u ∈ us, u.Clean G) : (Tree.patternClause keyword path ts us).Clean G := by
  have front : Template.Closed G ((path.map fun b => [.label b, .text " = "]).getD []) := by
    cases path with
    | none => exact Template.closed_nil
    | some b =>
      exact (Template.closed_label (paths b rfl)).append (Template.closed_text (by decide))
  have patterns := Template.clean_text (quiet.append (by decide : Text.IsQuiet " "))
    (front.append_clean (.commas (items h)))
  exact of_template (patterns.fragments (templates h')) rfl

theorem projectionClause (h : t.Clean G) (h' : ∀ u ∈ us, u.Clean G) :
    (Tree.projectionClause t us).Clean G :=
  of_template (h.template.fragments (templates h')) rfl

theorem statement (h : ∀ t ∈ ts, t.Clean G) : (Tree.statement ts).Clean G := by
  have joint : Template.Closed G [.joint] :=
    Template.closed_cons trivial (fun _ eq => by cases eq) Template.closed_nil
  have joining : Template.Closed G [.joining] := Template.closed_silent rfl
  have parts := joining.append_clean
    (Template.Clean.join (Template.begins_joint []) joint (written h))
  have template : Template.Clean G (Tree.statement ts).template := by
    refine Template.Clean.silent parts ?_
    split <;> rfl
  refine ⟨template, ?_⟩
  unfold asItem
  split
  · rename_i b sole
    unfold sole? at sole
    split at sole <;> cases sole
  · exact ((Template.closed_silent rfl).append (Template.closed_silent rfl)).clean
  · exact template

theorem union {keyword : String} (quiet : Text.IsQuiet keyword) (h : ∀ t ∈ ts, t.Clean G) :
    (Tree.union keyword ts).Clean G := by
  have separator : Template.Closed G [.separator] :=
    Template.closed_cons trivial (fun _ eq => by cases eq) Template.closed_nil
  have between := (separator.append (Template.closed_text quiet)).append separator
  have branches := Template.Clean.listed (Template.begins_separator _) between (items h)
  exact of_template ((Template.closed_silent rfl).append_clean
    ((Template.closed_silent rfl).append_clean branches)) rfl

/-- Where a fault is met behind a part, nothing more is written. -/
theorem halted (h : t.Clean G) (f : Fault) : (Tree.stuck [t] f).Closed G := by
  have parts : (Tree.stuck [t] f).template = t.template ++ [.fault f] := by
    simp [Tree.template, Tree.templates]
  unfold Tree.Closed asItem
  rw [show (Tree.stuck [t] f).sole? = none from rfl, parts]
  exact h.template.close (Template.begins_fault f []) (Template.closed_fault f)

end Clean

end Tree

end GraphQuery
