import GraphQuery.Tree

/-!
Marks: what a template holds besides text and names.

A union is announced in front of its branches, and what is stuck ends on a fault. Nothing else in a
tree leaves such a mark in its template, whatever frames stand around it and whatever is left out
because it has no text. So the marks of a template are those of the tree.

* `Mark`: a mark, `Template.marks` those of a template and `Tree.marks` those of a tree.
* `Tree.marks_template`: they are the same, in the same order.
* `Tree.unions`: the unions of a tree, each in front of those in its branches.
-/

namespace GraphQuery

/-- What a segment marks: a union of some branches, or a fault. -/
inductive Mark where
  | union (branches : Nat) (keyword : String)
  | fault (f : Fault)

namespace Mark

/-- The union that is marked. -/
def union? : Mark → Option (Nat × String)
  | union branches keyword => some (branches, keyword)
  | fault _ => none

/-- The fault that is marked. -/
def fault? : Mark → Option Fault
  | union .. => none
  | fault f => some f

end Mark

/-- The mark that a segment is. -/
def Segment.mark? : Segment → Option Mark
  | union branches keyword => some (.union branches keyword)
  | fault f => some (.fault f)
  | _ => none

/-- The union that a segment announces. -/
def Segment.union? (segment : Segment) : Option (Nat × String) := segment.mark?.bind Mark.union?

/-! ### The marks of a template -/

namespace Template

/-- The marks of a template, in their order. -/
def marks (t : Template) : List Mark := t.filterMap Segment.mark?

@[simp] theorem marks_nil : marks [] = [] := rfl

@[simp] theorem marks_cons (segment : Segment) (t : Template) :
    marks (segment :: t) = segment.mark?.toList ++ marks t := by
  rw [marks, List.filterMap_cons]
  cases segment.mark? <;> rfl

@[simp] theorem marks_append (t u : Template) : marks (t ++ u) = marks t ++ marks u :=
  List.filterMap_append

/-- What stands between the parts matters only where it is written. -/
theorem marks_join {between : Template} (silent : between.marks = []) (ts : List Template) :
    (join between ts).marks = ts.flatMap marks := by
  induction ts with
  | nil => rfl
  | cons t ts ih =>
    cases ts with
    | nil => simp [join]
    | cons u us => simp only [join, marks_append, silent, ih, List.flatMap_cons, List.append_nil]

theorem marks_listed {between : Template} (silent : between.marks = [])
    (ts : List Template) : (listed between ts).marks = ts.flatMap marks := by
  simp [listed, marks_join silent, Segment.mark?]

@[simp] theorem marks_commas (ts : List Template) : (commas ts).marks = ts.flatMap marks :=
  marks_listed rfl ts

@[simp] theorem marks_flatten (ts : List Template) :
    Template.marks ts.flatten = ts.flatMap marks := by
  induction ts with
  | nil => rfl
  | cons t ts ih => simp [ih]

/-- The unions that are announced in a template, with the numbers of their branches and their
keywords. -/
def unions (t : Template) : List (Nat × String) := t.marks.filterMap Mark.union?

@[simp] theorem unions_nil : unions [] = [] := rfl

@[simp] theorem unions_cons (segment : Segment) (t : Template) :
    unions (segment :: t) = segment.union?.toList ++ unions t := by
  rw [unions, marks_cons, List.filterMap_append, Segment.union?]
  cases segment.mark? with
  | none => rfl
  | some mark => cases mark <;> rfl

end Template

@[simp] theorem marks_parenthesized (t : Template) : (parenthesized t).marks = t.marks := by
  simp [parenthesized, Segment.mark?]

@[simp] theorem marks_braced (properties : List (Name × Template)) :
    (braced properties).marks = properties.flatMap fun p => p.2.marks := by
  unfold braced
  cases properties with
  | nil => rfl
  | cons p ps =>
    simp [Template.marks_join (show Template.marks [.text ", "] = [] from rfl), Segment.mark?,
      List.flatMap_map]

@[simp] theorem marks_projectionTemplate (kind : ProjectionKind) (distinct : Bool)
    (columns sortItems : List Template) (skip limit : Option Param) :
    (projectionTemplate kind distinct columns sortItems skip limit).marks =
      columns.flatMap Template.marks ++ sortItems.flatMap Template.marks := by
  have rowCount : ∀ (keyword : String) (p? : Option Param), Template.marks
      ((p?.map fun p => [.joint, .text keyword, .key p]).getD []) = [] := by
    intro keyword p?
    cases p? <;> rfl
  have ordered : Template.marks (if sortItems.isEmpty then [] else
      .joint :: .text "ORDER BY " :: Template.commas sortItems) =
        sortItems.flatMap Template.marks := by
    cases sortItems <;> simp [Segment.mark?]
  simp only [projectionTemplate, Template.marks_append, Template.marks_cons, ordered, rowCount,
    Template.marks_commas, Template.marks_nil, Segment.mark?, Option.toList_none,
    List.append_nil, List.nil_append]

@[simp] theorem marks_fragments (ts : List Template) :
    Template.marks (ts.map fragmentTemplate).flatten = ts.flatMap Template.marks := by
  rw [Template.marks_flatten, List.flatMap_map]
  congr 1
  funext t
  simp [fragmentTemplate, Segment.mark?]

/-! ### The marks of a tree -/

namespace Tree

mutual

/-- The marks that a tree leaves, in the order in which they are come upon: a union is marked in
front of its branches, and what is stuck behind what was written until then. -/
def marks : Tree → List Mark
  | label _ | key _ | star => []
  | property t _ | check _ t | negation t | column t | aliased t _ | sorted t _ | filter t =>
    t.marks
  | comparison _ t u => t.marks ++ u.marks
  | junction _ ts | call _ ts | pattern ts | removals ts | deletions _ ts | statement ts =>
    allMarks ts
  | union keyword ts => .union ts.length keyword :: allMarks ts
  | node _ _ ps | relationship _ _ ps _ => entryMarks ps
  | assignments es => pairMarks es
  | projection _ _ ts us _ _ => allMarks ts ++ allMarks us
  | patternClause _ _ ts us => allMarks ts ++ allMarks us
  | projectionClause t us => t.marks ++ allMarks us
  | given t => t.marks
  | stuck ts f => allMarks ts ++ [.fault f]

/-- The marks that trees leave. -/
def allMarks : List Tree → List Mark
  | [] => []
  | t :: rest => t.marks ++ allMarks rest

/-- The marks of what stands behind the names. -/
def entryMarks : List (Name × Tree) → List Mark
  | [] => []
  | (_, t) :: rest => t.marks ++ entryMarks rest

/-- The marks of the targets and their values. -/
def pairMarks : List (Tree × Tree) → List Mark
  | [] => []
  | (t, u) :: rest => t.marks ++ u.marks ++ pairMarks rest

end

/-- The unions in a tree, each in front of those in its branches. -/
def unions (t : Tree) : List (Nat × String) := t.marks.filterMap Mark.union?

mutual

/-- What has no text leaves no marks. -/
theorem marks_of_isBlank : (t : Tree) → t.isBlank = true → t.marks = []
  | statement ts, blank => allMarks_of_allBlank ts blank
  | given t, blank => by
    obtain rfl : t = [] := List.isEmpty_iff.mp blank
    rfl
  | label _, blank | key _, blank | property .., blank | comparison .., blank | check .., blank
  | junction .., blank | negation _, blank | call .., blank | star, blank | column _, blank
  | aliased .., blank | sorted .., blank | node .., blank | relationship .., blank
  | pattern _, blank | filter _, blank | assignments _, blank | removals _, blank
  | deletions .., blank | projection .., blank | patternClause .., blank
  | projectionClause .., blank | union .., blank | stuck .., blank => by cases blank

theorem allMarks_of_allBlank : (ts : List Tree) → allBlank ts = true → allMarks ts = []
  | [], _ => rfl
  | t :: ts, blank => by
    obtain ⟨first, others⟩ := (Bool.and_eq_true _ _).mp blank
    simp [allMarks, marks_of_isBlank t first, allMarks_of_allBlank ts others]

end

/-- What is written as a value of its own leaves no marks. -/
theorem marks_of_sole? {t : Tree} {sole : Sole} (eq : t.sole? = some sole) : t.marks = [] := by
  fun_induction sole? t with
  | case1 b => rfl
  | case2 t ih => exact ih eq
  | case3 t _ _ blank => exact marks_of_isBlank t blank
  | case4 => cases eq

/-- An item is written as a value of its own or like the tree. -/
theorem marks_asItem {t : Tree} (template : t.template.marks = t.marks) :
    (t.asItem t.template).marks = t.marks := by
  unfold asItem
  cases sole : t.sole? with
  | none => exact template
  | some sole' =>
    rw [marks_of_sole? sole]
    cases sole' <;> rfl

theorem marks_asOperand {t : Tree} (template : t.template.marks = t.marks) :
    (t.asOperand t.template).marks = t.marks := by
  unfold asOperand
  split
  · rw [marks_parenthesized, template]
  · exact marks_asItem template

/-- Each of the branches is an item. -/
theorem length_items (ts : List Tree) : (items ts).length = ts.length := by
  induction ts with
  | nil => rfl
  | cons t ts ih => rw [items, List.length_cons, ih, List.length_cons]

mutual

/-- The template of a tree holds the marks of the tree. -/
theorem marks_template : (t : Tree) → t.template.marks = t.marks
  | label _ | key _ | star => rfl
  | property t _ => by simp [template, marks, marks_template t, Segment.mark?]
  | comparison _ t u => by
    simp [template, marks, marks_template t, marks_template u, Segment.mark?]
  | check _ t => by simp [template, marks, marks_template t, Segment.mark?]
  | junction _ ts => (Template.marks_listed rfl _).trans (marks_operands ts)
  | negation t => by
    simp only [template, marks]
    split <;> simp [marks_template t, Segment.mark?]
  | call _ ts => by simp [template, marks, marks_items ts, Segment.mark?]
  | column t => marks_template t
  | aliased t name => by
    cases name <;> simp [template, marks, marks_template t, Segment.mark?, Alias.template]
  | sorted t _ => by simp [template, marks, marks_template t, Segment.mark?]
  | node _ _ ps => by
    simp [template, marks, nodeTemplate, marks_entries ps, Segment.mark?]
  | relationship _ _ ps _ => by
    simp [template, marks, relationshipTemplate, marks_entries ps, Segment.mark?]
  | pattern ts => (Template.marks_listed rfl _).trans (marks_items ts)
  | filter t => marks_template t
  | assignments es => by
    simp [template, marks, Template.marks_join (show Template.marks [.text ", "] = [] from rfl),
      marks_pairs es, Segment.mark?]
  | removals ts => by simp [template, marks, marks_items ts, Segment.mark?]
  | deletions _ ts => by simp [template, marks, marks_items ts, Segment.mark?]
  | projection _ _ ts us _ _ => by
    rw [template, marks, marks_projectionTemplate, marks_items ts, marks_items us]
  | patternClause _ path ts us => by
    rw [template, marks, Template.marks_append, marks_fragments, marks_templates us]
    cases path <;> simp [patternsTemplate, marks_items ts, Segment.mark?]
  | projectionClause t us => by
    rw [template, marks, Template.marks_append, marks_fragments, marks_template t,
      marks_templates us]
  | statement ts => by
    simp only [template, marks, statementTemplate, ← marks_written ts]
    have join := Template.marks_join (show Template.marks [.joint] = [] from rfl)
    cases written ts <;> simp [join, Segment.mark?]
  | union _ ts => by
    simp only [template, marks, unionTemplate, length_items, ← marks_items ts]
    simp [Template.marks_listed, Segment.mark?]
  | given _ => rfl
  | stuck ts f => by simp [template, marks, marks_templates ts, Segment.mark?]

theorem marks_templates : (ts : List Tree) →
    (templates ts).flatMap Template.marks = allMarks ts
  | [] => rfl
  | t :: ts => by simp [templates, allMarks, marks_template t, marks_templates ts]

theorem marks_operands : (ts : List Tree) → (operands ts).flatMap Template.marks = allMarks ts
  | [] => rfl
  | t :: ts => by
    simp [operands, allMarks, marks_asOperand (marks_template t), marks_operands ts]

theorem marks_items : (ts : List Tree) → (items ts).flatMap Template.marks = allMarks ts
  | [] => rfl
  | t :: ts => by simp [items, allMarks, marks_asItem (marks_template t), marks_items ts]

/-- What has no text is left out, and there is no mark in it. -/
theorem marks_written : (ts : List Tree) → (written ts).flatMap Template.marks = allMarks ts
  | [] => rfl
  | t :: ts => by
    simp only [written, allMarks]
    split
    · rw [marks_of_isBlank t ‹_›, List.nil_append, marks_written ts]
    · simp [marks_template t, marks_written ts]

theorem marks_entries : (ps : List (Name × Tree)) →
    ((entries ps).flatMap fun p => p.2.marks) = entryMarks ps
  | [] => rfl
  | (_, t) :: ps => by simp [entries, entryMarks, marks_template t, marks_entries ps]

theorem marks_pairs : (es : List (Tree × Tree)) →
    (pairs es).flatMap Template.marks = pairMarks es
  | [] => rfl
  | (t, u) :: es => by
    simp [pairs, pairMarks, marks_template t, marks_template u, marks_pairs es, Segment.mark?]

end

/-- The template of a tree announces the unions of the tree. -/
theorem unions_template (t : Tree) : t.template.unions = t.unions := by
  rw [Template.unions, marks_template, unions]

end Tree

end GraphQuery
