import GraphQuery.Tree

/-!
The names of their own that columns are given in a tree.

Such a name is written as it is. It is neither a place for a label nor for a key, so a tree with
other names in their place has the same template but for what its texts say, and names are given
while it is written as before.

* `Tree.aliases`: the names, from left to right.
* `Tree.realiased`: the tree with other names in their place.
* `Tree.unworded_realiased`: its template differs in texts alone.
* `Template.fill_unworded`: texts do not matter for the names that are given.
-/

namespace GraphQuery

/-! ### Templates without texts -/

/-- The segment with no text in it. -/
def Segment.unworded : Segment → Segment
  | text _ => text ""
  | segment => segment

namespace Template

/-- The template with no text in it. -/
def unworded (t : Template) : Template := t.map Segment.unworded

@[simp] theorem unworded_nil : unworded [] = [] := rfl

@[simp] theorem unworded_cons (segment : Segment) (t : Template) :
    unworded (segment :: t) = segment.unworded :: unworded t := rfl

@[simp] theorem unworded_append (t u : Template) :
    unworded (t ++ u) = unworded t ++ unworded u := List.map_append

@[simp] theorem unworded_join (between : Template) (ts : List Template) :
    unworded (join between ts) = join between.unworded (ts.map unworded) := by
  induction ts with
  | nil => rfl
  | cons t ts ih =>
    cases ts with
    | nil => rfl
    | cons u us =>
      simp only [join, unworded_append, ih, List.map_cons]

@[simp] theorem unworded_listed (between : Template) (ts : List Template) :
    unworded (listed between ts) = listed between.unworded (ts.map unworded) := by
  simp [listed, Segment.unworded]

@[simp] theorem unworded_commas (ts : List Template) :
    unworded (commas ts) = listed [.text ""] (ts.map unworded) :=
  unworded_listed _ ts

@[simp] theorem unworded_flatten (ts : List Template) :
    unworded ts.flatten = (ts.map unworded).flatten := List.map_flatten

section Filling

variable {σ : Type} [Registry σ]

/-- What a segment does to the registry and to the lists does not lie in its text. -/
theorem write_unworded (pen : Pen σ) (segment : Segment) :
    (segment.unworded.write pen).pen = (segment.write pen).pen ∧
      (segment.unworded.write pen).occurrences = (segment.write pen).occurrences ∧
      (segment.unworded.write pen).fault? = (segment.write pen).fault? := by
  cases segment <;> exact ⟨rfl, rfl, rfl⟩

/-- The names that are given while a template is filled, what happens meanwhile and the fault that
is met do not lie in its texts. -/
theorem fill_unworded (pen : Pen σ) (t : Template) :
    (t.unworded.fill pen).pen = (t.fill pen).pen ∧
      (t.unworded.fill pen).occurrences = (t.fill pen).occurrences ∧
      (t.unworded.fill pen).fault? = (t.fill pen).fault? := by
  induction t generalizing pen with
  | nil => exact ⟨rfl, rfl, rfl⟩
  | cons segment rest ih =>
    obtain ⟨pen_eq, occurrences_eq, fault_eq⟩ := write_unworded pen segment
    simp only [unworded_cons, fill, fault_eq]
    split
    · exact ⟨pen_eq, occurrences_eq, fault_eq⟩
    · obtain ⟨pen_eq', occurrences_eq', fault_eq'⟩ := ih (segment.write pen).pen
      simp only [pen_eq, occurrences_eq, pen_eq', occurrences_eq', fault_eq', and_self]

end Filling

end Template

/-! ### Frames without texts -/

section Length

variable {α β : Type} {g : α → β} {as as' : List α}

/-- Lists with the same image are of the same length. -/
theorem length_eq_of_map_eq (h : as'.map g = as.map g) : as'.length = as.length := by
  simpa only [List.length_map] using congrArg List.length h

theorem isEmpty_eq_of_map_eq (h : as'.map g = as.map g) : as'.isEmpty = as.isEmpty := by
  rw [← List.isEmpty_map (f := g), h, List.isEmpty_map]

end Length

@[simp] theorem unworded_parenthesized (t : Template) :
    (parenthesized t).unworded = .text "" :: t.unworded ++ [.text ""] := by
  simp [parenthesized, Segment.unworded]

/-- Braces differ in texts alone if what stands behind the names does. -/
theorem unworded_braced {ps ps' : List (Name × Template)}
    (h : (ps'.map fun p => p.2.unworded) = ps.map fun p => p.2.unworded) :
    (braced ps').unworded = (braced ps).unworded := by
  have inner : ∀ qs : List (Name × Template),
      (qs.map fun p : Name × Template => .text (p.1.escaped ++ ": ") :: p.2).map
        Template.unworded = (qs.map fun p => p.2.unworded).map (.text "" :: ·) := by
    intro qs
    simp [Function.comp_def, Segment.unworded]
  unfold braced
  rw [isEmpty_eq_of_map_eq h]
  split
  · rfl
  · simp only [List.cons_append, Template.unworded_cons, Template.unworded_append,
      Template.unworded_join, inner, h]

/-- Projections differ in texts alone if their columns and their sort items do. -/
theorem unworded_projectionTemplate (kind : ProjectionKind) (distinct : Bool)
    {columns columns' sortItems sortItems' : List Template} (skip limit : Option Param)
    (h : columns'.map Template.unworded = columns.map Template.unworded)
    (h' : sortItems'.map Template.unworded = sortItems.map Template.unworded) :
    (projectionTemplate kind distinct columns' sortItems' skip limit).unworded =
      (projectionTemplate kind distinct columns sortItems skip limit).unworded := by
  simp only [projectionTemplate, isEmpty_eq_of_map_eq h', Template.unworded_append,
    Template.unworded_cons, Template.unworded_commas, h]
  congr 4
  split
  · rfl
  · simp [h']

/-- The fragments of a clause. -/
theorem unworded_fragments {ts ts' : List Template}
    (h : ts'.map Template.unworded = ts.map Template.unworded) :
    (Template.unworded (ts'.map fragmentTemplate).flatten) =
      Template.unworded (ts.map fragmentTemplate).flatten := by
  have inner : ∀ us : List Template, (us.map fragmentTemplate).map Template.unworded =
      (us.map Template.unworded).map fragmentTemplate := by
    intro us
    simp [fragmentTemplate, Function.comp_def, Segment.unworded]
  rw [Template.unworded_flatten, Template.unworded_flatten, inner, inner, h]

namespace Tree

/-! ### The names of columns -/

mutual

/-- The names of their own that columns are given, from left to right. -/
def aliases : Tree → List Name
  | label _ | key _ | star | given _ => []
  | property t _ | check _ t | negation t | column t | aliased t (.bearer _) | sorted t _
  | filter t => t.aliases
  | aliased t (.name n) => t.aliases ++ [n]
  | comparison _ t u => t.aliases ++ u.aliases
  | junction _ ts | call _ ts | pattern ts | removals ts | deletions _ ts | statement ts
  | union _ ts | stuck ts _ => aliasesOf ts
  | node _ _ ps | relationship _ _ ps _ => entryAliases ps
  | assignments es => pairAliases es
  | projection _ _ ts us _ _ | patternClause _ _ ts us => aliasesOf ts ++ aliasesOf us
  | projectionClause t us => t.aliases ++ aliasesOf us

/-- The names of columns in any of the trees. -/
def aliasesOf : List Tree → List Name
  | [] => []
  | t :: rest => t.aliases ++ aliasesOf rest

/-- The names of columns in what stands behind names. -/
def entryAliases : List (Name × Tree) → List Name
  | [] => []
  | (_, t) :: rest => t.aliases ++ entryAliases rest

/-- The names of columns in targets and their values. -/
def pairAliases : List (Tree × Tree) → List Name
  | [] => []
  | (t, u) :: rest => t.aliases ++ u.aliases ++ pairAliases rest

end

/-- The name behind `AS` with another one in its place, if it is a name of its own. -/
def aliasWith (f : Name → Name) : Alias → Alias
  | .bearer b => .bearer b
  | .name n => .name (f n)

section Realiased

variable (f : Name → Name)

mutual

/-- The tree with other names in the place of those that columns are given. -/
def realiased : Tree → Tree
  | label b => label b
  | key p => key p
  | property t path => property t.realiased path
  | comparison operator t u => comparison operator t.realiased u.realiased
  | check operator t => check operator t.realiased
  | junction operator ts => junction operator (allRealiased ts)
  | negation t => negation t.realiased
  | call name ts => call name (allRealiased ts)
  | star => star
  | column t => column t.realiased
  | aliased t name => aliased t.realiased (aliasWith f name)
  | sorted t order => sorted t.realiased order
  | node b labels ps => node b labels (entriesRealiased ps)
  | relationship b type ps direction => relationship b type (entriesRealiased ps) direction
  | pattern ts => pattern (allRealiased ts)
  | filter t => filter t.realiased
  | assignments es => assignments (pairsRealiased es)
  | removals ts => removals (allRealiased ts)
  | deletions detach ts => deletions detach (allRealiased ts)
  | projection kind distinct ts us skip limit =>
    projection kind distinct (allRealiased ts) (allRealiased us) skip limit
  | patternClause keyword path ts us =>
    patternClause keyword path (allRealiased ts) (allRealiased us)
  | projectionClause t us => projectionClause t.realiased (allRealiased us)
  | statement ts => statement (allRealiased ts)
  | union keyword ts => union keyword (allRealiased ts)
  | given t => given t
  | stuck ts fault => stuck (allRealiased ts) fault

/-- The trees with other names in the place of those that columns are given. -/
def allRealiased : List Tree → List Tree
  | [] => []
  | t :: rest => t.realiased :: allRealiased rest

/-- The same for what stands behind names. -/
def entriesRealiased : List (Name × Tree) → List (Name × Tree)
  | [] => []
  | (n, t) :: rest => (n, t.realiased) :: entriesRealiased rest

/-- The same for targets and their values. -/
def pairsRealiased : List (Tree × Tree) → List (Tree × Tree)
  | [] => []
  | (t, u) :: rest => (t.realiased, u.realiased) :: pairsRealiased rest

end

mutual

/-- The names of the columns have been replaced. -/
theorem aliases_realiased : (t : Tree) → (t.realiased f).aliases = t.aliases.map f
  | label _ | key _ | star | given _ => rfl
  | property t _ | check _ t | negation t | column t | aliased t (.bearer _) | sorted t _
  | filter t => aliases_realiased t
  | aliased t (.name n) => by simp [realiased, aliasWith, aliases, aliases_realiased t]
  | comparison _ t u => by
    simp [realiased, aliases, aliases_realiased t, aliases_realiased u]
  | projectionClause t us => by
    simp [realiased, aliases, aliases_realiased t, aliasesOf_realiased us]
  | projection _ _ ts us _ _ | patternClause _ _ ts us => by
    simp [realiased, aliases, aliasesOf_realiased ts, aliasesOf_realiased us]
  | junction _ ts | call _ ts | pattern ts | removals ts | deletions _ ts | statement ts
  | union _ ts | stuck ts _ => aliasesOf_realiased ts
  | node _ _ ps | relationship _ _ ps _ => entryAliases_realiased ps
  | assignments es => pairAliases_realiased es

theorem aliasesOf_realiased : (ts : List Tree) →
    aliasesOf (allRealiased f ts) = (aliasesOf ts).map f
  | [] => rfl
  | t :: ts => by
    simp [allRealiased, aliasesOf, aliases_realiased t, aliasesOf_realiased ts]

theorem entryAliases_realiased : (ps : List (Name × Tree)) →
    entryAliases (entriesRealiased f ps) = (entryAliases ps).map f
  | [] => rfl
  | (_, t) :: ps => by
    simp [entriesRealiased, entryAliases, aliases_realiased t, entryAliases_realiased ps]

theorem pairAliases_realiased : (es : List (Tree × Tree)) →
    pairAliases (pairsRealiased f es) = (pairAliases es).map f
  | [] => rfl
  | (t, u) :: es => by
    simp [pairsRealiased, pairAliases, aliases_realiased t, aliases_realiased u,
      pairAliases_realiased es]

end

/-! ### Their templates -/

@[simp] theorem isJunction_realiased (t : Tree) :
    (t.realiased f).isJunction = t.isJunction := by
  cases t <;> rfl

mutual

theorem isBlank_realiased : (t : Tree) → (t.realiased f).isBlank = t.isBlank
  | statement ts => allBlank_realiased ts
  | label _ | key _ | property .. | comparison .. | check .. | junction .. | negation _ | call ..
  | star | column _ | aliased .. | sorted .. | node .. | relationship .. | pattern _ | filter _
  | assignments _ | removals _ | deletions .. | projection .. | patternClause ..
  | projectionClause .. | union .. | given _ | stuck .. => rfl

theorem allBlank_realiased : (ts : List Tree) → allBlank (allRealiased f ts) = allBlank ts
  | [] => rfl
  | t :: ts => by simp [allRealiased, allBlank, isBlank_realiased t, allBlank_realiased ts]

end

theorem sole?_realiased : (t : Tree) → (t.realiased f).sole? = t.sole?
  | column t => sole?_realiased t
  | statement ts => by
    have blank : (statement (allRealiased f ts)).isBlank = (statement ts).isBlank :=
      allBlank_realiased f ts
    simp only [realiased, sole?, blank]
  | label _ | key _ | property .. | comparison .. | check .. | junction .. | negation _ | call ..
  | star | aliased .. | sorted .. | node .. | relationship .. | pattern _ | filter _
  | assignments _ | removals _ | deletions .. | projection .. | patternClause ..
  | projectionClause .. | union .. | given _ | stuck .. => rfl

/-- An item differs in texts alone if it does so in running text. -/
theorem unworded_asItem {t : Tree}
    (h : (t.realiased f).template.unworded = t.template.unworded) :
    ((t.realiased f).asItem (t.realiased f).template).unworded =
      (t.asItem t.template).unworded := by
  unfold asItem
  rw [sole?_realiased]
  split
  · rfl
  · rfl
  · exact h

theorem unworded_asOperand {t : Tree}
    (h : (t.realiased f).template.unworded = t.template.unworded) :
    ((t.realiased f).asOperand (t.realiased f).template).unworded =
      (t.asOperand t.template).unworded := by
  unfold asOperand
  rw [isJunction_realiased]
  split
  · rw [unworded_parenthesized, unworded_parenthesized, h]
  · exact unworded_asItem f h

mutual

/-- With other names for columns a tree has the same template but for what its texts say. -/
theorem unworded_realiased : (t : Tree) →
    (t.realiased f).template.unworded = t.template.unworded
  | label _ | key _ | star | given _ => rfl
  | property t _ | check _ t | sorted t _ | filter t => by
    simp [realiased, template, unworded_realiased t]
  | column t => unworded_realiased t
  | comparison _ t u => by
    simp [realiased, template, unworded_realiased t, unworded_realiased u]
  | junction _ ts => by simp [realiased, template, unworded_operands ts]
  | negation t => by
    simp only [realiased, template, isJunction_realiased, Template.unworded_cons]
    split <;> simp [unworded_realiased t]
  | call _ ts => by simp [realiased, template, unworded_items ts, Segment.unworded]
  | aliased t name => by
    cases name <;>
      simp [realiased, aliasWith, template, Alias.template, unworded_realiased t, Segment.unworded]
  | node _ _ ps => by
    simp [realiased, template, nodeTemplate, unworded_braced (unworded_entries ps)]
  | relationship _ _ ps _ => by
    simp [realiased, template, relationshipTemplate, unworded_braced (unworded_entries ps)]
  | pattern ts => by simp [realiased, template, unworded_items ts]
  | assignments es => by simp [realiased, template, unworded_pairs es]
  | removals ts => by simp [realiased, template, unworded_items ts]
  | deletions _ ts => by simp [realiased, template, unworded_items ts]
  | projection kind distinct ts us skip limit => by
    exact unworded_projectionTemplate kind distinct skip limit (unworded_items ts)
      (unworded_items us)
  | patternClause _ path ts us => by
    simp [realiased, template, patternsTemplate, unworded_items ts,
      unworded_fragments (unworded_templates us)]
  | projectionClause t us => by
    simp only [realiased, template, Template.unworded_append, unworded_realiased t,
      unworded_fragments (unworded_templates us)]
  | statement ts => by
    have parts := unworded_written ts
    simp [realiased, template, statementTemplate, parts, isEmpty_eq_of_map_eq parts]
  | union _ ts => by
    have branches := unworded_items ts
    simp [realiased, template, unionTemplate, branches, length_eq_of_map_eq branches,
      Segment.unworded]
  | stuck ts _ => by simp [realiased, template, unworded_templates ts]

theorem unworded_templates : (ts : List Tree) →
    (templates (allRealiased f ts)).map Template.unworded = (templates ts).map Template.unworded
  | [] => rfl
  | t :: ts => by simp [allRealiased, templates, unworded_realiased t, unworded_templates ts]

theorem unworded_operands : (ts : List Tree) →
    (operands (allRealiased f ts)).map Template.unworded = (operands ts).map Template.unworded
  | [] => rfl
  | t :: ts => by
    simp [allRealiased, operands, unworded_asOperand f (unworded_realiased t),
      unworded_operands ts]

theorem unworded_items : (ts : List Tree) →
    (items (allRealiased f ts)).map Template.unworded = (items ts).map Template.unworded
  | [] => rfl
  | t :: ts => by
    simp [allRealiased, items, unworded_asItem f (unworded_realiased t), unworded_items ts]

theorem unworded_written : (ts : List Tree) →
    (written (allRealiased f ts)).map Template.unworded = (written ts).map Template.unworded
  | [] => rfl
  | t :: ts => by
    simp only [allRealiased, written, isBlank_realiased]
    split
    · exact unworded_written ts
    · simp [unworded_realiased t, unworded_written ts]

theorem unworded_entries : (ps : List (Name × Tree)) →
    ((entries (entriesRealiased f ps)).map fun p => p.2.unworded) =
      (entries ps).map fun p => p.2.unworded
  | [] => rfl
  | (_, t) :: ps => by
    simp [entriesRealiased, entries, unworded_realiased t, unworded_entries ps]

theorem unworded_pairs : (es : List (Tree × Tree)) →
    (pairs (pairsRealiased f es)).map Template.unworded = (pairs es).map Template.unworded
  | [] => rfl
  | (t, u) :: es => by
    simp [pairsRealiased, pairs, unworded_realiased t, unworded_realiased u, unworded_pairs es]

end

end Realiased

end Tree

end GraphQuery
