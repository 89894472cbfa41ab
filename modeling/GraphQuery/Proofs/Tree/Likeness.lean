import GraphQuery.Proofs.Rendering.Likeness
import GraphQuery.Tree

/-!
Trees that differ only in who bears a name and in the values of parameters.

Two trees are alike when their templates are, and when both are blank or neither is, both are
boolean combinations or neither is, and both are values of their own or neither is. Trees that are
made of like trees in the same way are alike.

* `Tree.Alike`: two trees are alike.
* One lemma for each constructor, such as `Tree.Alike.comparison`.
-/

namespace GraphQuery

variable {L : Likeness}

/-! ### Templates -/

/-- Related lists are both empty or neither is. -/
theorem isEmpty_eq_of_forall₂ {α β : Type} {R : α → β → Prop} {as : List α} {bs : List β}
    (h : List.Forall₂ R as bs) : bs.isEmpty = as.isEmpty := by
  cases h <;> rfl

theorem Segment.Alike.text (s : String) : Segment.Alike L (.text s) (.text s) := .other rfl

namespace Template.Alike

variable {t t' u u' : Template}

theorem append (h : t.Alike L t') (h' : u.Alike L u') : Template.Alike L (t ++ u) (t' ++ u') :=
  List.rel_append h h'

/-- A text alone. -/
theorem text (s : String) : Template.Alike L [.text s] [.text s] := .cons (.text s) .nil

/-- A template in which nothing has a name. -/
theorem nameless (noName : ∀ segment ∈ t, Segment.isName segment = false) : t.Alike L t :=
  List.forall₂_same.mpr fun segment mem => .other (noName segment mem)

theorem join {between : Template} (noName : ∀ segment ∈ between, Segment.isName segment = false)
    {ts ts' : List Template} (h : List.Forall₂ (Template.Alike L) ts ts') :
    Template.Alike L (Template.join between ts) (Template.join between ts') := by
  induction h with
  | nil => exact .nil
  | cons first others ih =>
    cases others with
    | nil => exact first
    | cons second others => exact (first.append (.nameless noName)).append ih

theorem listed {between : Template} (noName : ∀ segment ∈ between, Segment.isName segment = false)
    {ts ts' : List Template} (h : List.Forall₂ (Template.Alike L) ts ts') :
    Template.Alike L (Template.listed between ts) (Template.listed between ts') :=
  .cons (.other rfl) ((join noName h).append (.cons (.other rfl) .nil))

theorem commas {ts ts' : List Template} (h : List.Forall₂ (Template.Alike L) ts ts') :
    Template.Alike L (Template.commas ts) (Template.commas ts') :=
  listed (by simp [Segment.isName]) h

theorem parenthesized (h : t.Alike L t') :
    Template.Alike L (GraphQuery.parenthesized t) (GraphQuery.parenthesized t') :=
  .cons (.text _) (h.append (.text _))

theorem flatten {ts ts' : List Template} (h : List.Forall₂ (Template.Alike L) ts ts') :
    Template.Alike L ts.flatten ts'.flatten := by
  induction h with
  | nil => exact .nil
  | cons first _ ih => exact first.append ih

/-- The fragments of a clause. -/
theorem fragments {ts ts' : List Template} (h : List.Forall₂ (Template.Alike L) ts ts') :
    Template.Alike L (ts.map fragmentTemplate).flatten (ts'.map fragmentTemplate).flatten := by
  refine flatten ?_
  rw [List.forall₂_map_left_iff, List.forall₂_map_right_iff]
  exact h.imp fun _ _ h => .cons (.other rfl) (h.append (.cons (.other rfl) .nil))

/-- A row count behind its keyword, or nothing. -/
theorem rowCount {p? p?' : Option Param} (keyword : String)
    (h : Option.Rel (Param.Corresponds L) p? p?') :
    Template.Alike L ((p?.map fun p => [.joint, .text keyword, .key p]).getD [])
      ((p?'.map fun p => [.joint, .text keyword, .key p]).getD []) := by
  cases h with
  | none => exact .nil
  | some p => exact .cons (.other rfl) (.cons (.text _) (.cons (.key p) .nil))

end Template.Alike

/-! ### Trees -/

/-- Two values of their own are alike. -/
inductive Sole.Alike (L : Likeness) : Sole → Sole → Prop where
  | label {b b' : Bearer} : b.Alike L b' → Alike L (.label b) (.label b')
  | blank : Alike L .blank .blank

/-- Two trees are alike. -/
structure Tree.Alike (L : Likeness) (t t' : Tree) : Prop where
  template : t.template.Alike L t'.template
  isBlank_eq : t'.isBlank = t.isBlank
  isJunction_eq : t'.isJunction = t.isJunction
  sole : Option.Rel (Sole.Alike L) t.sole? t'.sole?

namespace Tree.Alike

variable {t t' u u' : Tree} {ts ts' us us' : List Tree}

/-- Like trees are like items. -/
theorem asItem (h : t.Alike L t') :
    Template.Alike L (t.asItem t.template) (t'.asItem t'.template) := by
  have sole := h.sole
  unfold Tree.asItem
  generalize t.sole? = sole? at sole
  generalize t'.sole? = sole?' at sole
  cases sole with
  | none => exact h.template
  | some alike =>
    cases alike with
    | label b => exact .cons (.item b) .nil
    | blank => exact .nameless (by simp [Segment.isName])

/-- Like trees are like operands. -/
theorem asOperand (h : t.Alike L t') :
    Template.Alike L (t.asOperand t.template) (t'.asOperand t'.template) := by
  unfold Tree.asOperand
  rw [h.isJunction_eq]
  split
  · exact h.template.parenthesized
  · exact h.asItem

section Lists

variable (h : List.Forall₂ (Tree.Alike L) ts ts')
include h

theorem templates : List.Forall₂ (Template.Alike L) (Tree.templates ts) (Tree.templates ts') := by
  induction h with
  | nil => exact .nil
  | cons first _ ih => exact .cons first.template ih

theorem operands : List.Forall₂ (Template.Alike L) (Tree.operands ts) (Tree.operands ts') := by
  induction h with
  | nil => exact .nil
  | cons first _ ih => exact .cons first.asOperand ih

theorem items : List.Forall₂ (Template.Alike L) (Tree.items ts) (Tree.items ts') := by
  induction h with
  | nil => exact .nil
  | cons first _ ih => exact .cons first.asItem ih

theorem written : List.Forall₂ (Template.Alike L) (Tree.written ts) (Tree.written ts') := by
  induction h with
  | nil => exact .nil
  | cons first _ ih =>
    unfold Tree.written
    rw [first.isBlank_eq]
    split
    · exact ih
    · exact .cons first.template ih

theorem allBlank_eq : Tree.allBlank ts' = Tree.allBlank ts := by
  induction h with
  | nil => rfl
  | cons first _ ih => rw [Tree.allBlank, Tree.allBlank, first.isBlank_eq, ih]

end Lists

/-- Properties of the same names, with like trees. -/
def Properties (L : Likeness) : List (Name × Tree) → List (Name × Tree) → Prop :=
  List.Forall₂ fun p p' => p'.1 = p.1 ∧ p.2.Alike L p'.2

theorem braced {ps ps' : List (Name × Tree)} (h : Properties L ps ps') :
    Template.Alike L (GraphQuery.braced (entries ps)) (GraphQuery.braced (entries ps')) := by
  have written : List.Forall₂ (Template.Alike L)
      ((entries ps).map fun p => .text (p.1.escaped ++ ": ") :: p.2)
      ((entries ps').map fun p => .text (p.1.escaped ++ ": ") :: p.2) := by
    induction h with
    | nil => exact .nil
    | @cons p p' _ _ first _ ih =>
      obtain ⟨n, t⟩ := p
      obtain ⟨n', t'⟩ := p'
      obtain ⟨rfl, alike⟩ := first
      exact .cons (.cons (.text _) alike.template) ih
  unfold GraphQuery.braced
  cases h with
  | nil => exact .nil
  | cons first others =>
    simp only [entries, List.isEmpty_cons]
    exact .cons (.text _)
      ((Template.Alike.join (by simp [Segment.isName]) written).append (.text _))

/-! ### One lemma for each constructor -/

theorem label {b b' : Bearer} (h : b.Alike L b') : (Tree.label b).Alike L (.label b') :=
  ⟨.cons (.label h) .nil, rfl, rfl, .some (.label h)⟩

theorem key {p p' : Param} (h : p.Corresponds L p') : (Tree.key p).Alike L (.key p') :=
  ⟨.cons (.key h) .nil, rfl, rfl, .none⟩

theorem property (h : t.Alike L t') (path : List Name) :
    (Tree.property t path).Alike L (.property t' path) :=
  ⟨h.template.append (.text _), rfl, rfl, .none⟩

theorem comparison (operator : String) (h : t.Alike L t') (h' : u.Alike L u') :
    (Tree.comparison operator t u).Alike L (.comparison operator t' u') :=
  ⟨(h.template.append (.text _)).append h'.template, rfl, rfl, .none⟩

theorem check (operator : String) (h : t.Alike L t') :
    (Tree.check operator t).Alike L (.check operator t') :=
  ⟨h.template.append (.text _), rfl, rfl, .none⟩

theorem junction (operator : String) (h : List.Forall₂ (Tree.Alike L) ts ts') :
    (Tree.junction operator ts).Alike L (.junction operator ts') :=
  ⟨.listed (by simp [Segment.isName]) (operands h), rfl, rfl, .none⟩

theorem negation (h : t.Alike L t') : (Tree.negation t).Alike L (.negation t') := by
  refine ⟨?_, rfl, rfl, .none⟩
  unfold Tree.template
  rw [h.isJunction_eq]
  split
  · exact .cons (.text _) h.template.parenthesized
  · exact .cons (.text _) h.template

theorem call (name : String) (h : List.Forall₂ (Tree.Alike L) ts ts') :
    (Tree.call name ts).Alike L (.call name ts') :=
  ⟨.cons (.text _) ((Template.Alike.commas (items h)).append (.text _)), rfl, rfl, .none⟩

theorem star : Tree.star.Alike L .star :=
  ⟨.text _, rfl, rfl, .none⟩

theorem column (h : t.Alike L t') : (Tree.column t).Alike L (.column t') :=
  ⟨h.template, rfl, rfl, h.sole⟩

theorem aliased (h : t.Alike L t') (n : Name) :
    (Tree.aliased t (.name n)).Alike L (.aliased t' (.name n)) :=
  ⟨(h.template.append (.text _)).append (.text _), rfl, rfl, .none⟩

theorem aliasedBearer (h : t.Alike L t') {b b' : Bearer} (h' : b.Alike L b') :
    (Tree.aliased t (.bearer b)).Alike L (.aliased t' (.bearer b')) :=
  ⟨(h.template.append (.text _)).append (.cons (.label h') .nil), rfl, rfl, .none⟩

theorem sorted (h : t.Alike L t') (order : String) :
    (Tree.sorted t order).Alike L (.sorted t' order) :=
  ⟨h.template.append (.text _), rfl, rfl, .none⟩

theorem node {b b' : Bearer} (h : b.Alike L b') (labels : List Name) {ps ps' : List (Name × Tree)}
    (h' : Properties L ps ps') : (Tree.node b labels ps).Alike L (.node b' labels ps') := by
  refine ⟨?_, rfl, rfl, .none⟩
  exact .cons (.text _) (.cons (.label h) (.cons (.text _) ((braced h').append (.text _))))

theorem relationship {b b' : Bearer} (h : b.Alike L b') (type : Option Name)
    {ps ps' : List (Name × Tree)} (h' : Properties L ps ps') (d : Direction) :
    (Tree.relationship b type ps d).Alike L (.relationship b' type ps' d) := by
  refine ⟨?_, rfl, rfl, .none⟩
  exact .cons (.text _) (.cons (.label h) (.cons (.text _) ((braced h').append (.text _))))

theorem pattern (h : List.Forall₂ (Tree.Alike L) ts ts') :
    (Tree.pattern ts).Alike L (.pattern ts') :=
  ⟨.listed (by simp) (items h), rfl, rfl, .none⟩

theorem filter (h : t.Alike L t') : (Tree.filter t).Alike L (.filter t') :=
  ⟨.cons (.text _) h.template, rfl, rfl, .none⟩

theorem assignments {es es' : List (Tree × Tree)}
    (h : List.Forall₂ (fun e e' => e.1.Alike L e'.1 ∧ e.2.Alike L e'.2) es es') :
    (Tree.assignments es).Alike L (.assignments es') := by
  have written : List.Forall₂ (Template.Alike L) (pairs es) (pairs es') := by
    induction h with
    | nil => exact .nil
    | @cons e e' _ _ first _ ih =>
      exact .cons ((first.1.template.append (.text _)).append first.2.template) ih
  exact ⟨.cons (.text _) (Template.Alike.join (by simp [Segment.isName]) written), rfl, rfl, .none⟩

theorem removals (h : List.Forall₂ (Tree.Alike L) ts ts') :
    (Tree.removals ts).Alike L (.removals ts') :=
  ⟨.cons (.text _) (Template.Alike.commas (items h)), rfl, rfl, .none⟩

theorem deletions (detach : Bool) (h : List.Forall₂ (Tree.Alike L) ts ts') :
    (Tree.deletions detach ts).Alike L (.deletions detach ts') :=
  ⟨.cons (.text _) (Template.Alike.commas (items h)), rfl, rfl, .none⟩

theorem projection (kind : ProjectionKind) (distinct : Bool)
    (h : List.Forall₂ (Tree.Alike L) ts ts') (h' : List.Forall₂ (Tree.Alike L) us us')
    {skip skip' limit limit' : Option Param} (skips : Option.Rel (Param.Corresponds L) skip skip')
    (limits : Option.Rel (Param.Corresponds L) limit limit') :
    (Tree.projection kind distinct ts us skip limit).Alike L
      (.projection kind distinct ts' us' skip' limit') := by
  have ordered : Template.Alike L
      (if (Tree.items us).isEmpty then [] else
        .joint :: .text "ORDER BY " :: Template.commas (Tree.items us))
      (if (Tree.items us').isEmpty then [] else
        .joint :: .text "ORDER BY " :: Template.commas (Tree.items us')) := by
    rw [isEmpty_eq_of_forall₂ (items h')]
    split
    · exact .nil
    · exact .cons (.other rfl) (.cons (.text _) (Template.Alike.commas (items h')))
  refine ⟨.cons (.text _) ?_, rfl, rfl, .none⟩
  have columns := Template.Alike.commas (items h)
  have joining : Template.Alike L [.joining] [.joining] := .cons (.other rfl) .nil
  have joined : Template.Alike L [.joined] [.joined] := .cons (.other rfl) .nil
  exact ((((columns.append joining).append ordered).append (.rowCount _ skips)).append
    (.rowCount _ limits)).append joined

theorem patternClause (keyword : String) {path path' : Option Bearer}
    (paths : Option.Rel (Bearer.Alike L) path path') (h : List.Forall₂ (Tree.Alike L) ts ts')
    (h' : List.Forall₂ (Tree.Alike L) us us') :
    (Tree.patternClause keyword path ts us).Alike L (.patternClause keyword path' ts' us') := by
  have front : Template.Alike L ((path.map fun b => [.label b, .text " = "]).getD [])
      ((path'.map fun b => [.label b, .text " = "]).getD []) := by
    cases paths with
    | none => exact .nil
    | some b => exact .cons (.label b) (Template.Alike.text _)
  refine ⟨?_, rfl, rfl, .none⟩
  exact .append (.cons (.text _) (front.append (.commas (items h)))) (.fragments (templates h'))

theorem projectionClause (h : t.Alike L t') (h' : List.Forall₂ (Tree.Alike L) us us') :
    (Tree.projectionClause t us).Alike L (.projectionClause t' us') :=
  ⟨h.template.append (.fragments (templates h')), rfl, rfl, .none⟩

theorem statement (h : List.Forall₂ (Tree.Alike L) ts ts') :
    (Tree.statement ts).Alike L (.statement ts') := by
  have blank : (Tree.statement ts').isBlank = (Tree.statement ts).isBlank := allBlank_eq h
  refine ⟨?_, blank, rfl, ?_⟩
  · have parts := written h
    have last : Template.Alike L [if (Tree.written ts).isEmpty then .blank else .joined]
        [if (Tree.written ts').isEmpty then .blank else .joined] := by
      rw [isEmpty_eq_of_forall₂ parts]
      split
      · exact .cons (.other rfl) .nil
      · exact .cons (.other rfl) .nil
    exact .cons (.other rfl) ((Template.Alike.join (by simp [Segment.isName]) parts).append last)
  · unfold Tree.sole?
    rw [blank]
    split
    · exact .some .blank
    · exact .none

theorem union (keyword : String) (h : List.Forall₂ (Tree.Alike L) ts ts') :
    (Tree.union keyword ts).Alike L (.union keyword ts') := by
  have branches := items h
  refine ⟨?_, rfl, rfl, .none⟩
  unfold Tree.template unionTemplate
  rw [← branches.length_eq]
  exact .cons (.other rfl) (.cons (.other rfl)
    (Template.Alike.listed (by simp [Segment.isName]) branches))

theorem stuck (f : Fault) (h : List.Forall₂ (Tree.Alike L) ts ts') :
    (Tree.stuck ts f).Alike L (.stuck ts' f) :=
  ⟨(Template.Alike.flatten (templates h)).append (.cons (.other rfl) .nil), rfl, rfl, .none⟩

end Tree.Alike

end GraphQuery
