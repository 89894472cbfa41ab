import GraphQuery.Proofs.Tree.Likeness

/-!
Trees that are one and the same up to the identities in them.

Two trees match when they are made in the same way, out of references and parameters that stand in
the places of each other. References that do are of one class, with the same labels, type and
suggested stem; parameters have the same suggested stem and values in the places of each other. The
identities are related one to one, so what is shared in one tree is shared in the other.

* `Tree.Matches`: the relation, constructor by constructor.
* `Tree.Matches.alike`: trees that match are alike, so they are written in the same way.
-/

namespace GraphQuery

section Matches

variable (L : Likeness)

/-- Two references are the same but for who they are. -/
structure Reference.Matches (r r' : Reference) : Prop where
  owner : L.owner r.id r'.id
  stem_eq : r'.stem = r.stem
  is_eq : r'.is = r.is

/-- Two bearers of labels are the same but for who they are. -/
inductive Bearer.Matches : Bearer → Bearer → Prop where
  | reference {r r' : Reference} : r.Matches L r' → Matches (.reference r) (.reference r')
  | param {p p' : Param} : p.Corresponds L p' → Matches (.param p) (.param p')

/-- Two names of columns match. -/
inductive Alias.Matches : Alias → Alias → Prop where
  | bearer {b b' : Bearer} : b.Matches L b' → Matches (.bearer b) (.bearer b')
  | name {n : Name} : Matches (.name n) (.name n)

/-- Trees under one name. -/
inductive Tree.Named (R : Tree → Tree → Prop) : Name × Tree → Name × Tree → Prop where
  | mk {n : Name} {t t' : Tree} : R t t' → Named R (n, t) (n, t')

/-- Pairs of trees. -/
inductive Tree.Paired (R : Tree → Tree → Prop) : Tree × Tree → Tree × Tree → Prop where
  | mk {t t' u u' : Tree} : R t t' → R u u' → Paired R (t, u) (t', u')

/-- Two trees are the same but for the identities in them. -/
inductive Tree.Matches : Tree → Tree → Prop where
  | label {b b' : Bearer} : b.Matches L b' → Matches (.label b) (.label b')
  | key {p p' : Param} : p.Corresponds L p' → Matches (.key p) (.key p')
  | property {t t' : Tree} {path : List Name} : Matches t t' →
      Matches (.property t path) (.property t' path)
  | comparison {operator : String} {t t' u u' : Tree} : Matches t t' → Matches u u' →
      Matches (.comparison operator t u) (.comparison operator t' u')
  | check {operator : String} {t t' : Tree} : Matches t t' →
      Matches (.check operator t) (.check operator t')
  | junction {operator : String} {ts ts' : List Tree} : List.Forall₂ Matches ts ts' →
      Matches (.junction operator ts) (.junction operator ts')
  | negation {t t' : Tree} : Matches t t' → Matches (.negation t) (.negation t')
  | call {name : String} {ts ts' : List Tree} : List.Forall₂ Matches ts ts' →
      Matches (.call name ts) (.call name ts')
  | star : Matches .star .star
  | column {t t' : Tree} : Matches t t' → Matches (.column t) (.column t')
  | aliased {t t' : Tree} {a a' : Alias} : Matches t t' → a.Matches L a' →
      Matches (.aliased t a) (.aliased t' a')
  | sorted {t t' : Tree} {order : String} : Matches t t' →
      Matches (.sorted t order) (.sorted t' order)
  | node {b b' : Bearer} {labels : List Name} {ps ps' : List (Name × Tree)} : b.Matches L b' →
      List.Forall₂ (Tree.Named Matches) ps ps' →
      Matches (.node b labels ps) (.node b' labels ps')
  | relationship {b b' : Bearer} {type : Option Name} {ps ps' : List (Name × Tree)}
      {d : Direction} : b.Matches L b' → List.Forall₂ (Tree.Named Matches) ps ps' →
      Matches (.relationship b type ps d) (.relationship b' type ps' d)
  | pattern {ts ts' : List Tree} : List.Forall₂ Matches ts ts' →
      Matches (.pattern ts) (.pattern ts')
  | filter {t t' : Tree} : Matches t t' → Matches (.filter t) (.filter t')
  | assignments {es es' : List (Tree × Tree)} : List.Forall₂ (Tree.Paired Matches) es es' →
      Matches (.assignments es) (.assignments es')
  | removals {ts ts' : List Tree} : List.Forall₂ Matches ts ts' →
      Matches (.removals ts) (.removals ts')
  | deletions {detach : Bool} {ts ts' : List Tree} : List.Forall₂ Matches ts ts' →
      Matches (.deletions detach ts) (.deletions detach ts')
  | projection {kind : ProjectionKind} {distinct : Bool} {ts ts' us us' : List Tree}
      {skip skip' limit limit' : Option Param} : List.Forall₂ Matches ts ts' →
      List.Forall₂ Matches us us' → Option.Rel (Param.Corresponds L) skip skip' →
      Option.Rel (Param.Corresponds L) limit limit' →
      Matches (.projection kind distinct ts us skip limit)
        (.projection kind distinct ts' us' skip' limit')
  | patternClause {keyword : String} {path path' : Option Bearer} {ts ts' us us' : List Tree} :
      Option.Rel (Bearer.Matches L) path path' → List.Forall₂ Matches ts ts' →
      List.Forall₂ Matches us us' →
      Matches (.patternClause keyword path ts us) (.patternClause keyword path' ts' us')
  | projectionClause {t t' : Tree} {us us' : List Tree} : Matches t t' →
      List.Forall₂ Matches us us' → Matches (.projectionClause t us) (.projectionClause t' us')
  | statement {ts ts' : List Tree} : List.Forall₂ Matches ts ts' →
      Matches (.statement ts) (.statement ts')
  | union {keyword : String} {ts ts' : List Tree} : List.Forall₂ Matches ts ts' →
      Matches (.union keyword ts) (.union keyword ts')
  | given {t t' : Template} : t.Alike L t' → Matches (.given t) (.given t')
  | stuck {ts ts' : List Tree} {f : Fault} : List.Forall₂ Matches ts ts' →
      Matches (.stuck ts f) (.stuck ts' f)

end Matches

variable {L : Likeness}

theorem Bearer.Matches.alike {b b' : Bearer} (h : b.Matches L b') : b.Alike L b' := by
  cases h with
  | reference h => exact ⟨h.owner, h.stem_eq, by simp [Bearer.kind, Reference.kind, h.is_eq]⟩
  | param h => exact ⟨h.owner, h.stem_eq, rfl⟩

theorem Bearer.Matches.alike_option {b? b?' : Option Bearer}
    (h : Option.Rel (Bearer.Matches L) b? b?') : Option.Rel (Bearer.Alike L) b? b?' := by
  cases h with
  | none => exact .none
  | some b => exact .some b.alike

/-- Trees of no shape of their own are alike if their templates are. -/
theorem Tree.Alike.given {t t' : Template} (h : t.Alike L t') :
    (Tree.given t).Alike L (.given t') := by
  refine ⟨h, isEmpty_eq_of_forall₂ h, rfl, ?_⟩
  cases h with
  | nil => exact .some .blank
  | cons _ _ => exact .none

theorem Tree.Alike.aliasedAs {t t' : Tree} (h : t.Alike L t') {a a' : Alias}
    (h' : a.Matches L a') : (Tree.aliased t a).Alike L (.aliased t' a') := by
  cases h' with
  | bearer b => exact .aliasedBearer h b.alike
  | name => exact .aliased h _

mutual

/-- Trees that match are alike. -/
theorem Tree.Matches.alike {t t' : Tree} : Tree.Matches L t t' → t.Alike L t'
  | .label b => .label b.alike
  | .key p => .key p
  | .property t => .property t.alike _
  | .comparison t u => .comparison _ t.alike u.alike
  | .check t => .check _ t.alike
  | .junction ts => .junction _ (alike_list ts)
  | .negation t => .negation t.alike
  | .call ts => .call _ (alike_list ts)
  | .star => .star
  | .column t => .column t.alike
  | .aliased t a => .aliasedAs t.alike a
  | .sorted t => .sorted t.alike _
  | .node b ps => .node b.alike _ (alike_named ps)
  | .relationship b ps => .relationship b.alike _ (alike_named ps) _
  | .pattern ts => .pattern (alike_list ts)
  | .filter t => .filter t.alike
  | .assignments es => .assignments (alike_paired es)
  | .removals ts => .removals (alike_list ts)
  | .deletions ts => .deletions _ (alike_list ts)
  | .projection ts us skip limit => .projection _ _ (alike_list ts) (alike_list us) skip limit
  | .patternClause path ts us =>
    .patternClause _ (Bearer.Matches.alike_option path) (alike_list ts) (alike_list us)
  | .projectionClause t us => .projectionClause t.alike (alike_list us)
  | .statement ts => .statement (alike_list ts)
  | .union ts => .union _ (alike_list ts)
  | .given t => .given t
  | .stuck ts => .stuck _ (alike_list ts)

/-- Lists of trees that match are lists of like trees. -/
theorem Tree.Matches.alike_list {ts ts' : List Tree} :
    List.Forall₂ (Tree.Matches L) ts ts' → List.Forall₂ (Tree.Alike L) ts ts'
  | .nil => .nil
  | .cons t ts => .cons t.alike (alike_list ts)

/-- The same for trees under names. -/
theorem Tree.Matches.alike_named {ps ps' : List (Name × Tree)} :
    List.Forall₂ (Tree.Named (Tree.Matches L)) ps ps' → Tree.Alike.Properties L ps ps'
  | .nil => .nil
  | .cons (.mk t) ps => .cons ⟨rfl, t.alike⟩ (alike_named ps)

/-- The same for pairs of trees. -/
theorem Tree.Matches.alike_paired {es es' : List (Tree × Tree)} :
    List.Forall₂ (Tree.Paired (Tree.Matches L)) es es' →
      List.Forall₂ (fun e e' => e.1.Alike L e'.1 ∧ e.2.Alike L e'.2) es es'
  | .nil => .nil
  | .cons (.mk t u) es => .cons ⟨t.alike, u.alike⟩ (alike_paired es)

end

end GraphQuery
