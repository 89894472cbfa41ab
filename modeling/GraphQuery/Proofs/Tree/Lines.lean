import GraphQuery.Proofs.Rendering.Shown
import GraphQuery.Proofs.Tree.Tidiness

/-!
Clauses as lines: keywords, each with what stands behind it.

A clause is written on lines that the separator puts apart. What orders the rows of a projection
stands on lines of its own, directly under the projection.

* `Tree.lines`: the lines of a clause.
* `Tree.shown_lines`: the text of a clause is that of its lines with the separator between them.
-/

namespace GraphQuery

/-- A line of a clause: its keyword, and what stands behind it. -/
structure Line where
  keyword : String
  body : Template

/-- The text of a line under the names of an environment. -/
def Line.shown (e : Environment) (l : Line) : String := l.keyword ++ " " ++ l.body.shown e

namespace Tree

/-- The lines of an ordering. -/
def orderingLines (sortItems : List Template) (skip limit : Option Param) : List Line :=
  (if sortItems.isEmpty then [] else [⟨"ORDER BY", Template.commas sortItems⟩])
    ++ (skip.map fun p => ⟨"SKIP", [.key p]⟩).toList
    ++ (limit.map fun p => ⟨"LIMIT", [.key p]⟩).toList

/-- The lines of a fragment. -/
def fragmentLines : Tree → List Line
  | filter predicate => [⟨"WHERE", predicate.template⟩]
  | assignments entries => [⟨"SET", Template.join [.text ", "] (pairs entries)⟩]
  | removals properties => [⟨"REMOVE", Template.commas (items properties)⟩]
  | deletions detach references =>
    [⟨if detach then "DETACH DELETE" else "DELETE", Template.commas (items references)⟩]
  | projection kind distinct columns sortItems skip limit =>
    ⟨kind.keyword,
      (if distinct then [.text "DISTINCT "] else []) ++ Template.commas (items columns)⟩
      :: orderingLines (items sortItems) skip limit
  | _ => []

/-- The fragments of a clause. The projection that a clause is comes first. -/
def parts : Tree → List Tree
  | patternClause _ _ _ fragments => fragments
  | projectionClause body fragments => body :: fragments
  | _ => []

/-- The lines of a clause. -/
def lines : Tree → List Line
  | patternClause keyword path patterns fragments =>
    ⟨keyword, (path.map fun b => [.label b, .text " = "]).getD [] ++
      Template.commas (items patterns)⟩ :: fragments.flatMap fragmentLines
  | projectionClause body fragments => body.fragmentLines ++ fragments.flatMap fragmentLines
  | _ => []

end Tree

/-- A separator stands in front of each part but the first. -/
theorem intercalate_cons (sep first : String) (others : List String) :
    sep.intercalate (first :: others) = first ++ String.join (others.map (sep ++ ·)) := by
  induction others generalizing first with
  | nil => simp
  | cons s others ih =>
    rw [String.intercalate_cons_cons, ih, List.map_cons, String.join_cons, String.append_assoc,
      String.append_assoc]

variable {e : Environment} {sep : String}

/-- What is written behind a keyword and a blank is a line. -/
theorem Line.shown_eq {keyword written : String} (eq : written = keyword ++ " ")
    (body : Template) :
    Template.shown e (.text written :: body) = Line.shown e ⟨keyword, body⟩ := by
  rw [Template.shown_cons, Segment.shown_text, eq]
  rfl

/-- Some parts come first, and a separator stands in front of each of the others. -/
theorem intercalate_append (sep : String) {first : List String} (nonempty : first ≠ [])
    (others : List String) : sep.intercalate (first ++ others) =
      sep.intercalate first ++ String.join (others.map (sep ++ ·)) := by
  cases first with
  | nil => exact absurd rfl nonempty
  | cons s first =>
    rw [List.cons_append, intercalate_cons, intercalate_cons, List.map_append, String.join_append,
      String.append_assoc]

section Textual

variable (textual : e.IsTextual sep)
include textual

/-- A line of its own stands behind a separator. -/
theorem shown_joint {keyword written : String} (eq : written = keyword ++ " ") (body : Template) :
    Template.shown e (.joint :: .text written :: body) =
      sep ++ Line.shown e ⟨keyword, body⟩ := by
  rw [Template.shown_cons, Segment.shown_joint textual, Line.shown_eq eq]

/-- A row count stands on a line of its own, or there is none. -/
theorem shown_rowCount {keyword written : String} (eq : written = keyword ++ " ")
    (count : Option Param) :
    Template.shown e ((count.map fun p => [.joint, .text written, .key p]).getD []) =
      String.join ((count.map fun p => (⟨keyword, [.key p]⟩ : Line)).toList.map
        fun l => sep ++ l.shown e) := by
  cases count with
  | none => rfl
  | some p =>
    change Template.shown e [.joint, .text written, .key p] = String.join [_]
    rw [shown_joint textual eq, String.join_cons]
    simp

/-- The ordering of a projection stands on lines of its own. -/
theorem shown_ordering (sortItems : List Template) (skip limit : Option Param) :
    Template.shown e ((if sortItems.isEmpty then []
        else .joint :: .text "ORDER BY " :: Template.commas sortItems)
      ++ (skip.map fun p => [.joint, .text "SKIP ", .key p]).getD []
      ++ (limit.map fun p => [.joint, .text "LIMIT ", .key p]).getD []) =
      String.join ((Tree.orderingLines sortItems skip limit).map fun l => sep ++ l.shown e) := by
  have sorted : Template.shown e (if sortItems.isEmpty then []
      else .joint :: .text "ORDER BY " :: Template.commas sortItems) =
        String.join ((if sortItems.isEmpty then []
          else [(⟨"ORDER BY", Template.commas sortItems⟩ : Line)]).map
            fun l => sep ++ l.shown e) := by
    split
    · rfl
    · rw [shown_joint textual (show "ORDER BY " = "ORDER BY" ++ " " by decide)]
      simp
  unfold Tree.orderingLines
  rw [Template.shown_append, Template.shown_append, sorted,
    shown_rowCount textual (show "SKIP " = "SKIP" ++ " " by decide),
    shown_rowCount textual (show "LIMIT " = "LIMIT" ++ " " by decide), List.map_append,
    List.map_append,
    String.join_append, String.join_append]

namespace Tree

/-- A projection is written as its lines. -/
theorem shown_projection (kind : ProjectionKind) (distinct : Bool) (columns sortItems : List Tree)
    (skip limit : Option Param) :
    (projection kind distinct columns sortItems skip limit).template.shown e =
      sep.intercalate ((projection kind distinct columns sortItems skip limit).fragmentLines.map
        (Line.shown e)) := by
  have first : Template.shown e (.text (kind.keyword ++ (if distinct then " DISTINCT" else "")
      ++ " ") :: Template.commas (items columns)) = Line.shown e ⟨kind.keyword,
        (if distinct then [.text "DISTINCT "] else []) ++ Template.commas (items columns)⟩ := by
    cases distinct with
    | false => simp [Line.shown]
    | true =>
      have words : kind.keyword ++ " DISTINCT" ++ " " = kind.keyword ++ " " ++ "DISTINCT " := by
        cases kind <;> decide
      rw [if_pos rfl, if_pos rfl, Template.shown_cons, Segment.shown_text, words]
      simp [Line.shown, String.append_assoc, -String.reduceAppend]
  have ordering := shown_ordering textual (items sortItems) skip limit
  rw [fragmentLines, List.map_cons, intercalate_cons, List.map_map, ← first]
  change _ = _ ++ String.join ((orderingLines (items sortItems) skip limit).map
    fun l => sep ++ l.shown e)
  rw [← ordering, template, projectionTemplate]
  simp only [Template.shown_append, Template.shown_cons, Template.shown_nil, String.append_empty,
    Segment.shown_silent textual (show Segment.isSilent .joining from rfl),
    Segment.shown_silent textual (show Segment.isSilent .joined from rfl), String.append_assoc,
    List.cons_append]

/-- A fragment is written as its lines. -/
theorem shown_fragmentLines {t : Tree} (isFragment : t.fragmentLines ≠ []) :
    t.template.shown e = sep.intercalate (t.fragmentLines.map (Line.shown e)) := by
  cases t with
  | filter predicate =>
    simp only [fragmentLines, List.map_cons, List.map_nil, String.intercalate_singleton]
    exact Line.shown_eq (by decide) _
  | assignments entries =>
    simp only [fragmentLines, List.map_cons, List.map_nil, String.intercalate_singleton]
    exact Line.shown_eq (by decide) _
  | removals properties =>
    simp only [fragmentLines, List.map_cons, List.map_nil, String.intercalate_singleton]
    exact Line.shown_eq (by decide) _
  | deletions detach references =>
    simp only [fragmentLines, List.map_cons, List.map_nil, String.intercalate_singleton]
    exact Line.shown_eq (by cases detach <;> decide) _
  | projection kind distinct columns sortItems skip limit =>
    exact shown_projection textual kind distinct columns sortItems skip limit
  | _ => exact absurd rfl isFragment

/-- Fragments are written as their lines, each behind a separator. -/
theorem shown_fragments {fragments : List Tree}
    (areFragments : ∀ t ∈ fragments, t.fragmentLines ≠ []) :
    Template.shown e ((templates fragments).map fragmentTemplate).flatten =
      String.join ((fragments.flatMap fragmentLines).map fun l => sep ++ l.shown e) := by
  induction fragments with
  | nil => rfl
  | cons t fragments ih =>
    obtain ⟨first, others⟩ := List.forall_mem_cons.mp areFragments
    have line : Template.shown e (fragmentTemplate t.template) =
        String.join (t.fragmentLines.map fun l => sep ++ l.shown e) := by
      have shown := shown_fragmentLines textual first
      cases lines : t.fragmentLines with
      | nil => exact absurd lines first
      | cons l ls =>
        rw [lines, List.map_cons, intercalate_cons, List.map_map] at shown
        rw [fragmentTemplate, List.cons_append, Template.shown_cons, Template.shown_append, shown,
          Template.shown_cons, Segment.shown_separator textual,
          Segment.shown_silent textual (show Segment.isSilent .formed from rfl), List.map_cons,
          String.join_cons]
        simp [String.append_assoc, Function.comp_def]
    rw [templates, List.map_cons, List.flatten_cons, Template.shown_append, line, ih others,
      List.flatMap_cons, List.map_append, String.join_append]

/-- A clause is written as its lines, with the separator between them. -/
theorem shown_lines {t : Tree} (isClause : t.lines ≠ [])
    (areFragments : ∀ u ∈ t.parts, u.fragmentLines ≠ []) :
    t.template.shown e = sep.intercalate (t.lines.map (Line.shown e)) := by
  cases t with
  | patternClause keyword path patterns fragments =>
    change ∀ u ∈ fragments, u.fragmentLines ≠ [] at areFragments
    have first : Template.shown e (patternsTemplate keyword path (items patterns)) =
        Line.shown e ⟨keyword, (path.map fun b => [.label b, .text " = "]).getD [] ++
          Template.commas (items patterns)⟩ := by
      rw [patternsTemplate, List.cons_append, Line.shown_eq rfl]
    rw [template, Template.shown_append, first, shown_fragments textual areFragments, lines,
      List.map_cons, intercalate_cons, List.map_map]
    rfl
  | projectionClause body fragments =>
    obtain ⟨isFragment, areFragments⟩ := List.forall_mem_cons.mp areFragments
    have nonempty : body.fragmentLines.map (Line.shown e) ≠ [] := by simpa using isFragment
    rw [template, Template.shown_append, shown_fragmentLines textual isFragment,
      shown_fragments textual areFragments, lines, List.map_append, intercalate_append sep nonempty,
      List.map_map]
    rfl
  | _ => exact absurd rfl isClause

end Tree

end Textual

end GraphQuery
