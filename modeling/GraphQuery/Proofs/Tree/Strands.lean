import GraphQuery.Proofs.Tree.Query

/-!
What stands in the text of a query from one end to the other.

A query is a row of clauses with something between them: the separator between two parts of a
statement, the keyword between two branches of a union. A statement leaves out its parts without
text, but a union writes its keyword whatever its branches come to. So it is the unions that can
spoil the row: a branch without clauses leaves a keyword at an end of the text, or next to another
one.

* `Strand`: a clause, a separator, or a keyword. `Strand.alternate`: clauses stand at both ends of a
  row, and between any two of them there is one thing that joins them.
* `Tree.strands`: the strands of a query. `Tree.shown_strands`: its text is what they come to.
* `Tree.keyword_mem_statement`, `Tree.keyword_mem_union`: the keywords in a query.
* `Tree.isNeat_statement_iff`, `Tree.isNeat_union_iff`: when its strands alternate.
-/

namespace GraphQuery

/-! ### Strands -/

/-- What stands in the text of a query: a clause, the separator between two parts of a statement, or
the keyword between two branches of a union. -/
inductive Strand where
  | clause (t : Tree)
  | joint
  | keyword (word : String)

namespace Strand

/-- The strand is a clause. The others join what stands on either side of them. -/
def isClause : Strand → Bool
  | clause _ => true
  | _ => false

/-- The text of a strand. A keyword is put apart from both sides. -/
def shown (e : Environment) (sep : String) : Strand → String
  | clause t => t.template.shown e
  | joint => sep
  | keyword word => sep ++ word ++ sep

/-- Clauses stand at both ends, and there is one thing that joins them between any two. -/
def alternate : List Strand → Bool
  | [] => false
  | [s] => s.isClause
  | s :: j :: rest => s.isClause && !j.isClause && alternate rest

/-- The text of strands, one after another. -/
def text (e : Environment) (sep : String) (strands : List Strand) : String :=
  String.join (strands.map (shown e sep))

variable {j : Strand}

/-- What is joined alternates just in case either side does. -/
theorem alternate_append (joins : j.isClause = false) (l r : List Strand) :
    alternate (l ++ j :: r) = (alternate l && alternate r) := by
  induction l using alternate.induct with
  | case1 =>
    cases r with
    | nil => exact joins
    | cons s r => simp [alternate, joins]
  | case2 s => simp [alternate, joins]
  | case3 s i l ih => simp [alternate, ih, Bool.and_assoc]

/-- Rows with the same thing between them alternate just in case all of them do. -/
theorem alternate_intercalate (joins : j.isClause = false) {rows : List (List Strand)}
    (some : rows ≠ []) : alternate ([j].intercalate rows) = rows.all alternate := by
  induction rows with
  | nil => exact absurd rfl some
  | cons row rows ih =>
    cases rows with
    | nil => simp
    | cons next rows =>
      rw [List.intercalate_cons_cons, List.append_assoc, List.singleton_append,
        alternate_append joins, ih (List.cons_ne_nil next rows)]
      rfl

/-- In rows with the same thing between them there is that, if there are several, and what is in one
of them. -/
theorem mem_intercalate {s : Strand} {rows : List (List Strand)} :
    s ∈ [j].intercalate rows ↔ (s = j ∧ 2 ≤ rows.length) ∨ ∃ row ∈ rows, s ∈ row := by
  induction rows with
  | nil => simp
  | cons row rows ih =>
    cases rows with
    | nil => simp
    | cons next rows =>
      rw [List.intercalate_cons_cons, List.mem_append, List.mem_append, ih]
      simp only [List.mem_singleton, List.length_cons, List.exists_mem_cons_iff]
      have several : 2 ≤ rows.length + 1 + 1 := by omega
      tauto

/-- The text of rows with the same thing between them. -/
theorem text_intercalate (e : Environment) (sep : String) (rows : List (List Strand)) :
    text e sep ([j].intercalate rows) = (j.shown e sep).intercalate (rows.map (text e sep)) := by
  induction rows with
  | nil => rfl
  | cons row rows ih =>
    cases rows with
    | nil => simp
    | cons next rows =>
      rw [List.intercalate_cons_cons, List.map_cons, List.map_cons, String.intercalate_cons_cons,
        ← List.map_cons, ← ih]
      simp [text, String.join_append, String.append_assoc]

end Strand

namespace Tree

open Strand (alternate alternate_intercalate mem_intercalate text text_intercalate)

mutual

/-- What stands in the text of a query. -/
def strands : Tree → List Strand
  | statement parts => [.joint].intercalate ((allStrands parts).filter fun row => !row.isEmpty)
  | union keyword branches => [.keyword keyword].intercalate (allStrands branches)
  | t => [.clause t]

/-- What stands in the texts of queries. -/
def allStrands : List Tree → List (List Strand)
  | [] => []
  | t :: rest => t.strands :: allStrands rest

end

theorem allStrands_eq (ts : List Tree) : allStrands ts = ts.map strands := by
  induction ts with
  | nil => rfl
  | cons t ts ih => rw [allStrands, ih, List.map_cons]

/-- A row of strands is in a statement if it is that of a part, and there is something in it. -/
theorem mem_rows_iff {parts : List Tree} {row : List Strand} :
    row ∈ (allStrands parts).filter (fun row => !row.isEmpty) ↔
      ∃ t ∈ parts, t.strands = row ∧ row ≠ [] := by
  rw [allStrands_eq, List.mem_filter, List.mem_map]
  simp only [Bool.not_eq_true', List.isEmpty_eq_false_iff]
  tauto

/-- The strands of a statement are those of its parts and separators. -/
theorem mem_strands_statement {parts : List Tree} {s : Strand} (other : s ≠ .joint) :
    s ∈ (statement parts).strands ↔ ∃ t ∈ parts, s ∈ t.strands := by
  rw [strands, mem_intercalate]
  simp only [other, false_and, false_or, mem_rows_iff]
  constructor
  · rintro ⟨_, ⟨t, mem, rfl, -⟩, inside⟩
    exact ⟨t, mem, inside⟩
  · rintro ⟨t, mem, inside⟩
    exact ⟨t.strands, ⟨t, mem, rfl, List.ne_nil_of_mem inside⟩, inside⟩

/-- The strands of a union are those of its branches and its keyword. -/
theorem mem_strands_union {keyword : String} {branches : List Tree}
    (several : 2 ≤ branches.length) {s : Strand} :
    s ∈ (union keyword branches).strands ↔ s = .keyword keyword ∨ ∃ t ∈ branches, s ∈ t.strands := by
  rw [strands, mem_intercalate, allStrands_eq, List.length_map]
  simp [several]

/-- The strands of a union are never none: its keyword is there. -/
theorem strands_union_ne_nil {keyword : String} {branches : List Tree}
    (several : 2 ≤ branches.length) : (union keyword branches).strands ≠ [] :=
  List.ne_nil_of_mem ((mem_strands_union several).mpr (.inl rfl))

/-- A statement has no strands just in case none of its parts has any. -/
theorem strands_statement_eq_nil_iff {parts : List Tree} :
    (statement parts).strands = [] ↔ ∀ t ∈ parts, t.strands = [] := by
  constructor
  · intro empty t mem
    by_contra some
    have row := mem_rows_iff.mpr ⟨t, mem, rfl, some⟩
    obtain ⟨s, inside⟩ := List.exists_mem_of_ne_nil _ some
    have found : s ∈ (statement parts).strands := mem_intercalate.mpr (.inr ⟨_, row, inside⟩)
    rw [empty] at found
    cases found
  · intro empty
    have rows : (allStrands parts).filter (fun row => !row.isEmpty) = [] := by
      refine List.eq_nil_iff_forall_not_mem.mpr fun row mem => ?_
      obtain ⟨t, part, rfl, some⟩ := mem_rows_iff.mp mem
      exact some (empty t part)
    rw [strands, rows]
    rfl

/-- A query has strands just in case there is a clause or a union in it. -/
theorem strands_eq_nil_iff {t : Tree} (query : t.isQuery = true) :
    t.strands = [] ↔ t.leaves = [] := by
  induction t, query using isQuery_induction with
  | leaf t leaf =>
    rw [leaves_of_isLeaf leaf]
    refine iff_of_false ?_ (List.cons_ne_nil t [])
    cases t with
    | union keyword branches =>
      simp only [isLeaf, isQuery, Bool.and_eq_true, decide_eq_true_eq] at leaf
      exact strands_union_ne_nil leaf.1.2
    | statement | given => cases leaf
    | _ => exact List.cons_ne_nil _ []
  | nested ts _ ih =>
    rw [strands_statement_eq_nil_iff, leaves, allLeaves_eq, List.flatMap_eq_nil_iff]
    exact forall₂_congr ih

/-! ### Texts -/

/-- The rows of strands in a statement are those of the parts that have a text. -/
theorem rows_eq {parts : List Tree} (queries : ∀ t ∈ parts, t.isQuery = true) :
    (allStrands parts).filter (fun row => !row.isEmpty) =
      (parts.filter fun t => !t.isBlank).map strands := by
  have same : ∀ t ∈ parts, (!t.isBlank) = !t.strands.isEmpty := by
    intro t mem
    have query := queries t mem
    rw [Bool.eq_iff_iff, Bool.not_eq_true', Bool.not_eq_true', ← Bool.not_eq_true,
      isBlank_iff query, ← strands_eq_nil_iff query, List.isEmpty_eq_false_iff]
  rw [allStrands_eq, List.filter_map, List.filter_congr same]
  rfl

section Textual

variable {e : Environment} {sep : String} (textual : e.IsTextual sep)
include textual

/-- What is shown of a statement are its parts that have a text. -/
theorem shown_statement (parts : List Tree) :
    (statement parts).template.shown e =
      sep.intercalate ((parts.filter fun t => !t.isBlank).map fun t => t.template.shown e) := by
  have silent : ∀ segment : Segment, segment.isSilent = true → segment.shown e = "" :=
    fun segment => Segment.shown_silent textual
  have last : ∀ ts : List Template,
      (if ts.isEmpty then Segment.blank else .joined).shown e = "" := by
    intro ts
    split <;> exact silent _ rfl
  simp only [template, statementTemplate, List.cons_append, Template.shown_cons,
    Template.shown_append, Template.shown_nil, Template.shown_join, Segment.shown_joint textual,
    silent .joining rfl, last, String.empty_append, String.append_empty, written_eq,
    List.map_map, Function.comp_def]

/-- What is shown of a statement is the text of its strands if it is so for its parts. -/
theorem shown_strands_statement {parts : List Tree} (queries : ∀ t ∈ parts, t.isQuery = true)
    (shown : ∀ t ∈ parts, t.template.shown e = text e sep t.strands) :
    (statement parts).template.shown e = text e sep (statement parts).strands := by
  rw [shown_statement textual, strands, text_intercalate, rows_eq queries, List.map_map]
  exact congrArg _ (List.map_congr_left fun t mem => shown t (List.mem_filter.mp mem).1)

/-- What is shown of a union is the text of its strands if it is so for its branches. -/
theorem shown_strands_union (keyword : String) {branches : List Tree}
    (queries : ∀ t ∈ branches, t.isQuery = true)
    (shown : ∀ t ∈ branches, t.template.shown e = text e sep t.strands) :
    (union keyword branches).template.shown e = text e sep (union keyword branches).strands := by
  rw [shown_union textual keyword queries, strands, text_intercalate, allStrands_eq, List.map_map]
  exact congrArg _ (List.map_congr_left shown)

end Textual

/-! ### Rows in which strands alternate -/

/-- The strands of a tree alternate, if there are any. -/
def IsNeat (t : Tree) : Prop := t.strands = [] ∨ alternate t.strands = true

/-- There is nothing in what does not alternate. -/
theorem strands_ne_nil_of_alternate {t : Tree} (alternates : alternate t.strands = true) :
    t.strands ≠ [] := by
  intro empty
  rw [empty] at alternates
  cases alternates

/-- A statement is as neat as its parts. -/
theorem isNeat_statement_iff {parts : List Tree} :
    (statement parts).IsNeat ↔ ∀ t ∈ parts, t.IsNeat := by
  unfold IsNeat
  by_cases empty : ∀ t ∈ parts, t.strands = []
  · exact iff_of_true (.inl (strands_statement_eq_nil_iff.mpr empty)) fun t mem => .inl (empty t mem)
  have some : (statement parts).strands ≠ [] := strands_statement_eq_nil_iff.not.mpr empty
  have rows : (allStrands parts).filter (fun row => !row.isEmpty) ≠ [] := by
    intro none
    rw [strands, none] at some
    exact some rfl
  rw [or_iff_right some, strands, alternate_intercalate rfl rows, List.all_eq_true]
  constructor
  · intro alternates t mem
    refine or_iff_not_imp_left.mpr fun some => ?_
    exact alternates _ (mem_rows_iff.mpr ⟨t, mem, rfl, some⟩)
  · intro neat row mem
    obtain ⟨t, part, rfl, some⟩ := mem_rows_iff.mp mem
    exact (neat t part).resolve_left some

/-- A union is neat just in case its branches are and none of them is without strands. -/
theorem isNeat_union_iff {keyword : String} {branches : List Tree} (several : 2 ≤ branches.length) :
    (union keyword branches).IsNeat ↔ ∀ t ∈ branches, t.strands ≠ [] ∧ t.IsNeat := by
  have rows : branches.map strands ≠ [] := by
    rintro none
    rw [List.map_eq_nil_iff.mp none] at several
    cases several
  unfold IsNeat
  rw [or_iff_right (strands_union_ne_nil several), strands, allStrands_eq,
    alternate_intercalate rfl rows, List.all_map, List.all_eq_true]
  refine forall₂_congr fun t _ => ⟨fun alternates => ?_, fun neat => neat.2.resolve_left neat.1⟩
  exact ⟨strands_ne_nil_of_alternate alternates, .inr alternates⟩

end Tree

end GraphQuery
