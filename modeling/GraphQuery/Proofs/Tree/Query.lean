import GraphQuery.Proofs.Rendering.Parts

/-!
Queries, and the clauses and unions that they consist of.

A statement is nothing but the sequence of its parts. If its parts are statements as well then they
can be opened, and what is left in the end are clauses and unions, which always have a text. So the
empty statements are the only queries without a text, and a query is written as its clauses and
unions with the separator between them, however they are nested.

* `Tree.isQuery`: the tree is a clause, a statement or a union.
* `Tree.leaves`: the clauses and unions of a query, from left to right.
* `Tree.unchecked_template`: the template of a query, put together from those of its leaves.
* `Tree.shown_union`, `Tree.shown_of_isQuery`: the texts of unions and of queries.
* `Tree.shown_statement_append`: the text of a statement with a further part.
-/

namespace GraphQuery

/-- Two texts, with a separator between them if both of them are there. -/
def Text.separated (sep before behind : String) : String :=
  if before = "" then behind else if behind = "" then before else before ++ sep ++ behind

/-! ### Templates with words -/

namespace Template

/-- There is a word of the query in the template. -/
def HasWord (t : Template) : Prop := ∃ word, word ≠ "" ∧ .text word ∈ t

variable {t : Template} {pen : Pen Environment}

/-- A word of the query is shown. -/
theorem HasWord.shown_ne_empty (h : t.HasWord) (e : Environment) : t.shown e ≠ "" := by
  obtain ⟨word, something, mem⟩ := h
  obtain ⟨before, behind, rfl⟩ := List.append_of_mem mem
  intro empty
  rw [shown_append, shown_cons, Segment.shown_text, String.append_eq_empty_iff,
    String.append_eq_empty_iff] at empty
  exact something empty.2.1

/-- A word of the query is written. -/
theorem mem_pieces_of_text (ok : (t.fill pen).fault? = none) {word : String}
    (mem : .text word ∈ t) : .text word ∈ (t.fill pen).pieces := by
  induction t generalizing pen with
  | nil => cases mem
  | cons segment rest ih =>
    obtain ⟨-, others, -, pieces⟩ := fill_cons_of_ok ok
    rw [pieces, List.mem_append]
    rcases List.mem_cons.mp mem with rfl | mem
    · exact .inl (List.mem_singleton_self _)
    · exact .inr (ih others mem)

/-- What has a word of the query in it is answered as a text. -/
theorem HasWord.value_eq (h : t.HasWord) (ok : (t.fill pen).fault? = none) :
    (t.fill pen).value = .text (t.fill pen).text := by
  obtain ⟨word, -, mem⟩ := h
  have written := mem_pieces_of_text ok mem
  unfold Writing.value
  split
  · rename_i pieces
    rw [pieces] at written
    cases List.mem_singleton.mp written
  · rename_i pieces
    rw [pieces] at written
    cases List.mem_singleton.mp written
  · rfl

end Template

namespace Tree

/-! ### Queries -/

mutual

/-- The tree is a clause, a statement of queries, or a union of several queries. -/
def isQuery : Tree → Bool
  | patternClause .. | projectionClause (projection ..) _ => true
  | statement parts => allQueries parts
  | union keyword branches =>
    !keyword.isEmpty && decide (2 ≤ branches.length) && allQueries branches
  | _ => false

/-- All trees are queries. -/
def allQueries : List Tree → Bool
  | [] => true
  | t :: rest => t.isQuery && allQueries rest

end

theorem allQueries_iff (ts : List Tree) : allQueries ts = true ↔ ∀ t ∈ ts, t.isQuery = true := by
  induction ts with
  | nil => simp [allQueries]
  | cons t ts ih => simp [allQueries, ih]

/-- A query is no statement. -/
def isLeaf : Tree → Bool
  | statement _ => false
  | t => t.isQuery

mutual

/-- The clauses and unions of a query, with all statements opened. -/
def leaves : Tree → List Tree
  | statement parts => allLeaves parts
  | t => [t]

/-- The clauses and unions of queries, one query after another. -/
def allLeaves : List Tree → List Tree
  | [] => []
  | t :: rest => t.leaves ++ allLeaves rest

end

theorem allLeaves_eq (ts : List Tree) : allLeaves ts = ts.flatMap leaves := by
  induction ts with
  | nil => rfl
  | cons t ts ih => rw [allLeaves, List.flatMap_cons, ih]

theorem isQuery_of_isLeaf {t : Tree} (leaf : t.isLeaf = true) : t.isQuery = true := by
  cases t with
  | statement ts => cases leaf
  | _ => exact leaf

theorem leaves_of_isLeaf {t : Tree} (leaf : t.isLeaf = true) : t.leaves = [t] := by
  cases t with
  | statement ts => cases leaf
  | _ => rfl

theorem isBlank_of_isLeaf {t : Tree} (leaf : t.isLeaf = true) : t.isBlank = false := by
  cases t with
  | statement ts => cases leaf
  | given t => cases leaf
  | _ => rfl

/-- A query that is neither a clause nor a union is a statement. -/
theorem exists_of_not_isLeaf {t : Tree} (query : t.isQuery = true) (other : ¬ t.isLeaf = true) :
    ∃ ts, t = statement ts := by
  cases t with
  | statement ts => exact ⟨ts, rfl⟩
  | _ => exact absurd query other

/-- What holds of clauses and unions, and of a statement if it holds of its parts, holds of all
queries. -/
theorem isQuery_induction {P : (t : Tree) → t.isQuery = true → Prop}
    (leaf : ∀ t, (leaf : t.isLeaf = true) → P t (isQuery_of_isLeaf leaf))
    (nested : ∀ ts, (queries : ∀ t ∈ ts, t.isQuery = true) →
      (∀ t mem, P t (queries t mem)) → P (statement ts) ((allQueries_iff ts).mpr queries))
    (t : Tree) (query : t.isQuery = true) : P t query := by
  by_cases isLeaf : t.isLeaf = true
  · exact leaf t isLeaf
  · obtain ⟨ts, eq⟩ := exists_of_not_isLeaf query isLeaf
    have queries : ∀ u ∈ ts, u.isQuery = true := by
      rw [eq] at query
      exact (allQueries_iff ts).mp query
    have parts : ∀ u, (mem : u ∈ ts) → P u (queries u mem) := by
      intro u mem
      have smaller : sizeOf u < sizeOf t := by
        have lt := List.sizeOf_lt_of_mem mem
        rw [eq, statement.sizeOf_spec]
        omega
      exact isQuery_induction leaf nested u (queries u mem)
    subst eq
    exact nested ts queries parts
termination_by sizeOf t

/-- What is left of a query are leaves. -/
theorem isLeaf_of_mem_leaves {t : Tree} (query : t.isQuery = true) :
    ∀ l ∈ t.leaves, l.isLeaf = true := by
  induction t, query using isQuery_induction with
  | leaf t leaf =>
    intro l mem
    rw [leaves_of_isLeaf leaf, List.mem_singleton] at mem
    rwa [mem]
  | nested ts _ ih =>
    intro l mem
    rw [leaves, allLeaves_eq, List.mem_flatMap] at mem
    obtain ⟨t, t_mem, mem⟩ := mem
    exact ih t t_mem l mem

theorem allBlank_iff (ts : List Tree) : allBlank ts = true ↔ ∀ t ∈ ts, t.isBlank = true := by
  induction ts with
  | nil => simp [allBlank]
  | cons t ts ih => simp [allBlank, ih]

/-- A query has no text just in case there is neither a clause nor a union in it. -/
theorem isBlank_iff {t : Tree} (query : t.isQuery = true) : t.isBlank = true ↔ t.leaves = [] := by
  induction t, query using isQuery_induction with
  | leaf t leaf => simp [isBlank_of_isLeaf leaf, leaves_of_isLeaf leaf]
  | nested ts _ ih =>
    rw [isBlank, allBlank_iff, leaves, allLeaves_eq, List.flatMap_eq_nil_iff]
    exact forall₂_congr ih

/-- The parts of a statement that have a text. -/
theorem written_eq (ts : List Tree) :
    written ts = (ts.filter fun t => !t.isBlank).map template := by
  induction ts with
  | nil => rfl
  | cons t ts ih =>
    rw [written, List.filter_cons, ih]
    cases t.isBlank <;> rfl

/-- What is left of queries is left of those that have a text. -/
theorem flatMap_leaves_filter {ts : List Tree} (queries : ∀ t ∈ ts, t.isQuery = true) :
    (ts.filter fun t => !t.isBlank).flatMap leaves = ts.flatMap leaves := by
  induction ts with
  | nil => rfl
  | cons t ts ih =>
    obtain ⟨first, queries⟩ := List.forall_mem_cons.mp queries
    rw [List.filter_cons, List.flatMap_cons, ← ih queries]
    cases blank : t.isBlank with
    | true =>
      rw [(isBlank_iff first).mp blank]
      rfl
    | false => rfl

/-- Apart from the checks of the separator, a query is written as its clauses and unions with the
separator between them. -/
theorem unchecked_template {t : Tree} (query : t.isQuery = true) :
    t.template.unchecked =
      Template.join [.joint] (t.leaves.map fun l => l.template.unchecked) := by
  induction t, query using isQuery_induction with
  | leaf t leaf =>
    rw [leaves_of_isLeaf leaf]
    rfl
  | nested ts queries ih =>
    have parts : (statement ts).template.unchecked =
        Template.join [.joint] ((written ts).map Template.unchecked) := by
      simp only [template, statementTemplate, Template.unchecked_append, Template.unchecked_cons,
        Template.unchecked_join, List.cons_append, Segment.isCheck]
      cases written ts <;> simp
    -- Each part that is written is made of at least one clause or union.
    let groups := (ts.filter fun t => !t.isBlank).map fun t =>
      t.leaves.map fun l => l.template.unchecked
    have nonempty : ∀ group ∈ groups, group ≠ [] := by
      intro group mem
      obtain ⟨t, t_mem, rfl⟩ := List.mem_map.mp mem
      obtain ⟨t_mem, something⟩ := List.mem_filter.mp t_mem
      intro empty
      have blank := (isBlank_iff (queries t t_mem)).mpr (List.map_eq_nil_iff.mp empty)
      simp [blank] at something
    have groups_eq : (written ts).map Template.unchecked =
        groups.map (Template.join [.joint]) := by
      rw [written_eq, List.map_map, List.map_map]
      exact List.map_congr_left fun t mem => ih t (List.mem_filter.mp mem).1
    have flatten : groups.flatten =
        (statement ts).leaves.map fun l => l.template.unchecked := by
      rw [leaves, allLeaves_eq, ← flatMap_leaves_filter queries, List.map_flatMap]
      rfl
    rw [parts, groups_eq, Template.join_flatten [.joint] nonempty, flatten]

/-! ### Texts of queries -/

theorem items_eq_map (ts : List Tree) : items ts = ts.map fun t => t.asItem t.template := by
  induction ts with
  | nil => rfl
  | cons t ts ih => rw [items, ih, List.map_cons]

/-- A clause or a union has a word of the query in it. -/
theorem hasWord_of_isLeaf {t : Tree} (leaf : t.isLeaf = true) : t.template.HasWord := by
  cases t with
  | patternClause keyword path patterns fragments =>
    exact ⟨keyword ++ " ", by simp, by simp [template, patternsTemplate]⟩
  | projectionClause body fragments =>
    cases body with
    | projection kind distinct columns sortItems skip limit =>
      exact ⟨kind.keyword ++ (if distinct then " DISTINCT" else "") ++ " ", by simp,
        by simp [template, projectionTemplate]⟩
    | _ => cases leaf
  | union keyword branches =>
    simp only [isLeaf, isQuery, Bool.and_eq_true, decide_eq_true_eq] at leaf
    refine ⟨keyword, by simpa using leaf.1.1, ?_⟩
    -- There are at least two branches, so the keyword stands between them.
    have between : .text keyword ∈
        Template.join [.separator, .text keyword, .separator] (items branches) := by
      have several := leaf.1.2
      obtain ⟨t, ts, rfl⟩ := List.exists_cons_of_length_pos (by omega : 0 < branches.length)
      obtain ⟨u, us, rfl⟩ := List.exists_cons_of_length_pos (Nat.lt_of_succ_lt_succ several)
      rw [items_eq_map, List.map_cons, List.map_cons, Template.join_cons_cons]
      simp
    simp [template, unionTemplate, Template.listed, between]
  | _ => cases leaf

/-- A query that is not blank has a word in it. -/
theorem hasWord_of_isQuery {t : Tree} (query : t.isQuery = true) (nonblank : t.leaves ≠ []) :
    t.template.HasWord := by
  obtain ⟨l, ls, eq⟩ := List.exists_cons_of_ne_nil nonblank
  obtain ⟨word, something, mem⟩ :=
    hasWord_of_isLeaf (isLeaf_of_mem_leaves query l (by rw [eq]; exact List.mem_cons_self))
  have kept : .text word ∈ l.template.unchecked := List.mem_filter.mpr ⟨mem, rfl⟩
  have written : .text word ∈ t.template.unchecked := by
    rw [unchecked_template query, eq]
    cases ls with
    | nil => exact kept
    | cons m ms =>
      rw [List.map_cons, List.map_cons, Template.join_cons_cons]
      simp [kept]
  exact ⟨word, something, (List.mem_filter.mp written).1⟩

/-- Nothing but checks is written for a query in which there is neither a clause nor a union. -/
theorem unchecked_of_leaves_nil {t : Tree} (query : t.isQuery = true) (blank : t.leaves = []) :
    t.template.unchecked = [] := by
  rw [unchecked_template query, blank]
  rfl

/-- A query that is an item of a list is written as it is on its own. -/
theorem unchecked_asItem {t : Tree} (query : t.isQuery = true) :
    (t.asItem t.template).unchecked = t.template.unchecked := by
  have sole : t.sole? = if t.isBlank then some .blank else none := by
    cases t with
    | patternClause | projectionClause | statement | union => rfl
    | _ => cases query
  unfold asItem
  rw [sole]
  cases blank : t.isBlank with
  | true => exact (unchecked_of_leaves_nil query ((isBlank_iff query).mp blank)).symm
  | false => rfl

/-- Checks ask for no names. -/
theorem asks_unchecked (t : Template) : t.unchecked.asks = t.asks := by
  unfold Template.unchecked Template.asks
  rw [List.filterMap_filter]
  refine List.filterMap_congr fun segment _ => ?_
  cases segment <;> rfl

/-- The branches of a union are asked about one after another. -/
theorem asks_union (keyword : String) {branches : List Tree}
    (queries : ∀ b ∈ branches, b.isQuery = true) :
    (union keyword branches).template.asks = branches.flatMap fun b => b.template.asks := by
  have item : ∀ b ∈ branches, (b.asItem b.template).asks = b.template.asks := by
    intro b mem
    rw [← asks_unchecked, unchecked_asItem (queries b mem), asks_unchecked]
  have joined : (union keyword branches).template.asks =
      (Template.join [.separator, .text keyword, .separator] (items branches)).asks := by
    simp [template, unionTemplate, Template.listed, Segment.ask?]
  rw [joined, Template.asks_join rfl, items_eq_map, List.flatMap_map]
  exact List.flatMap_congr item

/-- The parts of a statement are asked about one after another. -/
theorem asks_statement {parts : List Tree} (queries : ∀ t ∈ parts, t.isQuery = true) :
    (statement parts).template.asks = parts.flatMap fun t => t.template.asks := by
  have ofLeaves : ∀ t : Tree, t.isQuery = true →
      t.template.asks = t.leaves.flatMap fun l => l.template.asks := by
    intro t query
    rw [← asks_unchecked, unchecked_template query, Template.asks_join rfl,
      List.flatMap_map]
    exact List.flatMap_congr fun l _ => asks_unchecked l.template
  have query : (statement parts).isQuery = true := (allQueries_iff parts).mpr queries
  rw [ofLeaves _ query, leaves, allLeaves_eq, List.flatMap_assoc]
  exact List.flatMap_congr fun t mem => (ofLeaves t (queries t mem)).symm

section Textual

variable {e : Environment} {sep : String} (textual : e.IsTextual sep)
include textual

/-- A query is answered as a text. -/
theorem value_of_isQuery {t : Tree} (query : t.isQuery = true)
    (ok : (t.template.render e).fault? = none) :
    (t.template.render e).value = .text (t.template.render e).text := by
  by_cases blank : t.leaves = []
  · have separator : (Pen.mk e []).env.separator.IsText := by
      change e.separator.IsText
      rw [textual.separator_eq]
      trivial
    have nothing : t.template.render e = Template.fill ⟨e, []⟩ [] := by
      rw [← unchecked_of_leaves_nil query blank]
      exact (Template.fill_unchecked separator _).symm
    rw [nothing]
    rfl
  · exact (hasWord_of_isQuery query blank).value_eq ok

/-- Checks come to nothing. -/
theorem shown_unchecked (t : Template) : t.unchecked.shown e = t.shown e := by
  induction t with
  | nil => rfl
  | cons segment rest ih =>
    rw [Template.unchecked_cons, Template.shown_cons]
    split
    · rename_i check
      have silent : segment.isSilent = true := by
        cases segment <;> first | rfl | cases check
      rw [Segment.shown_silent textual silent, ih, String.empty_append]
    · rw [Template.shown_cons, ih]

/-- What is shown of a union are its branches, with the keyword on a line of its own between them.
-/
theorem shown_union (keyword : String) {branches : List Tree}
    (queries : ∀ b ∈ branches, b.isQuery = true) :
    (union keyword branches).template.shown e =
      (sep ++ keyword ++ sep).intercalate (branches.map fun b => b.template.shown e) := by
  have item : ∀ b ∈ branches, (b.asItem b.template).shown e = b.template.shown e := by
    intro b mem
    rw [← shown_unchecked textual, unchecked_asItem (queries b mem), shown_unchecked textual]
  have silent : ∀ segment : Segment, segment.isSilent = true → segment.shown e = "" :=
    fun segment => Segment.shown_silent textual
  have between : Template.shown e [.separator, .text keyword, .separator] =
      sep ++ keyword ++ sep := by
    simp [Segment.shown_separator textual, String.append_assoc]
  simp only [template, unionTemplate, Template.listed, List.cons_append, Template.shown_cons,
    Template.shown_append, Template.shown_nil, Template.shown_join, between, items_eq_map,
    List.map_map, silent (.union _ _) rfl, silent .formed rfl, silent .openList rfl,
    silent .closeList rfl, String.empty_append, String.append_empty]
  exact congrArg _ (List.map_congr_left item)

/-- What is shown of a query are its clauses and unions, each on lines of its own. -/
theorem shown_of_isQuery {t : Tree} (query : t.isQuery = true) :
    t.template.shown e = sep.intercalate (t.leaves.map fun l => l.template.shown e) := by
  rw [← shown_unchecked textual, unchecked_template query, Template.shown_join, List.map_map]
  have between : Template.shown e [.joint] = sep := by
    simp [Segment.shown_joint textual]
  rw [between]
  exact congrArg _ (List.map_congr_left fun l _ => shown_unchecked textual l.template)

/-- A query has no text just in case there is neither a clause nor a union in it. -/
theorem shown_eq_empty_iff {t : Tree} (query : t.isQuery = true) :
    t.template.shown e = "" ↔ t.leaves = [] := by
  constructor
  · intro empty
    by_contra nonblank
    exact (hasWord_of_isQuery query nonblank).shown_ne_empty e empty
  · intro blank
    rw [shown_of_isQuery textual query, blank]
    rfl

/-- A further part of a statement comes behind what is shown of the others. -/
theorem shown_statement_append {ts : List Tree} (queries : ∀ t ∈ ts, t.isQuery = true) {t : Tree}
    (query : t.isQuery = true) :
    (statement (ts ++ [t])).template.shown e =
      Text.separated sep ((statement ts).template.shown e) (t.template.shown e) := by
  have before : (statement ts).isQuery = true := (allQueries_iff ts).mpr queries
  have longer : (statement (ts ++ [t])).isQuery = true := by
    rw [isQuery, allQueries_iff, List.forall_mem_append, List.forall_mem_singleton]
    exact ⟨queries, query⟩
  have leaves : (statement (ts ++ [t])).leaves = (statement ts).leaves ++ t.leaves := by
    simp only [Tree.leaves, allLeaves_eq, List.flatMap_append, List.flatMap_singleton]
  unfold Text.separated
  simp only [shown_eq_empty_iff textual before, shown_eq_empty_iff textual query]
  rw [shown_of_isQuery textual longer, leaves, List.map_append]
  split
  · rename_i blank
    rw [blank, List.map_nil, List.nil_append, shown_of_isQuery textual query]
  split
  · rename_i blank
    rw [blank, List.map_nil, List.append_nil, shown_of_isQuery textual before]
  · rename_i some others
    rw [String.intercalate_append_of_ne_nil (by simpa using some) (by simpa using others),
      shown_of_isQuery textual before, shown_of_isQuery textual query]

end Textual

end Tree

end GraphQuery
