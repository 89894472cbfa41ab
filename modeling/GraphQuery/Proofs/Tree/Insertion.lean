import GraphQuery.Proofs.Rendering.Parts
import GraphQuery.Proofs.Tree.Lines

/-!
Templates with something written into them.

Behind any place in a clause stand lines that begin with keywords, each behind a separator. What is
written in front of them is a line with another keyword or a further item of a list. A keyword has a
blank behind it and a further item has a comma in front of it, so neither is mistaken for the lines
behind it: the text is another one, whatever names are given. What stands in front of that place is
written with the same names with and without it.

* `Template.Lined`, `Template.Opens`: lines that the text goes on with, and what comes in between.
* `Template.Inserts`: a template is another one with something written into it.
* `Template.Inserts.text_ne`: the two templates have different texts.
-/

namespace GraphQuery

/-! ### Keywords -/

namespace Line

/-- The keywords of all lines of a clause but the first one. -/
def words : List String :=
  ["WHERE", "SET", "REMOVE", "DELETE", "DETACH DELETE", "WITH", "RETURN", "ORDER BY", "SKIP",
    "LIMIT"]

/-- No keyword with a blank behind it begins another one. -/
theorem words_apart : ∀ v ∈ words, ∀ w ∈ words, v ≠ w →
    ¬ v.toList ++ [' '] <+: w.toList ++ [' '] := by
  decide

/-- No keyword begins with a comma. -/
theorem words_no_comma : ∀ v ∈ words, ∃ c rest, v.toList = c :: rest ∧ c ≠ ',' := by
  have heads : ∀ v ∈ words, v.toList.head?.any (· ≠ ',') = true := by decide
  intro v mem
  have head := heads v mem
  cases chars : v.toList with
  | nil => simp [chars] at head
  | cons c rest => exact ⟨c, rest, rfl, by simpa [chars] using head⟩

variable {l m : Line} {e e' : Environment}

theorem toList_shown (e : Environment) (l : Line) :
    (l.shown e).toList = l.keyword.toList ++ [' '] ++ (l.body.shown e).toList := by
  rw [Line.shown, String.toList_append, String.toList_append]
  rfl

/-- Texts that begin with lines tell the keywords of the lines. -/
theorem keyword_eq (mem : l.keyword ∈ words) (mem' : m.keyword ∈ words) {x y : String}
    (eq : l.shown e ++ x = m.shown e' ++ y) : l.keyword = m.keyword := by
  by_contra ne
  have left : l.keyword.toList ++ [' '] <+: (l.shown e ++ x).toList := by
    rw [String.toList_append, toList_shown, List.append_assoc]
    exact List.prefix_append _ _
  have right : m.keyword.toList ++ [' '] <+: (l.shown e ++ x).toList := by
    rw [eq, String.toList_append, toList_shown, List.append_assoc]
    exact List.prefix_append _ _
  rcases List.prefix_or_prefix_of_prefix left right with before | before
  · exact words_apart _ mem _ mem' ne before
  · exact words_apart _ mem' _ mem (Ne.symm ne) before

end Line

namespace Template

/-! ### What stands behind a place -/

/-- The template is written as lines that each stand behind a separator. Their keywords are other
ones than some. -/
def Lined (own : List String) (t : Template) : Prop :=
  ∃ ls : List Line, (∀ l ∈ ls, l.keyword ∈ Line.words ∧ l.keyword ∉ own) ∧
    ∀ {e : Environment} {sep : String}, e.IsTextual sep →
      t.shown e = String.join (ls.map fun l => sep ++ l.shown e)

namespace Lined

variable {own : List String} {t u : Template}

/-- Marks come to no lines. -/
theorem silent (segment : Segment) (silent : segment.isSilent) : Lined own [segment] := by
  refine ⟨[], fun _ mem => absurd mem List.not_mem_nil, fun textual => ?_⟩
  rw [shown_cons, Segment.shown_silent textual silent]
  rfl

theorem nil : Lined own [] := ⟨[], fun _ mem => absurd mem List.not_mem_nil, fun _ => rfl⟩

theorem append (h : Lined own t) (h' : Lined own u) : Lined own (t ++ u) := by
  obtain ⟨ls, words, shown⟩ := h
  obtain ⟨ls', words', shown'⟩ := h'
  refine ⟨ls ++ ls', fun l mem => (List.mem_append.mp mem).elim (words l) (words' l),
    fun textual => ?_⟩
  rw [shown_append, shown textual, shown' textual, List.map_append, String.join_append]

theorem flatMap {α : Type} {f : α → Template} {as : List α} (each : ∀ a ∈ as, Lined own (f a)) :
    Lined own (as.flatMap f) := by
  induction as with
  | nil => exact nil
  | cons a as ih =>
    obtain ⟨first, others⟩ := List.forall_mem_cons.mp each
    exact first.append (ih others)

/-- Fragments are written as their lines. -/
theorem fragments {ts : List Tree} (areFragments : ∀ t ∈ ts, t.fragmentLines ≠ [])
    (words : ∀ l ∈ ts.flatMap Tree.fragmentLines, l.keyword ∈ Line.words ∧ l.keyword ∉ own) :
    Lined own ((Tree.templates ts).map fragmentTemplate).flatten :=
  ⟨_, words, fun textual => Tree.shown_fragments textual areFragments⟩

end Lined

/-! ### What is written at a place -/

/-- The template begins with a line that has a keyword of its own, or it goes on with a list. -/
inductive Opens (own : List String) : Template → Prop where
  | line {t : Template} (l : Line) (word : l.keyword ∈ Line.words) (isOwn : l.keyword ∈ own)
      (shown : ∀ {e : Environment} {sep : String}, e.IsTextual sep → t.shown e = sep ++ l.shown e) :
      Opens own t
  | item (rest : Template) : Opens own (.text ", " :: rest)

/-- What is written at a place is not mistaken for the lines behind it. -/
theorem Opens.shown_ne {own : List String} {t u : Template} (opens : Opens own t)
    (lined : Lined own u) {e e' : Environment} {sep : String} (textual : e.IsTextual sep)
    (textual' : e'.IsTextual sep) (noComma : sep.toList.head? ≠ some ',') (x : String) :
    t.shown e' ++ x ≠ u.shown e := by
  obtain ⟨ls, words, shown⟩ := lined
  rw [shown textual]
  intro eq
  cases opens with
  | line l word isOwn shown =>
    rw [shown textual', String.append_assoc] at eq
    cases ls with
    | nil =>
      have length := congrArg String.length eq
      simp [Line.shown] at length
    | cons m ls =>
      obtain ⟨⟨word', notOwn⟩, -⟩ := List.forall_mem_cons.mp words
      rw [List.map_cons, String.join_cons, String.append_assoc, String.append_right_inj] at eq
      exact notOwn (Line.keyword_eq word word' eq ▸ isOwn)
  | item rest =>
    have comma : (Template.shown e' (.text ", " :: rest) ++ x).toList.head? = some ',' := by
      rw [shown_cons, Segment.shown_text, String.append_assoc, String.toList_append]
      rfl
    rw [eq] at comma
    cases ls with
    | nil => cases comma
    | cons m ls =>
      obtain ⟨⟨word, -⟩, -⟩ := List.forall_mem_cons.mp words
      rw [List.map_cons, String.join_cons, String.append_assoc, String.toList_append] at comma
      cases chars : sep.toList with
      | nil =>
        obtain ⟨c, others, begins, ne⟩ := Line.words_no_comma _ word
        rw [chars, List.nil_append, String.toList_append, Line.toList_shown, begins] at comma
        exact ne (Option.some.inj comma)
      | cons c others =>
        rw [chars] at comma noComma
        exact noComma comma

/-! ### Templates with something written into them -/

/-- The second template is the first one with something written into it. -/
inductive Inserts (own : List String) : Template → Template → Prop where
  | intro (front : Template) {new rest : Template} (opens : Opens own new)
      (lined : Lined own rest) : Inserts own (front ++ rest) (front ++ (new ++ rest))

namespace Inserts

variable {own : List String} {t t' : Template}

theorem behind (h : Inserts own t t') (first : Template) :
    Inserts own (first ++ t) (first ++ t') := by
  obtain ⟨front, opens, lined⟩ := h
  rw [← List.append_assoc, ← List.append_assoc]
  exact .intro _ opens lined

theorem before (h : Inserts own t t') {last : Template} (lined : Lined own last) :
    Inserts own (t ++ last) (t' ++ last) := by
  obtain ⟨front, opens, lined'⟩ := h
  rw [List.append_assoc, List.append_assoc, List.append_assoc]
  exact .intro _ opens (lined'.append lined)

/-- Where both templates are written, their texts differ. -/
theorem text_ne (h : Inserts own t t') (pen : Pen Environment) {sep : String}
    (textual : pen.env.IsTextual sep) (clean : pen.IsClean)
    (noComma : sep.toList.head? ≠ some ',') (ok : (t.fill pen).fault? = none)
    (ok' : (t'.fill pen).fault? = none) : (t'.fill pen).text ≠ (t.fill pen).text := by
  obtain ⟨front, opens, lined⟩ := h
  rename_i new rest
  have fault : ∀ more, ((front ++ more).fill pen).fault? = none →
      (∀ f, .fault f ∉ front) ∧ ∀ f, .fault f ∉ front ++ more := fun more ok => by
    have noFault := not_mem_of_fill_ok ok
    exact ⟨fun f mem => noFault f (List.mem_append_left _ mem), noFault⟩
  have later : ∀ more, (front.fill pen).pen.env.Extends ((front ++ more).fill pen).pen.env := by
    intro more
    rw [fill_append]
    split
    · exact .refl _
    · exact fill_extends _ more
  have textual_later : ∀ more, ((front ++ more).fill pen).pen.env.IsTextual sep := fun more =>
    ⟨fill_worded Environment.numbered_isText textual.worded
      fun segment _ => segment.suggests_of_forall Wording.isText_ofName,
      (fill_extends pen _).separator_eq.trans textual.separator_eq⟩
  -- What stands in front of the place is written first, so it has the same names in both.
  have first : ∀ more, ((front ++ more).fill pen).fault? = none →
      ((front ++ more).fill pen).text =
        (front.fill pen).text ++ more.shown ((front ++ more).fill pen).pen.env := by
    intro more ok
    obtain ⟨noFault, noFault'⟩ := fault more ok
    rw [(fill_shown textual clean noFault').2 _ (.refl _), shown_append,
      (fill_shown textual clean noFault).2 _ (later more)]
  rw [first _ ok, first _ ok', ne_eq, String.append_right_inj, shown_append]
  exact opens.shown_ne lined (textual_later rest) (textual_later _) noComma _

end Inserts

end Template

/-! ### Lists and lines that grow -/

namespace Template

variable {own : List String} {ts us : List Template}

/-- Further parts are written behind a comma. -/
theorem inserts_join (some : ts ≠ []) (more : us ≠ []) :
    Inserts own (join [.text ", "] ts) (join [.text ", "] (ts ++ us)) := by
  have inserts : Inserts own _ _ := .intro (join [.text ", "] ts) (.item (join [.text ", "] us)) .nil
  rw [join_append _ some more]
  simpa using inserts

/-- Further items are written behind a comma. -/
theorem inserts_commas (some : ts ≠ []) (more : us ≠ []) :
    Inserts own (commas ts) (commas (ts ++ us)) := by
  have inserts : Inserts own _ _ := (inserts_join some more).before (.silent .closeList rfl)
  exact inserts.behind [.openList]

/-- A fragment of one line is a line of its own. -/
theorem inserts_fragment {t : Tree} {l : Line} (lines : t.fragmentLines = [l])
    (word : l.keyword ∈ Line.words) (isOwn : l.keyword ∈ own) :
    Inserts own [] (fragmentTemplate t.template) := by
  have areFragments : ∀ u ∈ [t], u.fragmentLines ≠ [] := by simp [lines]
  have opens : Opens own (fragmentTemplate t.template) := by
    refine .line l word isOwn fun textual => ?_
    have shown := Tree.shown_fragments textual areFragments
    simpa [Tree.templates, lines, String.join_cons] using shown
  simpa using Inserts.intro [] opens .nil

/-- A template that grows also does so as a fragment. -/
theorem Inserts.fragment {t t' : Template} (h : Inserts own t t') :
    Inserts own (fragmentTemplate t) (fragmentTemplate t') :=
  (h.before (.silent .formed rfl)).behind [.separator]

/-- What rows are ordered by is written in front of their counts. -/
theorem inserts_projection (kind : ProjectionKind) (distinct : Bool)
    (columns sortItems : List Template) {more : List Template} (some : more ≠ [])
    (skip limit : Option Param) : Inserts ["ORDER BY"]
      (projectionTemplate kind distinct columns sortItems skip limit)
      (projectionTemplate kind distinct columns (sortItems ++ more) skip limit) := by
  have counts : Lined ["ORDER BY"] ((skip.map fun p => [.joint, .text "SKIP ", .key p]).getD [] ++
      ((limit.map fun p => [.joint, .text "LIMIT ", .key p]).getD [] ++ [.joined])) := by
    refine .append ⟨(skip.map fun p => (⟨"SKIP", [.key p]⟩ : Line)).toList, fun l mem => ?_,
      fun textual => shown_rowCount textual (by decide) skip⟩ (.append
      ⟨(limit.map fun p => (⟨"LIMIT", [.key p]⟩ : Line)).toList, fun l mem => ?_,
      fun textual => shown_rowCount textual (by decide) limit⟩ (.silent .joined rfl))
    · obtain ⟨p, -, rfl⟩ := Option.map_eq_some_iff.mp (Option.mem_toList.mp mem)
      exact (by decide : "SKIP" ∈ Line.words ∧ "SKIP" ∉ ["ORDER BY"])
    · obtain ⟨p, -, rfl⟩ := Option.map_eq_some_iff.mp (Option.mem_toList.mp mem)
      exact (by decide : "LIMIT" ∈ Line.words ∧ "LIMIT" ∉ ["ORDER BY"])
  have ordering : Inserts ["ORDER BY"]
      (if sortItems.isEmpty then [] else .joint :: .text "ORDER BY " :: commas sortItems)
      (if (sortItems ++ more).isEmpty then []
        else .joint :: .text "ORDER BY " :: commas (sortItems ++ more)) := by
    cases sortItems with
    | nil =>
      obtain ⟨i, is, rfl⟩ := List.exists_cons_of_ne_nil some
      have opens : Opens ["ORDER BY"] (.joint :: .text "ORDER BY " :: commas (i :: is)) :=
        .line ⟨"ORDER BY", commas (i :: is)⟩ (show "ORDER BY" ∈ Line.words by decide)
          List.mem_cons_self fun textual => shown_joint textual (by decide) _
      simpa using Inserts.intro [] opens .nil
    | cons i is =>
      exact (inserts_commas (List.cons_ne_nil i is) some).behind [.joint, .text "ORDER BY "]
  have whole := (ordering.before counts).behind (.text (kind.keyword ++
    (if distinct then " DISTINCT" else "") ++ " ") :: commas columns ++ [.joining])
  unfold projectionTemplate
  simpa only [List.append_assoc] using whole

end Template

end GraphQuery
