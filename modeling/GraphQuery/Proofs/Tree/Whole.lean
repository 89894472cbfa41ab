import GraphQuery.Proofs.Tree.Marks

/-!
Whole trees: nothing in them is stuck.

A tree is written without meeting a fault just in case it is whole: faults are marks, and the marks
of a template are those of its tree.

* `Tree.faults`: the faults that are in a tree.
* `Tree.faults_template`: they are those of its template.
* `Tree.isWhole`: nothing in the tree is stuck.
* `Tree.isSound_template`: the template of a tree holds a fault just in case the tree is not whole.
-/

namespace GraphQuery

/-! ### The faults of a template -/

/-- The fault that a segment is. -/
def Segment.fault? : Segment → Option Fault
  | fault f => some f
  | _ => none

/-- The segment is no fault. -/
def Segment.isSound : Segment → Bool
  | fault _ => false
  | _ => true

namespace Template

/-- The faults that a template holds, in their order. -/
def faults (t : Template) : List Fault := t.filterMap Segment.fault?

@[simp] theorem faults_cons (segment : Segment) (t : Template) :
    faults (segment :: t) = segment.fault?.toList ++ faults t := by
  rw [faults, List.filterMap_cons]
  cases segment.fault? <;> rfl

theorem mem_faults {f : Fault} {t : Template} : f ∈ t.faults ↔ .fault f ∈ t := by
  rw [faults, List.mem_filterMap]
  constructor
  · rintro ⟨segment, mem, eq⟩
    cases segment <;> cases eq
    exact mem
  · exact fun mem => ⟨_, mem, rfl⟩

/-- The faults of a template are among its marks. -/
theorem faults_eq_marks (t : Template) : t.faults = t.marks.filterMap Mark.fault? := by
  rw [faults, marks, List.filterMap_filterMap]
  congr 1
  funext segment
  cases segment <;> rfl

/-- The template holds no fault. -/
def isSound (t : Template) : Bool := t.all Segment.isSound

@[simp] theorem isSound_cons (segment : Segment) (t : Template) :
    isSound (segment :: t) = (segment.isSound && isSound t) := rfl

theorem isSound_eq (t : Template) : t.isSound = t.faults.isEmpty := by
  induction t with
  | nil => rfl
  | cons segment t ih =>
    rw [isSound_cons, faults_cons, ih]
    cases segment <;> rfl

theorem isSound_iff (t : Template) : t.isSound = true ↔ ∀ f, .fault f ∉ t := by
  simp only [isSound_eq, List.isEmpty_iff, List.eq_nil_iff_forall_not_mem, mem_faults]

end Template

/-! ### The faults of a tree -/

namespace Tree

mutual

/-- The faults that are in a tree, in the order in which they are come upon. -/
def faults : Tree → List Fault
  | label _ | key _ | star => []
  | property t _ | check _ t | negation t | column t | aliased t _ | sorted t _ | filter t =>
    t.faults
  | comparison _ t u => t.faults ++ u.faults
  | junction _ ts | call _ ts | pattern ts | removals ts | deletions _ ts | statement ts
  | union _ ts => allFaults ts
  | node _ _ ps | relationship _ _ ps _ => entryFaults ps
  | assignments es => pairFaults es
  | projection _ _ ts us _ _ => allFaults ts ++ allFaults us
  | patternClause _ _ ts us => allFaults ts ++ allFaults us
  | projectionClause t us => t.faults ++ allFaults us
  | given t => t.faults
  | stuck ts f => allFaults ts ++ [f]

/-- The faults of trees. -/
def allFaults : List Tree → List Fault
  | [] => []
  | t :: rest => t.faults ++ allFaults rest

/-- The faults of what stands behind the names. -/
def entryFaults : List (Name × Tree) → List Fault
  | [] => []
  | (_, t) :: rest => t.faults ++ entryFaults rest

/-- The faults of the targets and their values. -/
def pairFaults : List (Tree × Tree) → List Fault
  | [] => []
  | (t, u) :: rest => t.faults ++ u.faults ++ pairFaults rest

end

theorem allFaults_eq (ts : List Tree) : allFaults ts = ts.flatMap faults := by
  induction ts with
  | nil => rfl
  | cons t ts ih => rw [allFaults, ih, List.flatMap_cons]

theorem pairFaults_eq (es : List (Tree × Tree)) :
    pairFaults es = es.flatMap fun e => e.1.faults ++ e.2.faults := by
  induction es with
  | nil => rfl
  | cons e es ih => rw [pairFaults, ih, List.flatMap_cons]

mutual

/-- The faults of a tree are among its marks. -/
theorem faults_eq_marks : (t : Tree) → t.faults = t.marks.filterMap Mark.fault?
  | label _ | key _ | star => rfl
  | property t _ | check _ t | negation t | column t | aliased t _ | sorted t _ | filter t =>
    faults_eq_marks t
  | comparison _ t u => by
    rw [faults, marks, List.filterMap_append, faults_eq_marks t, faults_eq_marks u]
  | junction _ ts | call _ ts | pattern ts | removals ts | deletions _ ts | statement ts
  | union _ ts => allFaults_eq_marks ts
  | node _ _ ps | relationship _ _ ps _ => entryFaults_eq_marks ps
  | assignments es => pairFaults_eq_marks es
  | projection _ _ ts us _ _ | patternClause _ _ ts us => by
    rw [faults, marks, List.filterMap_append, allFaults_eq_marks ts, allFaults_eq_marks us]
  | projectionClause t us => by
    rw [faults, marks, List.filterMap_append, faults_eq_marks t, allFaults_eq_marks us]
  | given t => t.faults_eq_marks
  | stuck ts _ => by
    rw [faults, marks, List.filterMap_append, allFaults_eq_marks ts]
    rfl

theorem allFaults_eq_marks : (ts : List Tree) →
    allFaults ts = (allMarks ts).filterMap Mark.fault?
  | [] => rfl
  | t :: ts => by
    rw [allFaults, allMarks, List.filterMap_append, faults_eq_marks t, allFaults_eq_marks ts]

theorem entryFaults_eq_marks : (ps : List (Name × Tree)) →
    entryFaults ps = (entryMarks ps).filterMap Mark.fault?
  | [] => rfl
  | (_, t) :: ps => by
    rw [entryFaults, entryMarks, List.filterMap_append, faults_eq_marks t, entryFaults_eq_marks ps]

theorem pairFaults_eq_marks : (es : List (Tree × Tree)) →
    pairFaults es = (pairMarks es).filterMap Mark.fault?
  | [] => rfl
  | (t, u) :: es => by
    rw [pairFaults, pairMarks, List.filterMap_append, List.filterMap_append, faults_eq_marks t,
      faults_eq_marks u, pairFaults_eq_marks es]

end

/-- The template of a tree holds the faults of the tree. -/
theorem faults_template (t : Tree) : t.template.faults = t.faults := by
  rw [Template.faults_eq_marks, marks_template, faults_eq_marks]

end Tree

/-! ### Whole trees -/

namespace Tree

mutual

/-- Nothing in the tree is stuck. -/
def isWhole : Tree → Bool
  | label _ | key _ | star => true
  | property t _ | check _ t | negation t | column t | aliased t _ | sorted t _ | filter t =>
    t.isWhole
  | comparison _ t u => t.isWhole && u.isWhole
  | junction _ ts | call _ ts | pattern ts | removals ts | deletions _ ts | statement ts
  | union _ ts => allWhole ts
  | node _ _ ps | relationship _ _ ps _ => entriesWhole ps
  | assignments es => pairsWhole es
  | projection _ _ ts us _ _ => allWhole ts && allWhole us
  | patternClause _ _ ts us => allWhole ts && allWhole us
  | projectionClause t us => t.isWhole && allWhole us
  | given t => t.isSound
  | stuck _ _ => false

/-- Nothing in any of the trees is stuck. -/
def allWhole : List Tree → Bool
  | [] => true
  | t :: rest => t.isWhole && allWhole rest

/-- Nothing in what stands behind the names is stuck. -/
def entriesWhole : List (Name × Tree) → Bool
  | [] => true
  | (_, t) :: rest => t.isWhole && entriesWhole rest

/-- Nothing in the targets and their values is stuck. -/
def pairsWhole : List (Tree × Tree) → Bool
  | [] => true
  | (t, u) :: rest => t.isWhole && u.isWhole && pairsWhole rest

end

theorem allWhole_iff (ts : List Tree) : allWhole ts = true ↔ ∀ t ∈ ts, t.isWhole = true := by
  induction ts with
  | nil => simp [allWhole]
  | cons t ts ih => simp [allWhole, ih]

theorem pairsWhole_iff (es : List (Tree × Tree)) :
    pairsWhole es = true ↔ ∀ e ∈ es, e.1.isWhole = true ∧ e.2.isWhole = true := by
  induction es with
  | nil => simp [pairsWhole]
  | cons e es ih => simp [pairsWhole, ih]

mutual

/-- A tree is whole just in case there are no faults in it. -/
theorem isWhole_iff : (t : Tree) → (t.isWhole = true ↔ t.faults = [])
  | label _ | key _ | star => iff_of_true rfl rfl
  | property t _ | check _ t | negation t | column t | aliased t _ | sorted t _ | filter t =>
    isWhole_iff t
  | comparison _ t u => by simp [isWhole, faults, isWhole_iff t, isWhole_iff u]
  | junction _ ts | call _ ts | pattern ts | removals ts | deletions _ ts | statement ts
  | union _ ts => allWhole_iff_faults ts
  | node _ _ ps | relationship _ _ ps _ => entriesWhole_iff ps
  | assignments es => pairsWhole_iff_faults es
  | projection _ _ ts us _ _ => by
    simp [isWhole, faults, allWhole_iff_faults ts, allWhole_iff_faults us]
  | patternClause _ _ ts us => by
    simp [isWhole, faults, allWhole_iff_faults ts, allWhole_iff_faults us]
  | projectionClause t us => by simp [isWhole, faults, isWhole_iff t, allWhole_iff_faults us]
  | given t => by rw [isWhole, faults, t.isSound_eq, List.isEmpty_iff]
  | stuck ts f => by simp [isWhole, faults]

theorem allWhole_iff_faults : (ts : List Tree) → (allWhole ts = true ↔ allFaults ts = [])
  | [] => iff_of_true rfl rfl
  | t :: ts => by simp [allWhole, allFaults, isWhole_iff t, allWhole_iff_faults ts]

theorem entriesWhole_iff : (ps : List (Name × Tree)) →
    (entriesWhole ps = true ↔ entryFaults ps = [])
  | [] => iff_of_true rfl rfl
  | (_, t) :: ps => by simp [entriesWhole, entryFaults, isWhole_iff t, entriesWhole_iff ps]

theorem pairsWhole_iff_faults : (es : List (Tree × Tree)) →
    (pairsWhole es = true ↔ pairFaults es = [])
  | [] => iff_of_true rfl rfl
  | (t, u) :: es => by
    simp [pairsWhole, pairFaults, isWhole_iff t, isWhole_iff u, pairsWhole_iff_faults es, and_assoc]

end

/-- The template of a tree holds no fault just in case the tree is whole. -/
theorem isSound_template (t : Tree) : t.template.isSound = t.isWhole := by
  rw [Bool.eq_iff_iff, Template.isSound_eq, faults_template, isWhole_iff, List.isEmpty_iff]

end Tree

end GraphQuery
