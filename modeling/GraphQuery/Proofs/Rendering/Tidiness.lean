import GraphQuery.Proofs.Text.Placeholder
import GraphQuery.Template

/-!
Tidy templates: the names of parameters can be read off what is written for them.

A template is tidy if its own texts are quiet and every key in it is followed by something that is
no part of a name. Templates are put together from others, so most of them are only part of a tidy
one.

* `Template.Tidy`: a template that stands alone.
* `Template.Clean`: a part that may end on a key. `Template.Closed`: a part that does not.
* `Template.Begins`: a part that can stand behind a key.
-/

namespace GraphQuery

/-- Nothing is written for the segment when the separator is a text. -/
def Segment.isSilent : Segment → Bool
  | formed | joining | joined | blank | blankItem | openList | closeList | union _ _ => true
  | _ => false

/-- What a template may speak of. -/
structure Grounds where
  bearer : Bearer → Prop
  param : Param → Prop

section Definitions

variable (G : Grounds)

/-- The segment has a quiet text, or speaks of what it may. -/
def Segment.Tidy : Segment → Prop
  | text s => Text.IsQuiet s
  | label b | item b => G.bearer b
  | key p => G.param p
  | _ => True

/-- What is written for the template does not go on with a name in front of it. -/
def Template.Delimits : Template → Prop
  | [] => True
  | .text s :: rest => Text.parts s ∨ s = "" ∧ Delimits rest
  | .label _ :: _ | .item _ :: _ => False
  | .key _ :: _ | .separator :: _ | .joint :: _ | .fault _ :: _ => True
  | _ :: rest => Delimits rest

/-- The texts are quiet and the keys are delimited, up to the first fault. -/
inductive Template.Tidy : Template → Prop where
  | nil : Tidy []
  | cons {segment : Segment} {rest : Template} : segment.Tidy G →
      (∀ p, segment = .key p → Delimits rest) → Tidy rest → Tidy (segment :: rest)
  | fault {f : Fault} {rest : Template} : Tidy (.fault f :: rest)

/-- The template is tidy in front of whatever delimits a name. -/
def Template.Clean (t : Template) : Prop :=
  ∀ u, Delimits u → Template.Tidy G u → Template.Tidy G (t ++ u)

/-- The template is tidy in front of everything. -/
def Template.Closed (t : Template) : Prop :=
  ∀ u, Template.Tidy G u → Template.Tidy G (t ++ u)

end Definitions

namespace Template

variable {G : Grounds} {t u : Template}

/-- What comes behind the template is delimited from what comes in front of it. -/
def Begins (t : Template) : Prop := ∀ u, Delimits (t ++ u)

/-! ### Beginnings -/

theorem begins_text {s : String} (h : Text.parts s) (rest : Template) : Begins (.text s :: rest) :=
  fun _ => .inl h

theorem begins_separator (rest : Template) : Begins (.separator :: rest) := fun _ => trivial

theorem begins_joint (rest : Template) : Begins (.joint :: rest) := fun _ => trivial

theorem begins_fault (f : Fault) (rest : Template) : Begins (.fault f :: rest) := fun _ => trivial

/-! ### Parts -/

/-- A template that is closed is clean. -/
theorem Closed.clean (h : Closed G t) : Clean G t := fun u _ tidy => h u tidy

/-- A clean template stands alone. -/
theorem Clean.tidy (h : Clean G t) : Template.Tidy G t := by
  have alone := h [] trivial .nil
  rwa [List.append_nil] at alone

theorem closed_nil : Closed G [] := fun _ tidy => tidy

/-- A segment that is no key may stand in front of everything. -/
theorem closed_cons {segment : Segment} (tidy : segment.Tidy G) (noKey : ∀ p, segment ≠ .key p)
    (h : Closed G t) : Closed G (segment :: t) := fun u rest =>
  .cons tidy (fun p eq => absurd eq (noKey p)) (h u rest)

theorem clean_cons {segment : Segment} (tidy : segment.Tidy G) (noKey : ∀ p, segment ≠ .key p)
    (h : Clean G t) : Clean G (segment :: t) := fun u delimits rest =>
  .cons tidy (fun p eq => absurd eq (noKey p)) (h u delimits rest)

theorem closed_text {s : String} (quiet : Text.IsQuiet s) : Closed G [.text s] :=
  closed_cons quiet (fun _ eq => by cases eq) closed_nil

theorem clean_text {s : String} (quiet : Text.IsQuiet s) (h : Clean G t) :
    Clean G (.text s :: t) :=
  clean_cons quiet (fun _ eq => by cases eq) h

theorem closed_label {b : Bearer} (h : G.bearer b) : Closed G [.label b] :=
  closed_cons h (fun _ eq => by cases eq) closed_nil

theorem closed_item {b : Bearer} (h : G.bearer b) : Closed G [.item b] :=
  closed_cons h (fun _ eq => by cases eq) closed_nil

/-- A key is tidy in front of what delimits it. -/
theorem clean_key {p : Param} (h : G.param p) : Clean G [.key p] := fun _ delimits tidy =>
  .cons h (fun _ _ => delimits) tidy

/-- Nothing is written from a fault on. -/
theorem closed_fault (f : Fault) : Closed G [.fault f] := fun _ _ => .fault

theorem Closed.append (h : Closed G t) (h' : Closed G u) : Closed G (t ++ u) := by
  intro v tidy
  rw [List.append_assoc]
  exact h (u ++ v) (h' v tidy)

theorem Closed.append_clean (h : Closed G t) (h' : Clean G u) : Clean G (t ++ u) := by
  intro v delimits tidy
  rw [List.append_assoc]
  exact h (u ++ v) (h' v delimits tidy)

/-- Something that begins well and is closed closes what is clean. -/
theorem Clean.close (h : Clean G t) (begins : Begins u) (h' : Closed G u) : Closed G (t ++ u) := by
  intro v tidy
  rw [List.append_assoc]
  exact h (u ++ v) (begins v) (h' v tidy)

theorem Clean.append (h : Clean G t) (begins : Begins u) (h' : Clean G u) : Clean G (t ++ u) := by
  intro v delimits tidy
  rw [List.append_assoc]
  exact h (u ++ v) (begins v) (h' v delimits tidy)

/-- A text behind a template, if it begins well or is empty. -/
theorem Clean.text (h : Clean G t) {s : String} (begins : s = "" ∨ Text.parts s)
    (quiet : Text.IsQuiet s) : Clean G (t ++ [.text s]) := by
  intro v delimits tidy
  rw [List.append_assoc]
  refine h _ ?_ (closed_text quiet v tidy)
  rcases begins with rfl | begins
  · exact .inr ⟨rfl, delimits⟩
  · exact .inl begins

/-- Silent segments may stand in front of everything. -/
theorem closed_silent {segment : Segment} (silent : segment.isSilent) : Closed G [segment] := by
  cases segment with
  | formed | joining | joined | blank | blankItem | openList | closeList | union =>
    exact closed_cons trivial (fun _ eq => by cases eq) closed_nil
  | _ => cases silent

/-- Silent segments pass on what comes behind them. -/
theorem delimits_silent_iff {segment : Segment} (silent : segment.isSilent) :
    Delimits (segment :: t) ↔ Delimits t := by
  cases segment <;> first | exact Iff.rfl | cases silent

/-- Silent segments may stand behind everything. -/
theorem Clean.silent (h : Clean G t) {segment : Segment} (silent : segment.isSilent) :
    Clean G (t ++ [segment]) := by
  intro v delimits rest
  rw [List.append_assoc]
  exact h _ ((delimits_silent_iff silent).mpr delimits) (closed_silent silent v rest)

/-- Clean parts with something between them that is closed and begins well. -/
theorem Clean.join {between : Template} (begins : Begins between) (closed : Closed G between)
    {ts : List Template} (h : ∀ t ∈ ts, Clean G t) : Clean G (Template.join between ts) := by
  induction ts with
  | nil => exact closed_nil.clean
  | cons t ts ih =>
    have first := h t List.mem_cons_self
    have others := ih fun u mem => h u (List.mem_cons_of_mem t mem)
    cases ts with
    | nil => exact first
    | cons u ts => exact (first.close begins closed).append_clean others

/-- Closed parts one after another. -/
theorem Closed.join_nil {ts : List Template} (h : ∀ t ∈ ts, Closed G t) :
    Closed G (Template.join [] ts) := by
  induction ts with
  | nil => exact closed_nil
  | cons t ts ih =>
    have first := h t List.mem_cons_self
    have others := ih fun u mem => h u (List.mem_cons_of_mem t mem)
    cases ts with
    | nil => exact first
    | cons u ts => exact (first.append closed_nil).append others

/-- The items of a list. -/
theorem Clean.listed {between : Template} (begins : Begins between) (closed : Closed G between)
    {ts : List Template} (h : ∀ t ∈ ts, Clean G t) : Clean G (Template.listed between ts) :=
  ((closed_silent rfl).append_clean (Clean.join begins closed h)).silent rfl

/-- Items without anything between them. -/
theorem Closed.listed_nil {ts : List Template} (h : ∀ t ∈ ts, Closed G t) :
    Closed G (Template.listed [] ts) :=
  ((closed_silent rfl).append (Closed.join_nil h)).append (closed_silent rfl)

theorem Clean.commas {ts : List Template} (h : ∀ t ∈ ts, Clean G t) :
    Clean G (Template.commas ts) :=
  .listed (begins_text (by decide) []) (closed_text (by decide)) h

end Template

end GraphQuery
