import GraphQuery.Proofs.Assembly.Conformance
import GraphQuery.Proofs.Naming.Spelling
import GraphQuery.Proofs.Rendering.Shown
import GraphQuery.Proofs.Tree.Whole

/-!
What is written where all stems are identifiers.

A label is written as it is spelt, and so is a key behind its sign. What the library has assembled
suggests nothing but identifiers, so an environment that spells its names goes on to do so.

* `Environment.Spells.shown_label`, `Environment.Spells.shown_key`: a label and a key as they are
  written.
* `Store.Holds`: what is asked about is in the store.
* `Store.write_spelt`: something that the library has assembled, written with such names.
-/

namespace GraphQuery

namespace Environment.Spells

variable {e : Environment}

/-- All names are texts. -/
theorem worded (h : e.Spells) : e.Worded Wording.IsText := by
  refine ⟨fun kind => (h.stems kind).1, fun a mem => ?_⟩
  have formed := h.names a mem
  generalize a.name = name at formed
  cases formed with
  | alone _ isStem => exact isStem.1
  | numbered _ _ => trivial

/-- A label is written as it is spelt. -/
theorem shown_label (h : e.Spells) {r : Reference} (identifies : (Ask.label r).Identifies) :
    (Segment.label (.reference r)).shown e = e.spelling (.label r) := by
  obtain ⟨name, answer, -, written⟩ := h.exists_answer identifies
  change (Registry.labelFor e (.reference r)).answer = .ok name at answer
  simp [Segment.shown, Segment.write, Pen.take, answer, Pen.run, written, Pen.put, Writing.text,
    Piece.written, String.join_cons]

/-- A key is written behind its sign as it is spelt. -/
theorem shown_key (h : e.Spells) {p : Param} (identifies : (Ask.key p).Identifies) :
    (Segment.key p).shown e = "$" ++ e.spelling (.key p) := by
  obtain ⟨name, answer, -, written⟩ := h.exists_answer identifies
  change (Registry.keyFor e p).answer = .ok name at answer
  simp [Segment.shown, Segment.write, Pen.take, answer, Pen.run, written, Pen.put, Writing.text,
    Piece.written, String.join_cons]

end Environment.Spells

/-! ### What is in the store -/

/-- What is asked about is in the store. -/
def Store.Holds (s : Store) : Ask → Prop
  | .label r => s.get? r.id = some (.reference r)
  | .key p => s.get? p.id = some (.param p)

namespace Store

variable {s t : Store} {a b : Ask}

theorem Holds.mono (h : s.Holds a) (grows : s.Grows t) : t.Holds a := by
  cases a with
  | label r => exact grows.get?_eq h
  | key p => exact grows.get?_eq h

/-- What the library has made suggests nothing but identifiers. -/
theorem Holds.identifies (h : s.Holds a) (assembled : s.Assembled) : a.Identifies := by
  cases a with
  | label r => exact fun n eq => assembled.typed.objects h n eq
  | key p => exact fun n eq => assembled.typed.objects h n eq

/-- There is only one instance of each kind behind a handle. -/
theorem Holds.eq_of_same (h : s.Holds a) (h' : s.Holds b) (same : a.Same b) : a = b := by
  obtain ⟨role, id⟩ := same
  cases a with
  | label r =>
    cases b with
    | label r' =>
      have found : s.get? r'.id = some (.reference r) := by
        rw [← show r.id = r'.id from id]
        exact h
      cases found.symm.trans h'
      rfl
    | key p => cases role
  | key p =>
    cases b with
    | label r => cases role
    | key p' =>
      have found : s.get? p'.id = some (.param p) := by rw [← show p.id = p'.id from id]; exact h
      cases found.symm.trans h'
      rfl

/-- What tidy segments ask about is in the store. -/
theorem holds_of_mem_asks {t : Template} (tidy : ∀ segment ∈ t, segment.Tidy s.grounds) :
    ∀ a ∈ t.asks, s.Holds a := by
  intro a mem
  obtain ⟨segment, segment_mem, asks⟩ := List.mem_filterMap.mp mem
  have grounded := tidy segment segment_mem
  cases segment with
  | label b | item b =>
    obtain ⟨r, rfl, found⟩ := grounded
    cases asks
    exact found
  | key p =>
    cases asks
    exact grounded
  | _ => cases asks

/-- Something that the library has assembled and in which nothing is stuck is written where all
stems are identifiers. It asks about what is in the store, and its text is what it shows under the
names that are known later. -/
theorem write_spelt (assembled : s.Assembled) {h : Nat} (whole : (s.tree h).isWhole = true)
    {e : Environment} (spells : e.Spells)
    (separator : ∀ segment ∈ s.template h, segment.isSeparating → e.separator.IsText) :
    (s.write h e).fault? = none ∧ (∀ a ∈ (s.template h).asks, s.Holds a) ∧
    (s.write h e).pen.env = e.after (s.template h).asks ∧
    ∀ e', (s.write h e).pen.env.Extends e' → (s.write h e).text = (s.template h).shown e' := by
  have noFault : ∀ f, .fault f ∉ s.template h := by
    rw [← Template.isSound_iff, Store.template, Tree.isSound_template, whole]
  have blank : Pen.IsClean ⟨e, []⟩ := fun _ mem => absurd mem List.not_mem_nil
  have worded : (Pen.mk e []).env.Worded Wording.IsText := spells.worded
  obtain ⟨ok, text⟩ := Template.fill_text worded blank separator noFault
  have tidy : Template.Tidy s.grounds (s.template h) :=
    (assembled.sound.tree_clean h).template.tidy
  have segments := tidy.of_mem ok
  exact ⟨ok, holds_of_mem_asks segments,
    Template.fill_after (fun segment mem => (segments segment mem).references) ok, text⟩

end Store

end GraphQuery
