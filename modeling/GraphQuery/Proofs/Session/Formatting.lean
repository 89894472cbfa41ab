import GraphQuery.Proofs.Log.Line
import GraphQuery.Proofs.Session.Step
import GraphQuery.Proofs.Store.Data

/-!
Formatting log lines.

An event is a dictionary, and formatting it takes the parts of their own out of it before anything
is known of the rest. Whether there is markup is looked at only in the end, so both forms of a line
fail alike and leave the dictionary alike. If the event is made of data then the changes to the
dictionary cannot be seen in its values, and the line says what it has to say of the event.

* `outcome_formatLine`: what formatting comes to, step by step.
* `answer_formatLine`: what it answers for an event that is made of data.
* `line_formats_agree`: how the two forms are related, and what internal entries have to do with it.
-/

namespace GraphQuery

open LogLine (Tells LooksLike levelOf ofEntries ofEvent remaining visible isShown)
open Operation (formatLine dropInternal)

/-! ### Dictionaries that are replaced -/

/-- The session with other entries in the dictionary of a handle. -/
def Session.withEntries (s : Session) (h : Nat) (entries : List (Value × Value)) : Session :=
  { s with store := s.store.replace h (.dict entries) }

namespace Session

variable (s : Session) (h : Nat) (entries entries' : List (Value × Value))

/-- Of two changes the later one counts. -/
theorem withEntries_withEntries :
    (s.withEntries h entries).withEntries h entries' = s.withEntries h entries' := by
  simp [withEntries, Store.replace]

theorem get?_withEntries (lt : h < s.store.next) :
    (s.withEntries h entries).store.get? h = some (.dict entries) :=
  Store.get?_replace_self lt _

end Session

/-! ### What formatting comes to -/

/-- What a dictionary holds. -/
theorem Store.content_of_dict {s : Store} {h : Nat} {entries : List (Value × Value)}
    (found : s.get? h = some (.dict entries)) : s.content h = .dict entries := by
  rw [content, found]
  rfl

section Formatting

variable {s : Session} {h : Nat} {entries : List (Value × Value)}

section Steps

variable (content : s.store.content h = .dict entries)
include content

/-- The level is taken out of the dictionary first, then everything else that is a part of its own,
and only then the rest is looked at. -/
theorem outcome_formatLine (markup : Value) :
    let begun := s.withEntries h (Value.remove entries "level")
    let left := s.withEntries h (remaining entries)
    s.outcome (formatLine (.object h) markup) =
      match levelOf begun.store.view entries with
      | .error f => (.error f, begun)
      | .ok level =>
        match ofEntries left.store.view level entries with
        | .error f => (.error f, left)
        | .ok line => (.ok ⟨line.render (markup.truth left.store.view),
            (remaining entries).map (·.1)⟩, left) := by
  intro begun left
  unfold formatLine
  rw [Session.outcome_bind_of_ok s.outcome_view]
  simp only [Value.content, show s.store.view.content h = _ from content]
  rw [Session.outcome_bind_of_ok (s.outcome_replace h _)]
  change begun.outcome _ = _
  have first := begun.outcome_check fun view => levelOf view entries
  cases level : levelOf begun.store.view entries with
  | error f => exact Session.outcome_bind_of_error (first.trans (congrArg (·, begun) level))
  | ok word =>
    rw [Session.outcome_bind_of_ok (first.trans (congrArg (·, begun) level)),
      Session.outcome_bind_of_ok (begun.outcome_replace h _)]
    change (begun.withEntries h _).outcome _ = _
    rw [s.withEntries_withEntries h]
    change left.outcome _ = _
    have second := left.outcome_check fun view => ofEntries view word entries
    cases line : ofEntries left.store.view word entries with
    | error f =>
      simp only [line]
      exact Session.outcome_bind_of_error (second.trans (congrArg (·, left) line))
    | ok line' =>
      simp only [line]
      exact Session.outcome_bind_of_ok (second.trans (congrArg (·, left) line))

/-- Entries are taken out of the dictionary and nothing else happens to the session. They are the
parts of their own, unless already the level cannot be told. -/
theorem exists_left_of_formatLine (markup : Value) :
    ∃ left, (s.outcome (formatLine (.object h) markup)).2 = s.withEntries h left ∧
      left.Sublist entries ∧
      ∀ p, (s.outcome (formatLine (.object h) markup)).1 = .ok p →
        left = remaining entries ∧ p.remaining = left.map (·.1) := by
  rw [outcome_formatLine content]
  cases levelOf (s.withEntries h (Value.remove entries "level")).store.view entries with
  | error f => exact ⟨_, rfl, List.filter_sublist, nofun⟩
  | ok level =>
    dsimp only
    have sublist : (remaining entries).Sublist entries :=
      List.filter_sublist.trans <| List.filter_sublist.trans <| List.filter_sublist.trans
        List.filter_sublist
    cases ofEntries (s.withEntries h (remaining entries)).store.view level entries with
    | error f => exact ⟨_, rfl, sublist, nofun⟩
    | ok line =>
      refine ⟨_, rfl, sublist, fun p ok => ?_⟩
      cases ok
      exact ⟨rfl, rfl⟩

/-- Taking out internal entries changes the dictionary in place, and leaves it alone if it
fails. -/
theorem outcome_dropInternal :
    s.outcome (dropInternal (.object h)) =
      match visible entries with
      | .error f => (.error f, s)
      | .ok kept => (.ok (.object h), s.withEntries h kept) := by
  unfold dropInternal
  rw [Session.outcome_bind_of_ok s.outcome_view]
  simp only [Value.entries?, Value.content, show s.store.view.content h = _ from content]
  cases kept : visible entries with
  | error f => exact Session.outcome_bind_of_error (s.outcome_settle _)
  | ok kept' =>
    rw [Session.outcome_bind_of_ok (s.outcome_settle _)]
    rfl

end Steps

/-- Internal entries can be taken out just in case all names are texts. What is left is in its old
order, and a second time nothing more is taken out. -/
theorem answer_dropInternal (found : s.store.get? h = some (.dict entries)) :
    let dropped := s.outcome (dropInternal (.object h))
    (∀ f, dropped.1 = .error f → dropped.2 = s) ∧
    ((∃ v, dropped.1 = .ok v) ↔ ∀ e ∈ entries, e.1.name?.isSome) ∧
    ∀ v, dropped.1 = .ok v → v = .object h ∧
      dropped.2.store.get? h = some (.dict (entries.filter isShown)) ∧
      dropped.2.outcome (dropInternal (.object h)) = (.ok (.object h), dropped.2) := by
  intro dropped
  have drops : dropped = _ := outcome_dropInternal (Store.content_of_dict found)
  cases result : visible entries with
  | error f =>
    have unnamed : ¬ ∀ e ∈ entries, e.1.name?.isSome := by
      intro named
      rw [LogLine.visible_eq_ok_iff.mpr ⟨named, rfl⟩] at result
      cases result
    rw [drops, result]
    exact ⟨fun _ _ => rfl, iff_of_false nofun unnamed, nofun⟩
  | ok kept =>
    obtain ⟨named, rfl⟩ := LogLine.visible_eq_ok_iff.mp result
    have stored := s.get?_withEntries h (entries.filter isShown) (Store.lt_of_get? found)
    have again := outcome_dropInternal (Store.content_of_dict stored)
    rw [LogLine.visible_visible result] at again
    rw [drops, result]
    refine ⟨nofun, iff_of_true ⟨_, rfl⟩ named, fun v ok => ?_⟩
    cases ok
    exact ⟨rfl, stored, again.trans (congrArg (Prod.mk _) (s.withEntries_withEntries h _ _))⟩

/-- Whether there is markup has no say in what formatting leaves behind, nor in whether it fails. -/
theorem formatLine_markup (s : Session) (event : Value) :
    let plain := s.outcome (formatLine event (.bool false))
    let rich := s.outcome (formatLine event (.bool true))
    rich.2 = plain.2 ∧ ∀ f, rich.1 = .error f ↔ plain.1 = .error f := by
  cases event with
  | atom a mark => exact ⟨rfl, fun _ => .rfl⟩
  | object h =>
    cases content : s.store.content h with
    | dict entries =>
      rw [outcome_formatLine content, outcome_formatLine content]
      cases levelOf (s.withEntries h (Value.remove entries "level")).store.view entries with
      | error f => exact ⟨rfl, fun _ => .rfl⟩
      | ok level =>
        dsimp only
        cases ofEntries (s.withEntries h (remaining entries)).store.view level entries with
        | error f => exact ⟨rfl, fun _ => .rfl⟩
        | ok line => exact ⟨rfl, fun _ => iff_of_false nofun nofun⟩
    | _ =>
      unfold formatLine
      simp only [Session.outcome_bind_of_ok s.outcome_view, Value.content,
        show s.store.view.content h = _ from content, implies_true, and_self]

/-! ### Events that are made of data -/

section Data

variable (data : ∀ e ∈ entries, s.store.IsData h e.2)
include data

/-- The values of an event that is made of data look as before when the dictionary is changed. -/
theorem looksLike_withEntries (entries' : List (Value × Value)) :
    LooksLike s.store.view (s.withEntries h entries').store.view entries :=
  fun e mem => ⟨(data e mem).plain_eq _, (data e mem).truth_eq _⟩

/-- What is answered for an event that is made of data. -/
theorem answer_formatLine (content : s.store.content h = .dict entries) (markup : Bool) :
    (s.outcome (formatLine (.object h) (.bool markup))).1 =
      (fun line => ⟨line.render markup, (remaining entries).map (·.1)⟩) <$>
        ofEvent s.store.view entries := by
  rw [outcome_formatLine content, ofEvent, LogLine.levelOf_congr (looksLike_withEntries data _)]
  cases levelOf s.store.view entries with
  | error f => rfl
  | ok level =>
    simp only [LogLine.ofEntries_congr (looksLike_withEntries data _)]
    change _ = _ <$> ofEntries s.store.view level entries
    cases ofEntries s.store.view level entries <;> rfl

/-- The line of an event is the same if its internal entries are taken out before. Where they cannot
be told from others, there is no line. -/
theorem text_of_dropped (found : s.store.get? h = some (.dict entries)) (markup : Bool) :
    (s.outcome (do formatLine (← dropInternal (.object h)) (.bool markup))).1.toOption.map (·.text) =
      (s.outcome (formatLine (.object h) (.bool markup))).1.toOption.map (·.text) := by
  have content := Store.content_of_dict found
  have dropped := outcome_dropInternal content
  rw [answer_formatLine data content]
  cases ok : visible entries with
  | error f =>
    rw [ok] at dropped
    rw [Session.outcome_bind_of_error dropped]
    cases line : ofEvent s.store.view entries with
    | error g => rfl
    | ok line' =>
      have kept := LogLine.visible_eq_ok_iff.mpr ⟨(LogLine.ofEvent_eq_ok_iff.mp line).named, rfl⟩
      rw [ok] at kept
      cases kept
  | ok kept =>
    rw [ok] at dropped
    rw [Session.outcome_bind_of_ok dropped]
    have fewer : ∀ e ∈ kept, e ∈ entries := by
      obtain ⟨-, rfl⟩ := LogLine.visible_eq_ok_iff.mp ok
      exact fun e mem => List.mem_of_mem_filter mem
    have data' : ∀ e ∈ kept, (s.withEntries h kept).store.IsData h e.2 := fun e mem =>
      (data e (fewer e mem)).of_kept fun g ne => s.store.get?_replace_of_ne ne.symm _
    have content' : (s.withEntries h kept).store.content h = .dict kept :=
      Store.content_of_dict (s.get?_withEntries h kept (Store.lt_of_get? found))
    rw [answer_formatLine data' content', LogLine.ofEvent_congr fun e mem =>
      looksLike_withEntries data kept e (fewer e mem), LogLine.ofEvent_visible _ ok]
    cases ofEvent s.store.view entries <;> rfl

end Data

end Formatting

/-! ### The two forms -/

/-- Formatting an event in the plain form and with markup: whatever the event is, both fail with the
same fault or both succeed, and they leave the same behind. If it is a dictionary whose values are
made of data, then there are lines just in case there is something that a line can say of the event,
and both lines show the same parts, which say just that. Internal entries can be taken out just in
case all names are texts; what is left is in its old order, nothing more is taken out a second time,
and the lines are those of the whole event. -/
theorem line_formats_agree (s : Session) (event : Value) :
    let plain := s.outcome (formatLine event (.bool false))
    let rich := s.outcome (formatLine event (.bool true))
    let dropped := s.outcome (dropInternal event)
    (rich.2 = plain.2 ∧ ∀ f, rich.1 = .error f ↔ plain.1 = .error f) ∧
    ∀ h entries, event = .object h → s.store.get? h = some (.dict entries) →
      (∀ e ∈ entries, s.store.IsData h e.2) →
      (∃ left, plain.2 = s.withEntries h left ∧ left.Sublist entries ∧
        ∀ p, plain.1 = .ok p → left = remaining entries ∧ p.remaining = left.map (·.1)) ∧
      ((∃ p, plain.1 = .ok p) ↔ ∃ line, Tells s.store.view entries line) ∧
      (∀ p, plain.1 = .ok p → ∃ r line, rich.1 = .ok r ∧ Tells s.store.view entries line ∧
        p.text = " ".intercalate (line.layout.map LogPart.plain) ∧
        r.text = " ".intercalate (line.layout.map LogPart.rich) ∧
        r.remaining = p.remaining) ∧
      (∀ f, dropped.1 = .error f → dropped.2 = s) ∧
      ((∃ v, dropped.1 = .ok v) ↔ ∀ e ∈ entries, e.1.name?.isSome) ∧
      (∀ v, dropped.1 = .ok v → v = event ∧
        dropped.2.store.get? h = some (.dict (entries.filter isShown)) ∧
        dropped.2.outcome (dropInternal event) = (.ok event, dropped.2)) ∧
      ∀ markup,
        (s.outcome (do formatLine (← dropInternal event) (.bool markup))).1.toOption.map (·.text) =
          (s.outcome (formatLine event (.bool markup))).1.toOption.map (·.text) := by
  intro plain rich dropped
  obtain ⟨session, faults⟩ := formatLine_markup s event
  refine ⟨⟨session, faults⟩, ?_⟩
  rintro h entries rfl found data
  have content := Store.content_of_dict found
  have plain_eq : plain.1 = _ := answer_formatLine data content false
  obtain ⟨untouched, named, kept⟩ := answer_dropInternal found
  refine ⟨exists_left_of_formatLine content _, ?_, ?_, untouched, named, kept,
    fun markup => text_of_dropped data found markup⟩
  · rw [plain_eq]
    constructor
    · rintro ⟨p, ok⟩
      obtain ⟨line, told, -⟩ := exists_of_map_eq_ok ok
      exact ⟨line, LogLine.ofEvent_eq_ok_iff.mp told⟩
    · rintro ⟨line, tells⟩
      rw [LogLine.ofEvent_eq_ok_iff.mpr tells]
      exact ⟨_, rfl⟩
  · intro p ok
    rw [plain_eq] at ok
    obtain ⟨line, told, rfl⟩ := exists_of_map_eq_ok ok
    have rich_eq : rich.1 = _ := answer_formatLine data content true
    rw [told] at rich_eq
    exact ⟨_, line, rich_eq, LogLine.ofEvent_eq_ok_iff.mp told,
      line.render_false, line.render_true, rfl⟩

/-- An event with a long text, a list and an internal entry. -/
def compiledEntries : List (Value × Value) :=
  [(.text "event", .text "Compiled query"), (.text "level", .text "info"),
    (.text "logger", .text "cypher_compose.statement"),
    (.text "cypher", .text (String.ofList (List.replicate 81 'x'))), (.text "params", .object 1),
    (.text "_record", .int 1)]

/-- A session in which that event is an object. -/
def compiledSession : Session :=
  { Session.initial with store :=
      (Session.initial.store.push (.list [.int 1, .bool true])).push (.dict compiledEntries) }

/-- The two lines for that event: the long text is cut in both, the list is shown, and the internal
entry is not. -/
theorem line_formats_agree_compiled :
    compiledSession.store.get? 2 = some (.dict compiledEntries) ∧
    (∀ e ∈ compiledEntries, compiledSession.store.IsData 2 e.2) ∧
    ∃ p r line,
      (compiledSession.outcome (formatLine (.object 2) (.bool false))).1 = .ok p ∧
      (compiledSession.outcome (formatLine (.object 2) (.bool true))).1 = .ok r ∧
      Tells compiledSession.store.view compiledEntries line ∧
      p.text = " ".intercalate (line.layout.map LogPart.plain) ∧
      p.text = "[statement] INFO Compiled query (cypher=" ++
        String.ofList (List.replicate 77 'x') ++ "..., params=[1, True])" ∧
      r.text = " ".intercalate (line.layout.map LogPart.rich) ∧
      r.text = "[cyan]statement[/cyan] [green]INFO[/green] [bold]Compiled query[/bold] (" ++
        "[dim]cypher[/dim]=" ++ String.ofList (List.replicate 77 'x') ++
        "..., [dim]params[/dim]=[1, True])" := by
  have data : ∀ e ∈ compiledEntries, compiledSession.store.IsData 2 e.2 := by
    have items : ∀ v ∈ [Value.int 1, .bool true], compiledSession.store.IsData 2 v := by
      simpa using ⟨.atom, .atom⟩
    have listed : compiledSession.store.IsData 2 (.object 1) := .list (by decide) rfl items
    simpa [compiledEntries] using ⟨.atom, .atom, .atom, .atom, listed, .atom⟩
  have plain : (compiledSession.outcome (formatLine (.object 2) (.bool false))).1.toOption.map
      (·.text) = some ("[statement] INFO Compiled query (cypher=" ++
        String.ofList (List.replicate 77 'x') ++ "..., params=[1, True])") := by decide +kernel
  have rich : (compiledSession.outcome (formatLine (.object 2) (.bool true))).1.toOption.map
      (·.text) = some ("[cyan]statement[/cyan] [green]INFO[/green] [bold]Compiled query[/bold] (" ++
        "[dim]cypher[/dim]=" ++ String.ofList (List.replicate 77 'x') ++
        "..., [dim]params[/dim]=[1, True])") := by decide +kernel
  refine ⟨rfl, data, ?_⟩
  obtain ⟨-, -, parts, -⟩ := (line_formats_agree compiledSession (.object 2)).2 2 _ rfl rfl data
  cases told : (compiledSession.outcome (formatLine (.object 2) (.bool false))).1 with
  | error f =>
    rw [told] at plain
    cases plain
  | ok p =>
    obtain ⟨r, line, ok, tells, plainText, richText, -⟩ := parts p told
    rw [told] at plain
    rw [ok] at rich
    exact ⟨p, r, line, rfl, ok, tells, plainText, Option.some_inj.mp plain, richText,
      Option.some_inj.mp rich⟩

end GraphQuery
