import GraphQuery.Proofs.Text.Token
import GraphQuery.Session.Request

/-!
Names as one token of a query.

A reader that stands at a name takes a backtick as the beginning of a quoted name, in which two
backticks are one character, and otherwise takes as many characters as can belong to a name. It has
read the name if it stops where the name was written to end.

* `Text.IsToken`: the ways to write a name, as it is or between backticks.
* `Text.NameReader`: a reader of names. Readers differ in the letters that they let stand in names.
* `Text.Accepted`: the texts that pass as an identifier in one of the places that check for one.
* `Text.TrailsFeed`: the names that are let pass although a line feed stands behind them.
* `Text.name_read_back_iff`: these are the only names that are not read back.
-/

namespace GraphQuery.Text

/-! ### Ways to write a name -/

/-- The characters with every backtick doubled. -/
inductive Doubled : List Char → List Char → Prop where
  | nil : Doubled [] []
  | backtick {cs ds : List Char} (h : Doubled cs ds) :
      Doubled (Text.backtick :: cs) (Text.backtick :: Text.backtick :: ds)
  | other {c : Char} {cs ds : List Char} (ne : c ≠ Text.backtick) (h : Doubled cs ds) :
      Doubled (c :: cs) (c :: ds)

/-- The text is one token for the name: the name as it is, or the name between backticks. -/
inductive IsToken (s : String) : String → Prop where
  | plain (h : isPlainName s.toList) : IsToken s s
  | quoted {inner : List Char} (h : Doubled s.toList inner) :
      IsToken s (String.ofList (backtick :: inner ++ [backtick]))

theorem doubled_flatMap (cs : List Char) : Doubled cs (cs.flatMap escapedChar) := by
  induction cs with
  | nil => exact .nil
  | cons c cs ih =>
    rw [List.flatMap_cons]
    by_cases isBacktick : c = backtick
    · subst isBacktick
      exact .backtick ih
    · rw [escapedChar, if_neg isBacktick]
      exact .other isBacktick ih

theorem backtick_not_isNameStart : ¬ isNameStart backtick := by decide

/-- A plain name begins with a character that names begin with, and goes on with characters of
names. -/
theorem exists_cons_of_isPlainName {cs : List Char} (h : isPlainName cs) :
    ∃ c rest, cs = c :: rest ∧ isNameStart c ∧ ∀ d ∈ rest, isNameChar d := by
  cases cs with
  | nil => cases h
  | cons c rest =>
    simp only [isPlainName, Bool.and_eq_true, List.all_eq_true] at h
    exact ⟨c, rest, rfl, h⟩

/-! ### Reading a name -/

/-- Which characters an unquoted name begins with, and which it goes on with. Both include those of
identifiers, and a line feed always ends a name. -/
structure NameReader where
  starts : Char → Bool
  continues : Char → Bool
  starts_of_isNameStart : ∀ c, isNameStart c → starts c
  continues_of_isNameChar : ∀ c, isNameChar c → continues c
  continues_feed : continues '\n' = false

/-- The characters up to the backtick that ends a quoted name, and what is left. -/
def readQuoted : List Char → Option (List Char × List Char)
  | [] => none
  | [c] => if c = backtick then some ([], []) else none
  | c :: d :: rest =>
    if c = backtick then
      if d = backtick then (readQuoted rest).map (Prod.map (backtick :: ·) id)
      else some ([], d :: rest)
    else (readQuoted (d :: rest)).map (Prod.map (c :: ·) id)

namespace NameReader

/-- The reader of names that are made of letters, digits and underscores of the seven-bit set. -/
def sevenBit : NameReader := ⟨isNameStart, isNameChar, fun _ h => h, fun _ h => h, by decide⟩

variable (r : NameReader)

/-- The name at the beginning of a text, and what is left. -/
def read? : List Char → Option (String × List Char)
  | [] => none
  | c :: cs =>
    if c = backtick then (readQuoted cs).map (Prod.map String.ofList id)
    else if r.starts c then
      some (String.ofList (c :: cs.takeWhile r.continues), cs.dropWhile r.continues)
    else none

/-- The text ends a name in front of it: it does not begin with a character that a name goes on
with, nor with a backtick. -/
def Ends (rest : List Char) : Prop := ∀ c ∈ rest.head?, r.continues c = false ∧ c ≠ backtick

/-- The text is read as the name and as nothing else, whatever ends it. -/
def Reads (text name : String) : Prop :=
  ∀ rest, r.Ends rest → r.read? (text.toList ++ rest) = some (name, rest)

end NameReader

/-- A quoted name is read up to the backtick that is not followed by another one. -/
theorem readQuoted_of_doubled {cs ds rest : List Char} (h : Doubled cs ds)
    (stops : ∀ c ∈ rest.head?, c ≠ backtick) :
    readQuoted (ds ++ backtick :: rest) = some (cs, rest) := by
  induction h with
  | nil =>
    cases rest with
    | nil => simp [readQuoted]
    | cons c rest => simp [readQuoted, stops c rfl]
  | backtick h ih => simp [readQuoted, ih]
  | @other c cs ds ne h ih =>
    -- What follows is never empty, as there is the backtick that ends the name.
    obtain ⟨d, tail, eq⟩ := List.exists_cons_of_ne_nil (l := ds ++ backtick :: rest) (by simp)
    rw [List.cons_append, eq, readQuoted, if_neg ne, ← eq, ih]
    rfl

namespace NameReader

variable (r : NameReader)

/-- A plain name is taken up to the first character that no name goes on with. -/
theorem read?_of_isPlainName {cs rest : List Char} (plain : isPlainName cs)
    (stops : ∀ c ∈ rest.head?, r.continues c = false) :
    r.read? (cs ++ rest) = some (String.ofList cs, rest) := by
  obtain ⟨c, tail, rfl, first, others⟩ := exists_cons_of_isPlainName plain
  have noBacktick : c ≠ backtick := by
    rintro rfl
    exact backtick_not_isNameStart first
  have continues : ∀ d ∈ tail, r.continues d :=
    fun d mem => r.continues_of_isNameChar d (others d mem)
  have taken : (tail ++ rest).takeWhile r.continues = tail ∧
      (tail ++ rest).dropWhile r.continues = rest := by
    rw [List.takeWhile_append_of_pos continues, List.dropWhile_append_of_pos continues]
    cases rest with
    | nil => simp
    | cons d rest => simp [stops d rfl]
  rw [List.cons_append, read?, if_neg noBacktick, if_pos (r.starts_of_isNameStart c first),
    taken.1, taken.2]

/-- A token is read as the name that it stands for. -/
theorem reads_of_isToken {s t : String} (h : IsToken s t) : r.Reads t s := by
  intro rest ends
  cases h with
  | plain plain =>
    rw [r.read?_of_isPlainName plain fun c mem => (ends c mem).1, String.ofList_toList]
  | quoted doubled =>
    have inner := readQuoted_of_doubled doubled fun c mem => (ends c mem).2
    simp [read?, inner, String.ofList_toList]

end NameReader

/-! ### Names with a line feed behind them -/

/-- The text is an identifier and a line feed behind it. -/
def TrailsFeed (s : String) : Prop := ∃ p : String, isPlainName p.toList ∧ s = p ++ "\n"

theorem toList_append_feed (p : String) : (p ++ "\n").toList = p.toList ++ ['\n'] :=
  String.toList_append

theorem TrailsFeed.isIdentifier {s : String} (h : TrailsFeed s) : isIdentifier s := by
  obtain ⟨p, plain, rfl⟩ := h
  simp [Text.isIdentifier, plain]

/-- No line feed is part of a plain name. -/
theorem TrailsFeed.not_isPlainName {s : String} (h : TrailsFeed s) : ¬ isPlainName s.toList := by
  obtain ⟨p, -, rfl⟩ := h
  intro plain
  have feed := all_of_isPlainName plain '\n' (by simp)
  revert feed
  decide

/-- What is let pass as an identifier is a plain name, or one with a line feed behind it. -/
theorem isPlainName_or_trailsFeed {s : String} (h : isIdentifier s) :
    isPlainName s.toList ∨ TrailsFeed s := by
  simp only [isIdentifier, Bool.or_eq_true, Bool.and_eq_true, beq_iff_eq] at h
  rcases h with plain | ⟨last, plain⟩
  · exact .inl plain
  · obtain ⟨front, eq⟩ := List.getLast?_eq_some_iff.mp last
    rw [eq, List.dropLast_concat] at plain
    refine .inr ⟨String.ofList front, by rwa [String.toList_ofList], String.toList_injective ?_⟩
    rw [toList_append_feed, String.toList_ofList, eq]

theorem isPlainName_iff_of_isIdentifier {s : String} (h : isIdentifier s) :
    isPlainName s.toList ↔ ¬ TrailsFeed s :=
  ⟨fun plain trails => trails.not_isPlainName plain,
    (isPlainName_or_trailsFeed h).resolve_right⟩

/-- A name without a line feed behind it is written as a token for it. -/
theorem isToken_escaped {s : String} (h : ¬ TrailsFeed s) : IsToken s (escaped s) := by
  unfold escaped
  split
  · rename_i identifier
    exact .plain ((isPlainName_iff_of_isIdentifier identifier).mpr h)
  · exact .quoted (doubled_flatMap s.toList)

theorem TrailsFeed.escaped_eq {s : String} (h : TrailsFeed s) : escaped s = s :=
  if_pos h.isIdentifier

/-- A token that is no plain name begins with a backtick. -/
theorem IsToken.plain_or_backtick {s t : String} (h : IsToken s t) :
    isPlainName s.toList ∨ t.toList.head? = some backtick := by
  cases h with
  | plain plain => exact .inl plain
  | quoted doubled => exact .inr (by simp)

/-- As it stands, a name with a line feed behind it is no token for itself. -/
theorem TrailsFeed.not_isToken {s : String} (h : TrailsFeed s) : ¬ IsToken s s := by
  intro token
  have quoted := token.plain_or_backtick.resolve_left h.not_isPlainName
  obtain ⟨p, plain, rfl⟩ := h
  obtain ⟨c, tail, cons, first, -⟩ := exists_cons_of_isPlainName plain
  rw [toList_append_feed, cons] at quoted
  exact backtick_not_isNameStart (Option.some.inj quoted ▸ first)

/-- A reader takes what stands in front of the line feed. -/
theorem NameReader.read?_of_feed (r : NameReader) {p : String} (plain : isPlainName p.toList)
    (rest : List Char) : r.read? ((p ++ "\n").toList ++ rest) = some (p, '\n' :: rest) := by
  rw [toList_append_feed, List.append_assoc, List.singleton_append,
    r.read?_of_isPlainName plain, String.ofList_toList]
  rintro _ ⟨⟩
  exact r.continues_feed

theorem TrailsFeed.not_reads {s : String} (h : TrailsFeed s) (r : NameReader) :
    ¬ r.Reads s s := by
  obtain ⟨p, plain, rfl⟩ := h
  intro reads
  have same := (r.read?_of_feed plain []).symm.trans (reads [] fun _ mem => by cases mem)
  have left := congrArg Prod.snd (Option.some.inj same)
  cases left

end GraphQuery.Text

namespace GraphQuery

/-! ### Checks for identifiers -/

namespace Operation

variable {α β : Type}

/-- The operation fails in every session. -/
def Fails (m : Operation α) : Prop := ∀ σ a, (m.run.run σ).1 ≠ .ok a

theorem Fails.throw (f : Fault) : Fails (throw f : Operation α) := by
  rintro σ a ⟨⟩

/-- It does not matter what comes before a failure. -/
theorem Fails.bind {m : Operation α} {next : α → Operation β} (h : ∀ a, Fails (next a)) :
    Fails (m >>= next) := by
  intro σ b
  change (ExceptT.bindCont next (m.run.run σ).1 (m.run.run σ).2).1 ≠ .ok b
  generalize m.run.run σ = result
  obtain ⟨a | f, τ⟩ := result
  · rintro ⟨⟩
  · exact h _ τ b

end Operation

section Checks

variable {view : ObjectView} {s : String} {v : Value}

/-- A name passes a check for identifiers only if it is one. -/
theorem isIdentifier_of_checkIdentifier {role : String} {n : Name} (text : v.text? = some s)
    (h : checkIdentifier view role v = .ok n) : Text.isIdentifier s := by
  unfold checkIdentifier at h
  split at h
  · rename_i m passes
    obtain ⟨named, valid⟩ := Option.filter_eq_some_iff.mp passes
    rw [Value.text?, named] at text
    exact Option.some.inj text ▸ valid
  · generalize v.quoted view = shown at h
    cases shown <;> cases h

theorem isIdentifier_of_stem {role : String} {n : Name} (text : v.text? = some s)
    (h : checkStem view role v = .ok (some n)) : Text.isIdentifier s := by
  unfold checkStem at h
  split at h
  · cases h
  · rename_i w given
    have same : v = w := by
      unfold Value.given? at given
      split at given
      · cases given
      · exact Option.some.inj given
    subst same
    cases checked : checkIdentifier view role v with
    | ok m => exact isIdentifier_of_checkIdentifier text checked
    | error f => rw [checked] at h; cases h

theorem isIdentifier_of_accept (h : SettingRule.stem.accept v = .ok (.text s)) :
    Text.isIdentifier s := by
  unfold SettingRule.accept at h
  cases accepted : acceptText v with
  | error o => rw [accepted] at h; cases h
  | ok t =>
    rw [accepted] at h
    by_cases valid : Text.isIdentifier t
    · simp only [bind, Except.bind, if_pos valid] at h
      cases h
      exact valid
    · simp only [bind, Except.bind, if_neg valid] at h
      cases h

/-- A text is taken in a role only if it is an identifier. -/
theorem isIdentifier_of_identifier {role a : Value} {σ : Session} (text : v.text? = some s)
    (h : ((Operation.identifier v role).run.run σ).1 = .ok a) : Text.isIdentifier s := by
  by_contra invalid
  have refused : (some s).filter Text.isIdentifier = none := by simpa using invalid
  unfold Operation.identifier at h
  rw [text, refused] at h
  -- The texts of a message are worked out in front of the refusal, and may fail themselves.
  refine Operation.Fails.bind (fun plainRole => .bind fun quoted => ?_) σ a h
  split
  · exact .throw _
  · exact .bind fun role => .throw _

end Checks

end GraphQuery

namespace GraphQuery.Text

/-- The text passes as an identifier: when it is asked about, in a role that is named, as the name
of a column, as a name stem, or in a setting. -/
inductive Accepted (s : String) : Prop where
  | asked {v : Value} (σ : Session) (text : v.text? = some s)
      (h : ((Request.isIdentifier v).perform.run.run σ).1 = .ok (.value (.bool true)))
  | named {v role a : Value} (σ : Session) (text : v.text? = some s)
      (h : ((Operation.identifier v role).run.run σ).1 = .ok a)
  | column {view : ObjectView} {role : String} {v : Value} {n : Name} (text : v.text? = some s)
      (h : checkIdentifier view role v = .ok n)
  | stem {view : ObjectView} {role : String} {v : Value} {n : Name} (text : v.text? = some s)
      (h : checkStem view role v = .ok (some n))
  | setting {v : Value} (h : SettingRule.stem.accept v = .ok (.text s))

theorem operation_text {v : Value} {s : String} (text : v.text? = some s) :
    Operation.text v = pure s := by
  unfold Operation.text
  rw [text]

/-- Whether a text is an identifier is answered in every session, and changes nothing. -/
theorem perform_isIdentifier {v : Value} {s : String} (text : v.text? = some s) (σ : Session) :
    (Request.isIdentifier v).perform.run.run σ = (.ok (.value (.bool (isIdentifier s))), σ) := by
  change ((do return .value (.bool (isIdentifier (← Operation.text v)))) :
    Operation Answer).run.run σ = _
  rw [operation_text text]
  rfl

/-- A name is quoted in every session, which changes nothing. -/
theorem perform_escaped {v : Value} {s : String} (text : v.text? = some s) (σ : Session) :
    ∃ w : Value, (Request.escaped v).perform.run.run σ = (.ok (.value w), σ) ∧
      w.text? = some (escaped s) := by
  change ∃ w : Value, (Answer.value <$> Operation.escaped v).run.run σ = _ ∧ _
  unfold Operation.escaped
  rw [operation_text text, pure_bind]
  by_cases identifier : isIdentifier s
  · rw [if_pos identifier]
    exact ⟨v, rfl, by rw [text, escaped, if_pos identifier]⟩
  · rw [if_neg identifier]
    exact ⟨.text (escaped s), rfl, rfl⟩

/-- All these places check the same. -/
theorem accepted_iff {s : String} : Accepted s ↔ isIdentifier s := by
  constructor
  · intro h
    cases h with
    | asked σ text h =>
      rw [perform_isIdentifier text] at h
      injection h with h
      injection h with h
      injection h with h
      injection h
    | named σ text h => exact isIdentifier_of_identifier text h
    | column text h => exact isIdentifier_of_checkIdentifier text h
    | stem text h => exact isIdentifier_of_stem text h
    | setting h => exact isIdentifier_of_accept h
  · intro identifier
    have answer := perform_isIdentifier (v := .text s) (s := s) rfl .initial
    rw [identifier] at answer
    exact .asked .initial rfl (congrArg Prod.fst answer)

/-! ### Names that are read back -/

/-- A name with a line feed behind it is all that is not read back. Every other name is written as
one token for it, and a reader takes exactly that token, whatever ends it; so is every text that
passes as an identifier, which then is a plain name. Of a name with a line feed behind it, which
passes everywhere and is written as it is, a reader takes what stands in front of the line feed. -/
theorem name_read_back_iff (r : NameReader) (s : String) :
    (IsToken s (escaped s) ↔ ¬ TrailsFeed s) ∧
    (r.Reads (escaped s) s ↔ ¬ TrailsFeed s) ∧
    (∀ (v : Value) (σ : Session), v.text? = some s →
      ∃ w : Value, (Request.escaped v).perform.run.run σ = (.ok (.value w), σ) ∧
        w.text? = some (escaped s)) ∧
    (Accepted s →
      (isPlainName s.toList ↔ ¬ TrailsFeed s) ∧ (r.Reads s s ↔ ¬ TrailsFeed s)) ∧
    (∀ p : String, isPlainName p.toList → s = p ++ "\n" →
      Accepted s ∧ escaped s = s ∧ ∀ rest, r.read? (s.toList ++ rest) = some (p, '\n' :: rest)) := by
  refine ⟨⟨fun token trails => ?_, isToken_escaped⟩,
    ⟨fun reads trails => ?_, fun clean => r.reads_of_isToken (isToken_escaped clean)⟩,
    fun v σ text => perform_escaped text σ, fun accepted => ?_, ?_⟩
  · rw [trails.escaped_eq] at token
    exact trails.not_isToken token
  · rw [trails.escaped_eq] at reads
    exact trails.not_reads r reads
  · have plain_iff := isPlainName_iff_of_isIdentifier (accepted_iff.mp accepted)
    exact ⟨plain_iff, fun reads trails => trails.not_reads r reads,
      fun clean => r.reads_of_isToken (.plain (plain_iff.mpr clean))⟩
  · rintro p plain rfl
    have trails : TrailsFeed (p ++ "\n") := ⟨p, plain, rfl⟩
    exact ⟨accepted_iff.mpr trails.isIdentifier, trails.escaped_eq, r.read?_of_feed plain⟩

/-- In front of a parenthesis, a name with a backtick in it is read back, and a name with a line
feed behind it is cut. -/
theorem name_read_back_iff_parenthesis :
    NameReader.sevenBit.Ends [')'] ∧
    NameReader.sevenBit.read? ((escaped "a\x60b").toList ++ [')']) = some ("a\x60b", [')']) ∧
    isPlainName "a".toList ∧ Accepted "a\n" ∧
    NameReader.sevenBit.read? ((escaped "a\n").toList ++ [')']) = some ("a", ['\n', ')']) := by
  have ends : NameReader.sevenBit.Ends [')'] := by
    rintro _ ⟨⟩
    decide
  have clean : ¬ TrailsFeed "a\x60b" := by
    intro trails
    have identifier := trails.isIdentifier
    revert identifier
    decide
  have plain : isPlainName "a".toList := by decide
  obtain ⟨accepted, same, cut⟩ :=
    (name_read_back_iff .sevenBit "a\n").2.2.2.2 "a" plain rfl
  exact ⟨ends, (name_read_back_iff .sevenBit "a\x60b").2.1.mpr clean [')'] ends, plain, accepted,
    same.symm ▸ cut [')']⟩

/-- A letter with a line feed behind it is written without quotes, but it is no token, no plain
name, and not read back. -/
theorem letter_and_feed_unquoted :
    isIdentifier "a\n" ∧ escaped "a\n" = "a\n" ∧ ¬ isPlainName "a\n".toList ∧
      ¬ IsToken "a\n" (escaped "a\n") ∧
      ¬ NameReader.sevenBit.Reads (escaped "a\n") "a\n" := by
  have trails : TrailsFeed "a\n" := ⟨"a", by decide, rfl⟩
  rw [trails.escaped_eq]
  exact ⟨trails.isIdentifier, rfl, trails.not_isPlainName, trails.not_isToken,
    trails.not_reads .sevenBit⟩

end GraphQuery.Text
