import GraphQuery.Markup.Literal
import GraphQuery.Markup.Style

/-!
Console markup: a text in which tags in square brackets switch styles on and off.

A tag begins with a small letter or one of three signs and ends at the next closing bracket; an odd
number of backslashes in front of it makes it plain text. A tag with a slash closes the last open
tag of the same style, or the last open tag of all if it names none. What is still open at the end
is let be. A tag with an at sign names an action, and behind an equality sign what the action is
given; when it is closed, that has to be a literal.

* `Markup.tags`: the tags of a text.
* `Markup.check`: the fault of a text whose tags are wrong.
-/

namespace GraphQuery.Markup

/-- A tag: what it says, and what stands behind the equality sign if it has one. -/
structure Tag where
  name : String
  parameters? : Option String
  deriving DecidableEq, Repr

namespace Tag

/-- The tag with these characters between its brackets. -/
def ofInside (cs : List Char) : Tag :=
  let name := cs.takeWhile (· != '=')
  ⟨String.ofList name,
    if name.length = cs.length then none else some (String.ofList (cs.drop (name.length + 1)))⟩

/-- What the tag closes, if it is a closing one: a style, or nothing in particular. -/
def closes? (t : Tag) : Option (List Char) :=
  match t.name.toList with
  | '/' :: cs => some (Text.stripped cs)
  | _ => none

/-- The tag with its name in the normal form of a style. -/
def normal (t : Tag) : Except Fault Tag := do
  return { t with name := ← Style.normal t.name }

/-- A character of the name of an action. -/
def isActionChar (c : Char) : Bool := c == '.' || Literal.isWordChar c

/-- What an action is given: what follows its name in parentheses, nothing if only its name is
there, and all of it if there is no name in this way. -/
def actionArguments (parameters : List Char) : List Char :=
  match parameters.dropWhile isActionChar with
  | [] => ['(', ')']
  | c :: cs =>
    if c = '(' ∧ cs.getLast? = some ')' ∧ !cs.contains '\n' then c :: cs else parameters

/-- Closing the tag meets no fault: it names no action, or the action is given literals. -/
def isClosable (t : Tag) : Bool :=
  match t.name.toList, t.parameters? with
  | '@' :: _, some parameters =>
    parameters.isEmpty || Literal.holds (actionArguments (Text.stripped parameters.toList))
  | _, _ => true

end Tag

/-! ### Reading tags -/

/-- Where the reading of a text stands: outside of tags, or behind the bracket that may begin one,
with what was read since, the last character first. `odd` tells that an odd number of backslashes
was read just now, and `escaped` that it was so before the bracket. -/
inductive Reading where
  | outside (odd : Bool)
  | inside (escaped odd : Bool) (read : List Char)
  deriving DecidableEq, Repr

/-- A tag can begin with the character. -/
def beginsTag (c : Char) : Bool := ('a' ≤ c && c ≤ 'z') || ['#', '/', '@'].contains c

namespace Reading

/-- The reading outside of tags, after a character that is no opening bracket. -/
def passed (odd : Bool) (c : Char) : Reading := .outside (c == '\\' && !odd)

/-- The reading after a further character, and the characters of the tag that it ends, if it ends
one that is not plain text. -/
def next : Reading → Char → Reading × Option (List Char)
  | outside odd, c => (if c = '[' then inside odd false [] else passed odd c, none)
  | inside escaped odd read, c =>
    if c = '[' then (inside odd false [], none)
    else if read.isEmpty then
      (if beginsTag c then inside escaped false [c] else passed false c, none)
    else if c = ']' then (outside false, if escaped then none else some read.reverse)
    else (inside escaped (c == '\\' && !odd) (c :: read), none)

end Reading

/-- The tags from a point of the text on. -/
def tagsFrom (r : Reading) : List Char → List Tag
  | [] => []
  | c :: cs => ((r.next c).2.map Tag.ofInside).toList ++ tagsFrom (r.next c).1 cs

/-- The tags of a text. -/
def tags (s : String) : List Tag := tagsFrom (.outside false) s.toList

/-- Where there is no opening bracket, there is no tag. -/
theorem tags_eq_nil {s : String} (h : '[' ∉ s.toList) : tags s = [] := by
  suffices ∀ (cs : List Char) (odd : Bool), '[' ∉ cs → tagsFrom (.outside odd) cs = [] from
    this _ _ h
  intro cs
  induction cs with
  | nil => intro _ _; rfl
  | cons c cs ih =>
    intro odd absent
    have other : c ≠ '[' := fun eq => absent (eq ▸ List.mem_cons_self)
    simp [tagsFrom, Reading.next, Reading.passed, other,
      ih _ fun inside => absent (List.mem_cons_of_mem _ inside)]

/-! ### Closing tags -/

/-- The tags that stay open, the last one first, when one of them is closed. -/
def close (opened : List Tag) (t : Tag) : Except Fault (List Tag) :=
  if t.isClosable then .ok (opened.erase t) else .error .brokenMarkup

/-- The tags that are open after a further one, the last one first. -/
def step (opened : List Tag) (t : Tag) : Except Fault (List Tag) := do
  match t.closes? with
  | none => return (← t.normal) :: opened
  | some [] =>
    match opened with
    | last :: _ => close opened last
    | [] => throw .brokenMarkup
  | some name =>
    let name ← Style.normal (String.ofList name)
    match opened.find? (·.name == name) with
    | some last => close opened last
    | none => throw .brokenMarkup

/-- Every closing tag of the text closes an open one. -/
def check (s : String) : Except Fault Unit := do
  let _ ← (tags s).foldlM step []

end GraphQuery.Markup
