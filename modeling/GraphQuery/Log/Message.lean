import GraphQuery.Value.Equality
import GraphQuery.Value.Rounded
import GraphQuery.Value.Text

/-!
Messages with arguments: a percent sign in the message begins a directive that is replaced by the
text of an argument. Two percent signs stand for one.

A directive names its argument in parentheses or takes the next one, may give flags, a width and a
precision, and ends on a letter that tells the form:

* `s`, `r` and `a` for the text of a value;
* `d`, `i`, `u`, `o`, `x` and `X` for a whole number;
* `e`, `f` and `g`, small or capital, for a number with places;
* `c` for a character.
-/

namespace GraphQuery

/-- How a directive asks for an argument to be written. -/
structure Directive where
  leftAligned : Bool
  zeroFilled : Bool
  signed : Bool
  spaced : Bool
  marked : Bool
  width : Nat
  precision? : Option Nat
  form : Char
  deriving Inhabited

namespace Directive

/-- A text brought to the width of the directive. -/
def padded (d : Directive) (cs : List Char) : List Char :=
  let fill := List.replicate (d.width - cs.length) ' '
  if d.leftAligned then cs ++ fill else fill ++ cs

/-- A text, cut to the precision. -/
def text (d : Directive) (s : String) : List Char :=
  d.padded (match d.precision? with
    | some n => s.toList.take n
    | none => s.toList)

/-- A number with its sign and its mark in front, brought to the width of the directive. Noughts
that fill it stand behind the sign and the mark. -/
def number (d : Directive) (negative : Bool) (mark digits : List Char) : List Char :=
  let sign := if negative then ['-'] else if d.signed then ['+'] else if d.spaced then [' '] else []
  let head := sign ++ mark
  if d.zeroFilled && !d.leftAligned then
    head ++ List.replicate (d.width - head.length - digits.length) '0' ++ digits
  else d.padded (head ++ digits)

/-- A whole number in a base, with the mark of the base if that is asked for. -/
def whole (d : Directive) (base : Nat) (mark : List Char) (i : Int) : List Char :=
  let digits := Nat.toDigits base i.natAbs
  let digits := List.replicate (d.precision?.getD 0 - digits.length) '0' ++ digits
  d.number (i < 0) (if d.marked then mark else []) digits

/-- A number with places. -/
def places (d : Directive) (v : Decimal) : List Char :=
  let (num, den) := v.fraction
  let precision := d.precision?.getD 6
  d.number v.negative []
    (if d.form = 'f' ∨ d.form = 'F' then Decimal.fixedText d.marked precision num den
    else if d.form = 'e' ∨ d.form = 'E' then Decimal.exponentialText d.marked precision num den
    else Decimal.generalText d.marked precision num den)

/-- The number that an argument is: a floating-point number, or a whole one that is rounded to one.
An infinite or undefined one is a text with a sign. -/
def realNumber (v : Value) : Except Fault (Decimal ⊕ Bool × String) :=
  match v, v.int? with
  | .atom (.float s) _, _ =>
    match Decimal.ofText? s with
    | some x => .ok (.inl x)
    | none => .ok (.inr (s.startsWith "-", if s.endsWith "inf" then "inf" else "nan"))
  | _, some i =>
    let x : Decimal := ⟨i < 0, i.natAbs, 0⟩
    if x.isInfinite then .error .outOfRange else .ok (.inl x)
  | _, none => .error .wrongType

/-- A text with every character outside the seven-bit set written by its number. -/
def narrowed (s : String) : String :=
  String.ofList (s.toList.flatMap fun c => if c.toNat < 0x80 then [c] else Text.numbered c)

/-- The whole number that a value stands for; the fraction of a number is cut off if `cut`. -/
def wholeNumber (cut : Bool) (v : Value) : Except Fault Int :=
  match v with
  | .atom (.float s) _ =>
    if cut then
      match Decimal.ofText? s with
      | some x => .ok x.truncated
      | none => .error (if s.endsWith "inf" then .outOfRange else .wrongValue)
    else .error .wrongType
  | v =>
    match v.int? with
    | some i => .ok i
    | none => .error .wrongType

/-- The character that a value stands for, by itself or by its number. -/
def character (v : Value) : Except Fault Char :=
  match v, v.name?.map fun n => n.word.toList with
  | _, some [c] => .ok c
  | .atom (.int i) _, none =>
    if 0 ≤ i ∧ i < 0x110000 then .ok (Char.ofNat i.toNat) else .error .outOfRange
  | .atom (.bool b) _, none => .ok (Char.ofNat (if b then 1 else 0))
  | _, _ => .error .wrongType

/-- An argument as the directive asks for it, in small letters. -/
def write (view : ObjectView) (d : Directive) (v : Value) : Except Fault (List Char) :=
  match d.form with
  | 's' => d.text <$> v.plain view
  | 'r' => d.text <$> v.quoted view
  | 'a' => (fun s => d.text (narrowed s)) <$> v.quoted view
  | 'd' | 'i' | 'u' => d.whole 10 [] <$> wholeNumber true v
  | 'o' => d.whole 8 ['0', 'o'] <$> wholeNumber false v
  | 'x' | 'X' => d.whole 16 ['0', 'x'] <$> wholeNumber false v
  | 'e' | 'f' | 'g' | 'E' | 'F' | 'G' => do
    match ← realNumber v with
    | .inl x => return d.places x
    | .inr (negative, s) => return d.number negative [] s.toList
  | 'c' => do return d.padded [← character v]
  | _ => .error .wrongValue

/-- An argument as the directive asks for it. A capital form is in capitals throughout. -/
def written (view : ObjectView) (d : Directive) (v : Value) : Except Fault (List Char) := do
  let cs ← d.write view v
  return if ['X', 'E', 'F', 'G'].contains d.form then cs.map Char.toUpper else cs

end Directive

/-- What is left of a message and of its arguments. `named?` is what arguments are looked up in by
name. -/
structure Directives where
  rest : List Char
  next : List Value
  named? : Option Value

namespace Directives

/-- Takes the digits of a number, or a star and the argument that it asks for. The number has to be
less than a limit. -/
def count (limit : Nat) (s : Directives) : Except Fault (Option Int × Directives) :=
  match s.rest, s.next with
  | '*' :: cs, v :: vs =>
    match v with
    | .atom (.int i) _ =>
      if -limit ≤ i ∧ i < limit then .ok (some i, { s with rest := cs, next := vs })
      else .error .outOfRange
    | .atom (.bool b) _ => .ok (some (if b then 1 else 0), { s with rest := cs, next := vs })
    | _ => .error .wrongType
  | '*' :: _, [] => .error .wrongType
  | cs, _ =>
    let digits := cs.takeWhile Char.isDigit
    let n := Decimal.natOfDigits digits
    if n < limit then
      .ok (if digits.isEmpty then none else some n, { s with rest := cs.dropWhile Char.isDigit })
    else .error .wrongValue

/-- The name in parentheses, up to the parenthesis that closes it, and what follows. -/
def nameIn : Nat → List Char → Option (List Char × List Char)
  | _, [] => none
  | 0, ')' :: cs => some ([], cs)
  | depth + 1, ')' :: cs => (nameIn depth cs).map fun r => (')' :: r.1, r.2)
  | depth, '(' :: cs => (nameIn (depth + 1) cs).map fun r => ('(' :: r.1, r.2)
  | depth, c :: cs => (nameIn depth cs).map fun r => (c :: r.1, r.2)

/-- What is stored under a name. Only a dictionary has names. -/
def named (view : ObjectView) (table : Value) (name : String) : Except Fault Value :=
  match table.entries? view with
  | some entries => (Value.lookup? entries name).elim (.error .missingKey) .ok
  | none => .error .wrongType

/-- Takes the name of an argument, if one is given, and makes that argument the only one. -/
def address (view : ObjectView) (s : Directives) : Except Fault Directives :=
  match s.rest, s.named? with
  | '(' :: cs, some table =>
    match nameIn 0 cs with
    | some (name, cs) => do
      return { s with rest := cs, next := [← named view table (String.ofList name)] }
    | none => .error .wrongValue
  | '(' :: _, none => .error .wrongType
  | _, _ => .ok s

/-- Takes a precision, if one is given. -/
def precision (s : Directives) : Except Fault (Option Nat × Directives) :=
  match s.rest with
  | '.' :: cs => do
    let (n?, s) ← count (Nat.pow 2 31) { s with rest := cs }
    return (some (n?.getD 0).toNat, s)
  | _ => return (none, s)

/-- Takes a directive behind its percent sign, and writes the argument that it is for. -/
def directive (view : ObjectView) (s : Directives) : Except Fault (List Char × Directives) := do
  let s ← s.address view
  let flags := s.rest.takeWhile fun c => ['#', '0', '-', ' ', '+'].contains c
  let (width?, s) ← count (Nat.pow 2 63) { s with rest := s.rest.drop flags.length }
  let (precision?, s) ← s.precision
  let rest := match s.rest with
    | 'h' :: cs | 'l' :: cs | 'L' :: cs => cs
    | cs => cs
  match rest, s.next with
  | [], _ => throw .wrongValue
  | form :: cs, v :: vs =>
    let width := width?.getD 0
    let d : Directive := ⟨flags.contains '-' || width < 0, flags.contains '0', flags.contains '+',
      flags.contains ' ', flags.contains '#', width.natAbs, precision?, form⟩
    return (← d.written view v, { s with rest := cs, next := vs })
  | _ :: _, [] => throw .wrongType

/-- Replaces the directives of a message, at most `fuel` of its characters and directives. In the
end no argument may be left over, unless arguments have names. -/
def replaceAll (view : ObjectView) : Nat → Directives → Except Fault (List Char)
  | 0, _ => .ok []
  | fuel + 1, s =>
    match s.rest with
    | [] => if s.next.isEmpty || s.named?.isSome then .ok [] else .error .wrongType
    | '%' :: '%' :: cs => do return '%' :: (← replaceAll view fuel { s with rest := cs })
    | '%' :: cs => do
      let (written, s) ← directive view { s with rest := cs }
      return written ++ (← replaceAll view fuel s)
    | c :: cs => do return c :: (← replaceAll view fuel { s with rest := cs })

end Directives

/-- A message with arguments put in. -/
def formatMessage (view : ObjectView) (message : String) (next : List Value)
    (named? : Option Value) : Except Fault String :=
  String.ofList <$>
    Directives.replaceAll view (message.length + 1) ⟨message.toList, next, named?⟩

/-- A message with a list of arguments put in. Without any it is taken as it is, and a single
dictionary that is not empty names them. -/
def messageOf (view : ObjectView) (message : String) (arguments : List Value) :
    Except Fault String :=
  match arguments with
  | [] => .ok message
  | [v] =>
    formatMessage view message [v] (if (v.entries? view).any (!·.isEmpty) then some v else none)
  | vs => formatMessage view message vs none

/-- A message with a value put in: the items of a tuple, or else the value itself. Lists,
dictionaries and byte strings are looked up by name as well. -/
def messageWith (view : ObjectView) (message : String) (v : Value) : Except Fault String :=
  match v.content view, v with
  | .tuple items, _ => formatMessage view message items none
  | .list _, _ | .dict _, _ | _, .atom (.bytes _) _ => formatMessage view message [v] (some v)
  | _, _ => formatMessage view message [v] none

end GraphQuery
