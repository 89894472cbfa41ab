import GraphQuery.Environment
import GraphQuery.Text.Lowercase
import GraphQuery.Text.Octets

/-!
Settings: what is configured once for all builds.

A record of settings is checked when it is made: from named values, then from the variables of the
process environment, then from the defaults. Setting a single field later is not checked, so a
field of an existing record can hold any value.
-/

namespace GraphQuery

/-- The fields of a record of settings. -/
inductive Setting where
  | nodeStem
  | relationshipStem
  | variableStem
  | pathStem
  | paramStem
  | bareFirst
  | separator
  | logLevel
  | dateFormat
  | richLogging
  | logText
  deriving DecidableEq, Repr

/-- What a field accepts. -/
inductive SettingRule where
  /-- An identifier. -/
  | stem
  /-- Any text. -/
  | text
  /-- Any text, taken in capitals. -/
  | capitals
  /-- A yes or no in one of several forms. -/
  | switch
  deriving DecidableEq, Repr

namespace Setting

/-- The fields in their order. -/
def all : List Setting :=
  [nodeStem, relationshipStem, variableStem, pathStem, paramStem, bareFirst, separator, logLevel,
    dateFormat, richLogging, logText]

/-- The name of a field. -/
def name : Setting → String
  | nodeStem => "NODE_PREFIX"
  | relationshipStem => "RELATIONSHIP_PREFIX"
  | variableStem => "VARIABLE_PREFIX"
  | pathStem => "PATH_PREFIX"
  | paramStem => "PARAM_PREFIX"
  | bareFirst => "UNSUFFIXED_FIRST_IDENTIFIER"
  | separator => "CLAUSE_SEPARATOR"
  | logLevel => "LOG_LEVEL"
  | dateFormat => "LOG_DATE_FORMAT"
  | richLogging => "ENABLE_RICH_LOGGING"
  | logText => "LOG_COMPILED_QUERIES"

/-- The field of a name. -/
def ofName? (s : String) : Option Setting :=
  all.find? fun field => field.name = s

/-- The atom in a field that nothing else gives a value. -/
def defaultAtom : Setting → Atom
  | nodeStem => .text "this"
  | relationshipStem => .text "this"
  | variableStem => .text "var"
  | pathStem => .text "p"
  | paramStem => .text "param"
  | bareFirst => .bool false
  | separator => .text "\n"
  | logLevel => .text "INFO"
  | dateFormat => .text "%Y-%m-%d %H:%M:%S"
  | richLogging => .bool true
  | logText => .bool false

/-- The mark of all defaults, of which there is one each. -/
def defaultMark : Nat := 1

/-- The value of a field that nothing else gives a value. -/
def default (field : Setting) : Value := .atom field.defaultAtom defaultMark

/-- What the field accepts. -/
def rule : Setting → SettingRule
  | nodeStem | relationshipStem | variableStem | pathStem | paramStem => .stem
  | bareFirst | richLogging | logText => .switch
  | separator | dateFormat => .text
  | logLevel => .capitals

/-- The field with the name stem of a kind. -/
def ofKind : Kind → Setting
  | .node => nodeStem
  | .relationship => relationshipStem
  | .var => variableStem
  | .path => pathStem
  | .param => paramStem

/-- The fields with name stems, in their order. -/
def stems : List Setting := [nodeStem, relationshipStem, variableStem, pathStem, paramStem]

end Setting

/-- The words for no and for yes. -/
def switchWords : List (String × Bool) :=
  ["0", "off", "f", "false", "n", "no"].map (·, false) ++
    ["1", "on", "t", "true", "y", "yes"].map (·, true)

/-- A rule that a value breaks, and the words for it. -/
abbrev Objection := String × String

/-- The text that a text field takes a value for: a text, or the text that a byte string encodes. -/
def acceptText : Value → Except Objection String
  | .atom (.bytes data) _ =>
    match Text.ofOctets? data with
    | some s => .ok s
    | none => .error ("string_unicode",
        "Input should be a valid string, unable to parse raw data as a unicode string")
  | v =>
    match v.text? with
    | some s => .ok s
    | none => .error ("string_type", "Input should be a valid string")

/-- The value cannot be told to be a yes or a no. -/
def undecided : Objection :=
  ("bool_parsing", "Input should be a valid boolean, unable to interpret input")

/-- The value is of a class that has no yes and no. -/
def undecidable : Objection := ("bool_type", "Input should be a valid boolean")

/-- The yes or no that a switch takes a text for. -/
def acceptWord (s : String) : Except Objection Bool :=
  match switchWords.lookup (s.map Char.toLower) with
  | some b => .ok b
  | none => .error undecided

/-- The yes or no that a switch takes a whole number for. -/
def acceptNumber (i : Int) : Except Objection Bool :=
  if i = 0 then .ok false else if i = 1 then .ok true else .error undecided

/-- The number fits into a machine word with a sign. -/
def fitsWord (i : Int) : Bool := -Int.pow 2 63 ≤ i && i < Int.pow 2 63

/-- The yes or no that a switch takes a value for: a truth value, nought or one, or a word. Numbers
that are no whole ones, or too large, have no yes and no. -/
def acceptSwitch : Value → Except Objection Bool
  | .atom (.bool b) _ => .ok b
  | .atom (.int i) _ => if fitsWord i then acceptNumber i else .error undecidable
  | .atom (.float s) _ =>
    match (Decimal.ofText? s).bind Decimal.toInt? with
    | some i => if fitsWord i && i != -Int.pow 2 63 then acceptNumber i else .error undecidable
    | none => .error undecidable
  | .atom (.bytes data) _ =>
    match Text.ofOctets? data with
    | some s => acceptWord s
    | none => .error undecided
  | v =>
    match v.text? with
    | some s => acceptWord s
    | none => .error undecidable

namespace SettingRule

/-- The atom that a field takes a value for, or the objection to it. -/
def accept (rule : SettingRule) (v : Value) : Except Objection Atom :=
  match rule with
  | .text => .text <$> acceptText v
  | .capitals => (fun s => .text (Text.uppercase s)) <$> acceptText v
  | .switch => .bool <$> acceptSwitch v
  | .stem => do
    let s ← acceptText v
    if Text.isIdentifier s then return .text s
    throw ("value_error", "Value error, Identifier prefix " ++ Text.quoted s ++
      " must start with a letter or underscore " ++
      "and contain only letters, digits and underscores.")

end SettingRule

/-! ### The process environment -/

/-- The variables of the process environment, and how fields are read from them: what stands in
front of the name of a field, whether letter case matters, whether empty variables count, and the
text that stands for nothing. -/
structure Variables where
  all : List (String × String)
  lead : String
  caseMatters : Bool
  skipsEmpty : Bool
  nullText? : Option String

namespace Variables

/-- What stands in front of the names of fields unless something else is asked for. -/
def usualLead : String := "CYPHER_COMPOSE_"

/-- Variables that are read as usual. -/
def usual (all : List (String × String)) : Variables := ⟨all, usualLead, false, false, none⟩

/-- Variables that are read as named values ask for. -/
def asAsked (view : ObjectView) (all : List (String × String)) (given : List (String × Value)) :
    Except Fault Variables := do
  let asked (name : String) : Option Value := (given.lookup name).bind Value.given?
  let lead ← match asked "_env_prefix" with
    | some v => v.text?.elim (.error .wrongType) .ok
    | none => .ok usualLead
  return {
    all := all
    lead := lead
    caseMatters := (asked "_case_sensitive").any (·.truth view)
    skipsEmpty := (asked "_env_ignore_empty").any (·.truth view)
    nullText? := (asked "_env_parse_none_str").bind Value.text? }

/-- A name as far as it matters. -/
def folded (vars : Variables) (name : String) : String :=
  if vars.caseMatters then name else Text.lowercase name

/-- The value that the variables give a field. Of several variables the last one counts. -/
def value? (vars : Variables) (field : Setting) : Option Value :=
  let named := vars.all.filter fun v =>
    vars.folded v.1 == vars.folded (vars.lead ++ field.name) && !(vars.skipsEmpty && v.2.isEmpty)
  named.getLast?.map fun v => if vars.nullText? = some v.2 then .null else .text v.2

end Variables

/-- A record of settings. -/
structure Settings where
  value : Setting → Value

namespace Settings

/-- The record in which no field is given. -/
def defaults : Settings := ⟨Setting.default⟩

/-- The record with one field changed, to whatever value. -/
def set (s : Settings) (field : Setting) (v : Value) : Settings :=
  ⟨fun g => if g = field then v else s.value g⟩

/-- The fields with their values. -/
def fields (s : Settings) : List (String × Value) :=
  Setting.all.map fun field => (field.name, s.value field)

/-- The value that is given for a field by name. Letter case matters only if the field is named in
several ways: its own name comes first. -/
def ofNamed? (given : List (String × Value)) (field : Setting) : Option Value :=
  (given.lookup field.name).or
    ((given.find? fun g => g.1.map Char.toLower = field.name.map Char.toLower).map (·.2))

/-- The value that a field starts from. -/
def source (vars : Variables) (given : List (String × Value)) (field : Setting) : Option Value :=
  (ofNamed? given field).or (vars.value? field)

/-- The value of a field in a new record, or the objection to the value it would have. What is not
a default gets a mark of its own. -/
def accept (vars : Variables) (given : List (String × Value)) (mark : Nat) (field : Setting) :
    Except Objection Value :=
  match source vars given field with
  | some v => (Value.atom · mark) <$> field.rule.accept v
  | none => .ok field.default

/-- Everything wrong with the values for a new record, in the order of the fields. -/
def issues (vars : Variables) (given : List (String × Value)) : List Issue :=
  Setting.all.filterMap fun field =>
    match accept vars given 0 field with
    | .ok _ => none
    | .error (rule, message) => some ⟨field.name, rule, message⟩

/-- A new record, if nothing is wrong with any field. -/
def load (vars : Variables) (given : List (String × Value)) (mark : Nat) : Except Fault Settings :=
  if issues vars given = [] then
    .ok ⟨fun field => (accept vars given mark field).toOption.getD field.default⟩
  else .error (.invalid (issues vars given))

/-- How names are formed under the settings, unless other values are given. -/
def naming (s : Settings) (given : List (Kind × Value)) (bareFirst? separator? : Option Value) :
    Naming where
  stems kind := (given.lookup kind).getD (s.value (.ofKind kind))
  bareFirst := bareFirst?.getD (s.value .bareFirst)
  separator := separator?.getD (s.value .separator)

end Settings

end GraphQuery
