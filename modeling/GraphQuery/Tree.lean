import GraphQuery.Template

/-!
Trees: queries and their parts as they are written, with everything in its place.

A tree is what an object of a query comes to when all the objects that it is made of are looked up.
It knows labels and keys by the references and parameters that they belong to, and names by their
text. Nothing in it changes any more, and nothing is shared.

* `Tree.template`: the template of a tree.
-/

namespace GraphQuery

/-- Whether a projection hands its columns on to what follows or returns them. -/
inductive ProjectionKind where
  | passing
  | returning
  deriving DecidableEq, Repr

namespace ProjectionKind

/-- The keyword of a projection. -/
def keyword : ProjectionKind → String
  | passing => "WITH"
  | returning => "RETURN"

/-- The class name of a clause that consists of the projection. -/
def className : ProjectionKind → String
  | passing => "With"
  | returning => "Return"

end ProjectionKind

/-- The name behind `AS`: a variable, or a name of its own. -/
inductive Alias where
  | bearer (b : Bearer)
  | name (n : Name)
  deriving DecidableEq

/-- A query, or a part of one. -/
inductive Tree where
  | label (b : Bearer)
  | key (p : Param)
  /-- Access to a property along a path of names. -/
  | property (base : Tree) (path : List Name)
  /-- An operator between two operands. -/
  | comparison (operator : String) (left right : Tree)
  /-- An operator behind its operand. -/
  | check (operator : String) (operand : Tree)
  /-- An operator between any number of operands. -/
  | junction (operator : String) (operands : List Tree)
  | negation (operand : Tree)
  | call (name : String) (arguments : List Tree)
  /-- The column of everything. -/
  | star
  /-- A column without a name, or a sort item in ascending order: nothing but an expression. -/
  | column (expression : Tree)
  /-- A column with a name. -/
  | aliased (expression : Tree) (name : Alias)
  /-- A sort item with its order. -/
  | sorted (expression : Tree) (order : String)
  /-- A node of a pattern. -/
  | node (b : Bearer) (labels : List Name) (properties : List (Name × Tree))
  /-- A relationship of a pattern. -/
  | relationship (b : Bearer) (type : Option Name) (properties : List (Name × Tree))
    (direction : Direction)
  /-- A pattern: nodes and relationships in turn. -/
  | pattern (elements : List Tree)
  | filter (predicate : Tree)
  | assignments (entries : List (Tree × Tree))
  | removals (properties : List Tree)
  | deletions (detach : Bool) (references : List Tree)
  /-- A projection with the ordering of its rows. -/
  | projection (kind : ProjectionKind) (distinct : Bool) (columns sortItems : List Tree)
    (skip limit : Option Param)
  /-- A clause on patterns, with a path in front of them and fragments behind them. -/
  | patternClause (keyword : String) (path : Option Bearer) (patterns fragments : List Tree)
  /-- A projection that stands alone, with fragments behind it. -/
  | projectionClause (body : Tree) (fragments : List Tree)
  | statement (parts : List Tree)
  | union (keyword : String) (branches : List Tree)
  /-- Something of no shape of its own. -/
  | given (t : Template)
  /-- Parts that are written until a fault is met. -/
  | stuck (parts : List Tree) (f : Fault)
  deriving Inhabited

/-! ### Names -/

/-- A name as it stands in a query. -/
def Name.escaped : Name → String
  | text s => Text.escaped s
  | direction d => d.running

/-- The names of a property access, each behind its point. -/
def pathText (path : List Name) : String :=
  String.join (path.map fun n => "." ++ n.escaped)

/-- The labels of a node, each behind its colon. -/
def labelsText (labels : List Name) : String :=
  String.join (labels.map fun n => ":" ++ n.escaped)

/-- The name behind `AS`. -/
def Alias.template : Alias → Template
  | bearer b => [.label b]
  | name n => [.text n.escaped]

/-! ### Frames -/

/-- A template in parentheses. -/
def parenthesized (t : Template) : Template := .text "(" :: t ++ [.text ")"]

/-- The braces with the properties, or nothing when there are none. -/
def braced (properties : List (Name × Template)) : Template :=
  if properties.isEmpty then []
  else
    .text " \x7b" ::
      Template.join [.text ", "]
        (properties.map fun p => .text (p.1.escaped ++ ": ") :: p.2)
      ++ [.text "\x7d"]

/-- A node in its parentheses. -/
def nodeTemplate (b : Bearer) (labels : List Name) (properties : List (Name × Template)) :
    Template :=
  [.text "(", .label b, .text (labelsText labels)] ++ braced properties ++ [.text ")"]

/-- A relationship in its brackets, with the arrow that its direction asks for. -/
def relationshipTemplate (b : Bearer) (type : Option Name) (properties : List (Name × Template))
    (direction : Direction) : Template :=
  [.text (direction.tail ++ "["), .label b, .text (labelsText type.toList)] ++ braced properties
    ++ [.text ("]" ++ direction.tip)]

/-- A projection: the line of its columns, then the lines of its ordering. The separator is asked
whether it can join them once the columns are written. -/
def projectionTemplate (kind : ProjectionKind) (distinct : Bool) (columns sortItems : List Template)
    (skip limit : Option Param) : Template :=
  .text (kind.keyword ++ (if distinct then " DISTINCT" else "") ++ " ")
    :: Template.commas columns
    ++ [.joining]
    ++ (if sortItems.isEmpty then [] else .joint :: .text "ORDER BY " :: Template.commas sortItems)
    ++ (skip.map fun p => [.joint, .text "SKIP ", .key p]).getD []
    ++ (limit.map fun p => [.joint, .text "LIMIT ", .key p]).getD []
    ++ [.joined]

/-- A fragment of a clause, on a line of its own. -/
def fragmentTemplate (fragment : Template) : Template :=
  .separator :: fragment ++ [.formed]

/-- The patterns of a clause, with a path in front of them. -/
def patternsTemplate (keyword : String) (path : Option Bearer) (patterns : List Template) :
    Template :=
  .text (keyword ++ " ") :: (path.map fun b => [.label b, .text " = "]).getD []
    ++ Template.commas patterns

/-- The parts of a statement that are not blank, joined by the separator. -/
def statementTemplate (parts : List Template) : Template :=
  .joining :: Template.join [.joint] parts ++ [if parts.isEmpty then .blank else .joined]

/-- The branches of a union with its keyword between them. -/
def unionTemplate (keyword : String) (branches : List Template) : Template :=
  .union branches.length keyword :: .formed
    :: Template.listed [.separator, .text keyword, .separator] branches

/-! ### Trees -/

/-- A tree that is written as a value of its own, which need not be a text. -/
inductive Sole where
  | label (b : Bearer)
  | blank
  deriving DecidableEq

namespace Tree

/-- The tree is a boolean combination. -/
def isJunction : Tree → Bool
  | junction .. => true
  | _ => false

mutual

/-- The tree has no text: it is nothing, or a statement of which no part has any. -/
def isBlank : Tree → Bool
  | statement parts => allBlank parts
  | given t => t.isEmpty
  | _ => false

/-- None of the trees has any text. -/
def allBlank : List Tree → Bool
  | [] => true
  | t :: rest => t.isBlank && allBlank rest

end

/-- What the tree is written as, if that is a value of its own. -/
def sole? : Tree → Option Sole
  | label b => some (.label b)
  | column e => e.sole?
  | t => if t.isBlank then some .blank else none

/-- A tree as a whole item of a list, given how it is written in running text. -/
def asItem (t : Tree) (written : Template) : Template :=
  match t.sole? with
  | some (.label b) => [.item b]
  | some .blank => [.joining, .blankItem]
  | none => written

/-- A tree as an operand among others. A boolean combination is put in parentheses. -/
def asOperand (t : Tree) (written : Template) : Template :=
  if t.isJunction then parenthesized written else t.asItem written

mutual

/-- A tree as it is written in running text. -/
def template : Tree → Template
  | label b => [.label b]
  | key p => [.key p]
  | property base path => base.template ++ [.text (pathText path)]
  | comparison operator left right =>
    left.template ++ [.text (" " ++ operator ++ " ")] ++ right.template
  | check operator operand => operand.template ++ [.text (" " ++ operator)]
  | junction operator parts => Template.listed [.text (" " ++ operator ++ " ")] (operands parts)
  | negation operand =>
    .text "NOT " ::
      if operand.isJunction then parenthesized operand.template else operand.template
  | call name arguments =>
    .text (name ++ "(") :: Template.commas (items arguments) ++ [.text ")"]
  | star => [.text "*"]
  | column e => e.template
  | aliased e name => e.template ++ [.text " AS "] ++ name.template
  | sorted e order => e.template ++ [.text (" " ++ order)]
  | node b labels properties => nodeTemplate b labels (entries properties)
  | relationship b type properties direction =>
    relationshipTemplate b type (entries properties) direction
  | pattern elements => Template.listed [] (items elements)
  | filter predicate => .text "WHERE " :: predicate.template
  | assignments entries => .text "SET " :: Template.join [.text ", "] (pairs entries)
  | removals properties => .text "REMOVE " :: Template.commas (items properties)
  | deletions detach references =>
    .text (if detach then "DETACH DELETE " else "DELETE ") :: Template.commas (items references)
  | projection kind distinct columns sortItems skip limit =>
    projectionTemplate kind distinct (items columns) (items sortItems) skip limit
  | patternClause keyword path patterns fragments =>
    patternsTemplate keyword path (items patterns)
      ++ ((templates fragments).map fragmentTemplate).flatten
  | projectionClause body fragments =>
    body.template ++ ((templates fragments).map fragmentTemplate).flatten
  | statement nodes => statementTemplate (written nodes)
  | union keyword branches => unionTemplate keyword (items branches)
  | given t => t
  | stuck before f => (templates before).flatten ++ [.fault f]

/-- Trees as they are written in running text. -/
def templates : List Tree → List Template
  | [] => []
  | t :: rest => t.template :: templates rest

/-- Trees as operands of a boolean combination. -/
def operands : List Tree → List Template
  | [] => []
  | t :: rest => t.asOperand t.template :: operands rest

/-- Trees as whole items of a list. -/
def items : List Tree → List Template
  | [] => []
  | t :: rest => t.asItem t.template :: items rest

/-- The trees that have a text, as they are written. -/
def written : List Tree → List Template
  | [] => []
  | t :: rest => if t.isBlank then written rest else t.template :: written rest

/-- Names with what is written for them. -/
def entries : List (Name × Tree) → List (Name × Template)
  | [] => []
  | (n, t) :: rest => (n, t.template) :: entries rest

/-- Assignments of values to targets. -/
def pairs : List (Tree × Tree) → List Template
  | [] => []
  | (target, v) :: rest => (target.template ++ [.text " = "] ++ v.template) :: pairs rest

end

end Tree

end GraphQuery
