import GraphQuery.Proofs.Text.Token
import GraphQuery.Tree

/-!
Chains of nodes and relationships, as they are written and read.

Each element is written in brackets of its own, and no bracket can stand in a token other than a
mark. So the text of a chain falls into its elements where the brackets close. What stands in front
of a bracket that opens tells the direction, and what stands in it the label, the names and the
properties.

* `Chain`: a node, and any number of relationships with the nodes that they lead to. What stands for
  an element and for the value of a property is left open.
* `Chain.tokens`, `Chain.text`: a chain of texts as it is written.
* `Chain.read?`: the chain that a text is. `Chain.read?_text`: it is the chain that was written.
-/

namespace GraphQuery

open Text (Token)

/-! ### Chains -/

/-- A node of a chain, with its labels and its properties. -/
structure Spot (β κ : Type) where
  label : β
  names : List Name
  properties : List (Name × κ)

/-- A relationship of a chain, with its type if it has one and its properties, and the node that it
leads to. -/
structure Leg (β κ : Type) where
  direction : Direction
  label : β
  type : Option Name
  properties : List (Name × κ)
  node : Spot β κ

/-- A node, and relationships that lead on from it one after another. -/
structure Chain (β κ : Type) where
  node : Spot β κ
  legs : List (Leg β κ)

section Maps

variable {β β' κ κ' : Type}

/-- The node with something else for its element and the values of its properties. -/
def Spot.map (f : β → β') (g : κ → κ') (s : Spot β κ) : Spot β' κ' :=
  ⟨f s.label, s.names, s.properties.map (Prod.map id g)⟩

/-- The relationship with something else for its elements and the values of their properties. -/
def Leg.map (f : β → β') (g : κ → κ') (l : Leg β κ) : Leg β' κ' :=
  ⟨l.direction, f l.label, l.type, l.properties.map (Prod.map id g), l.node.map f g⟩

/-- The chain with something else for its elements and the values of their properties. -/
def Chain.map (f : β → β') (g : κ → κ') (c : Chain β κ) : Chain β' κ' :=
  ⟨c.node.map f g, c.legs.map (Leg.map f g)⟩

/-- A relationship as it stands in its brackets: its type is its only name. -/
def Leg.spot (l : Leg β κ) : Spot β κ := ⟨l.label, l.type.toList, l.properties⟩

/-- The elements of a chain, from left to right. -/
def Chain.spots (c : Chain β κ) : List (Spot β κ) :=
  c.node :: c.legs.flatMap fun l => [l.spot, l.node]

end Maps

/-! ### Tokens -/

/-- A name as it is written: a word, or a quoted name. -/
def Name.token : Name → Token
  | .text s => if Text.isIdentifier s then .word s else .quoted s
  | .direction d => .word d.running

/-- The names behind their colons. -/
def namesTokens (names : List Name) : List Token := names.flatMap fun n => [.mark ':', n.token]

/-- A property: its name and its key. -/
def propertyTokens (p : Name × String) : List Token :=
  [p.1.token, .mark ':', .mark ' ', .mark '$', .word p.2]

/-- The properties in their braces, or nothing when there are none. -/
def propertiesTokens : List (Name × String) → List Token
  | [] => []
  | p :: ps => .mark ' ' :: .mark '\x7b' :: propertyTokens p ++
      ps.flatMap (fun p => .mark ',' :: .mark ' ' :: propertyTokens p) ++ [.mark '\x7d']

/-- What stands in the brackets of an element. -/
def Spot.tokens (s : Spot String String) : List Token :=
  .word s.label :: namesTokens s.names ++ propertiesTokens s.properties

/-- What stands in front of the bracket of a relationship. -/
def tailTokens : Direction → List Token
  | .left => [.mark '<', .mark '-']
  | .right | .undirected => [.mark '-']

/-- What stands between the bracket of a relationship and that of the node behind it. -/
def tipTokens : Direction → List Token
  | .right => [.mark '-', .mark '>']
  | .left | .undirected => [.mark '-']

/-- A relationship and the node that it leads to. -/
def Leg.tokens (l : Leg String String) : List Token :=
  tailTokens l.direction ++ .mark '[' :: l.spot.tokens ++ .mark ']' ::
    (tipTokens l.direction ++ .mark '(' :: l.node.tokens ++ [.mark ')'])

namespace Chain

/-- A chain as it is written. -/
def tokens (c : Chain String String) : List Token :=
  .mark '(' :: c.node.tokens ++ .mark ')' :: c.legs.flatMap Leg.tokens

/-- The text of a chain. -/
def text (c : Chain String String) : String := String.ofList (Text.print c.tokens)

end Chain

/-! ### Reading -/

/-- The name that a token is. A word with a point in it is a direction. -/
def readName? : Token → Option Name
  | .word s => some ((Direction.all.find? fun d => d.running = s).elim (.text s) .direction)
  | .quoted s => some (.text s)
  | .mark _ => none

/-- The names behind colons, and what stands behind them. -/
def readNames : List Token → List Name × List Token
  | .mark ':' :: t :: rest =>
    match readName? t with
    | some n => ((readNames rest).1.cons n, (readNames rest).2)
    | none => ([], .mark ':' :: t :: rest)
  | rest => ([], rest)

/-- Properties, up to the brace that closes. -/
def readEntries? : List Token → Option (List (Name × String))
  | n :: .mark ':' :: .mark ' ' :: .mark '$' :: .word key :: rest =>
    match readName? n, rest with
    | some n, [.mark '\x7d'] => some [(n, key)]
    | some n, .mark ',' :: .mark ' ' :: rest => (readEntries? rest).map ((n, key) :: ·)
    | _, _ => none
  | _ => none

/-- Properties in their braces, or none at all. -/
def readProperties? : List Token → Option (List (Name × String))
  | [] => some []
  | .mark ' ' :: .mark '\x7b' :: rest => readEntries? rest
  | _ => none

/-- What stands in the brackets of an element. -/
def readSpot? : List Token → Option (Spot String String)
  | .word label :: rest =>
    (readProperties? (readNames rest).2).map fun ps => ⟨label, (readNames rest).1, ps⟩
  | _ => none

/-- A node, up to the bracket that closes. -/
def readNode? : List Token → Option (Spot String String)
  | .mark '(' :: rest => readSpot? rest
  | _ => none

/-- A relationship, up to the bracket that closes, and whether an arrow leads to the left. -/
def readRelationship? : List Token → Option (Bool × Spot String String)
  | .mark '<' :: .mark '-' :: .mark '[' :: rest => (readSpot? rest).map (true, ·)
  | .mark '-' :: .mark '[' :: rest => (readSpot? rest).map (false, ·)
  | _ => none

/-- The node behind a relationship, and whether an arrow leads to it. -/
def readTarget? : List Token → Option (Bool × Spot String String)
  | .mark '-' :: .mark '>' :: rest => (readNode? rest).map (true, ·)
  | .mark '-' :: rest => (readNode? rest).map (false, ·)
  | _ => none

/-- The direction that arrows to the left and to the right tell. -/
def readDirection? : Bool → Bool → Option Direction
  | true, false => some .left
  | false, true => some .right
  | false, false => some .undirected
  | true, true => none

/-- A relationship and the node behind it, each up to the bracket that closes. -/
def readLeg? (relationship target : List Token) : Option (Leg String String) :=
  match readRelationship? relationship, readTarget? target with
  | some (toLeft, r), some (toRight, n) =>
    (readDirection? toLeft toRight).map fun d => ⟨d, r.label, r.names.head?, r.properties, n⟩
  | _, _ => none

/-- Relationships with the nodes behind them. Behind the last bracket there is nothing. -/
def readLegs? : List (List Token) → Option (List (Leg String String))
  | [[]] => some []
  | relationship :: target :: rest =>
    match readLeg? relationship target with
    | some l => (readLegs? rest).map (l :: ·)
    | none => none
  | _ => none

/-- The token closes the brackets of an element. -/
def closes (t : Token) : Bool := t == .mark ')' || t == .mark ']'

/-- The chain that a text is, if it is one. -/
def Chain.read? (s : String) : Option (Chain String String) :=
  match (Text.tokens s).splitOnP closes with
  | node :: rest =>
    match readNode? node, readLegs? rest with
    | some n, some legs => some ⟨n, legs⟩
    | _, _ => none
  | [] => none

/-! ### What was written is read -/

theorem readName?_token (n : Name) : readName? n.token = some n := by
  cases n with
  | text s =>
    simp only [Name.token]
    split
    · rename_i identifier
      have absent : (Direction.all.find? fun d => d.running = s) = none := by
        simp [Direction.running_ne_of_isIdentifier identifier]
      simp [readName?, absent]
    · rfl
  | direction d => cases d <;> decide

theorem readNames_tokens (names : List Name) {rest : List Token}
    (stops : rest.head? ≠ some (.mark ':')) :
    readNames (namesTokens names ++ rest) = (names, rest) := by
  induction names with
  | nil =>
    unfold namesTokens readNames
    split
    · rename_i t rest eq
      simp only [List.flatMap_nil, List.nil_append] at eq
      rw [eq] at stops
      exact absurd rfl stops
    · rfl
  | cons n names ih =>
    have tokens : namesTokens (n :: names) ++ rest =
        .mark ':' :: n.token :: (namesTokens names ++ rest) := rfl
    rw [tokens, readNames, readName?_token, ih]

theorem readEntries?_tokens (p : Name × String) (ps : List (Name × String)) :
    readEntries? (propertyTokens p ++
      (ps.flatMap (fun p => .mark ',' :: .mark ' ' :: propertyTokens p) ++ [.mark '\x7d'])) =
        some (p :: ps) := by
  induction ps generalizing p with
  | nil => simp [propertyTokens, readEntries?, readName?_token]
  | cons q ps ih =>
    have tokens : propertyTokens p ++
        ((q :: ps).flatMap (fun p => .mark ',' :: .mark ' ' :: propertyTokens p) ++
          [.mark '\x7d']) =
        p.1.token :: .mark ':' :: .mark ' ' :: .mark '$' :: .word p.2 :: .mark ',' :: .mark ' ' ::
          (propertyTokens q ++
            (ps.flatMap (fun p => .mark ',' :: .mark ' ' :: propertyTokens p) ++
              [.mark '\x7d'])) := by
      simp [propertyTokens]
    rw [tokens, readEntries?.eq_2 _ _ _ _ (readName?_token p.1), ih q]
    rfl

theorem readProperties?_tokens (ps : List (Name × String)) :
    readProperties? (propertiesTokens ps) = some ps := by
  cases ps with
  | nil => rfl
  | cons p ps =>
    have entries := readEntries?_tokens p ps
    rw [← List.append_assoc] at entries
    exact entries

theorem readSpot?_tokens (s : Spot String String) : readSpot? s.tokens = some s := by
  have stops : (propertiesTokens s.properties).head? ≠ some (.mark ':') := by
    cases s.properties with
    | nil => simp [propertiesTokens]
    | cons p ps => simp [propertiesTokens]
  simp only [Spot.tokens, List.cons_append, readSpot?, readNames_tokens _ stops,
    readProperties?_tokens]
  rfl

theorem readLeg?_tokens (l : Leg String String) :
    readLeg? (tailTokens l.direction ++ .mark '[' :: l.spot.tokens)
      (tipTokens l.direction ++ .mark '(' :: l.node.tokens) = some l := by
  have relationship := readSpot?_tokens l.spot
  have node := readSpot?_tokens l.node
  have type : l.type.toList.head? = l.type := by cases l.type <;> rfl
  obtain ⟨direction, label, type, properties, target⟩ := l
  cases direction <;>
    simp_all [readLeg?, tailTokens, tipTokens, readRelationship?, readTarget?, readNode?,
      readDirection?, Leg.spot]

/-! ### Brackets -/

theorem closes_token (n : Name) : closes n.token = false := by
  cases n with
  | text s =>
    simp only [Name.token]
    split <;> rfl
  | direction d => rfl

/-- No bracket closes in what stands in the brackets of an element. -/
theorem closes_spot (s : Spot String String) : ∀ t ∈ s.tokens, closes t = false := by
  have property : ∀ p : Name × String, ∀ t ∈ propertyTokens p, closes t = false := by
    intro p t mem
    simp only [propertyTokens, List.mem_cons, List.not_mem_nil, or_false] at mem
    rcases mem with rfl | rfl | rfl | rfl | rfl
    · exact closes_token p.1
    all_goals rfl
  intro t mem
  simp only [Spot.tokens, List.cons_append, List.mem_cons, List.mem_append] at mem
  rcases mem with rfl | mem | mem
  · rfl
  · obtain ⟨n, -, mem⟩ := List.mem_flatMap.mp mem
    simp only [List.mem_cons, List.not_mem_nil, or_false] at mem
    rcases mem with rfl | rfl
    · rfl
    · exact closes_token n
  · cases properties : s.properties with
    | nil =>
      rw [properties] at mem
      cases mem
    | cons p ps =>
      simp only [properties, propertiesTokens, List.cons_append, List.mem_cons, List.mem_append,
        List.not_mem_nil, or_false] at mem
      rcases mem with rfl | rfl | (mem | mem) | rfl
      · rfl
      · rfl
      · exact property p t mem
      · obtain ⟨q, -, mem⟩ := List.mem_flatMap.mp mem
        simp only [List.mem_cons] at mem
        rcases mem with rfl | rfl | mem
        · rfl
        · rfl
        · exact property q t mem
      · rfl

/-- Where brackets close, an element ends. -/
theorem splitOnP_element {before inner : List Token} {closer : Token} (rest : List Token)
    (front : ∀ t ∈ before, closes t = false) (within : ∀ t ∈ inner, closes t = false)
    (closing : closes closer = true) :
    ((before ++ inner) ++ closer :: rest).splitOnP closes =
      (before ++ inner) :: rest.splitOnP closes := by
  refine List.splitOnP_append_cons_of_forall_mem (fun t mem => ?_) closer closing rest
  rcases List.mem_append.mp mem with mem | mem
  · exact front t mem
  · exact within t mem

theorem readLegs?_tokens (legs : List (Leg String String)) :
    readLegs? ((legs.flatMap Leg.tokens).splitOnP closes) = some legs := by
  induction legs with
  | nil => rfl
  | cons l legs ih =>
    have tail : ∀ t ∈ tailTokens l.direction, closes t = false := by
      cases l.direction <;> decide
    have tip : ∀ t ∈ tipTokens l.direction, closes t = false := by
      cases l.direction <;> decide
    have relationship : ∀ t ∈ Token.mark '[' :: l.spot.tokens, closes t = false :=
      List.forall_mem_cons.mpr ⟨rfl, closes_spot _⟩
    have node : ∀ t ∈ Token.mark '(' :: l.node.tokens, closes t = false :=
      List.forall_mem_cons.mpr ⟨rfl, closes_spot _⟩
    have tokens : (l :: legs).flatMap Leg.tokens =
        (tailTokens l.direction ++ .mark '[' :: l.spot.tokens) ++ .mark ']' ::
          ((tipTokens l.direction ++ .mark '(' :: l.node.tokens) ++
            .mark ')' :: legs.flatMap Leg.tokens) := by
      simp [Leg.tokens]
    rw [tokens, splitOnP_element _ tail relationship rfl, splitOnP_element _ tip node rfl]
    simp only [readLegs?, readLeg?_tokens, ih]
    rfl

/-! ### Tokens that cannot run into each other -/

/-- What stands for an element and for the values of its properties are words. -/
structure Spot.IsSpelt (s : Spot String String) : Prop where
  label : Text.IsWord s.label
  keys : ∀ p ∈ s.properties, Text.IsWord p.2

/-- What stands for the elements and for the values of their properties are words. -/
def Chain.IsSpelt (c : Chain String String) : Prop := ∀ s ∈ c.spots, s.IsSpelt

theorem Name.fits_token (n : Name) : n.token.Fits := by
  cases n with
  | text s =>
    simp only [Name.token]
    split
    · exact Text.isWord_of_isIdentifier (by assumption)
    · trivial
  | direction d => exact d.isWord_running

open Text (Phrase Block block_nil)

theorem block_names (names : List Name) : Block (namesTokens names) :=
  .flatMap fun n _ => (Phrase.cons n.fits_token block_nil).mark

theorem phrase_property {p : Name × String} (key : Text.IsWord p.2) : Phrase (propertyTokens p) :=
  .cons p.1.fits_token (Phrase.cons (t := .word p.2) key block_nil).mark.mark.mark

theorem block_properties {ps : List (Name × String)} (keys : ∀ p ∈ ps, Text.IsWord p.2) :
    Block (propertiesTokens ps) := by
  cases ps with
  | nil => exact block_nil
  | cons p ps =>
    obtain ⟨first, others⟩ := List.forall_mem_cons.mp keys
    have further : Block (ps.flatMap fun p => .mark ',' :: .mark ' ' :: propertyTokens p) :=
      .flatMap fun q mem => (phrase_property (others q mem)).mark.mark
    have brace : Block [Token.mark '\x7d'] := block_nil.mark
    exact ((phrase_property first).mark.mark.append further).append brace

namespace Spot.IsSpelt

variable {s : Spot String String}

theorem phrase (h : s.IsSpelt) : Phrase s.tokens :=
  (Phrase.cons (t := .word s.label) h.label (block_names s.names)).append (block_properties h.keys)

end Spot.IsSpelt

theorem block_leg {l : Leg String String} (relationship : l.spot.IsSpelt) (node : l.node.IsSpelt) :
    Block l.tokens := by
  have tail : Block (tailTokens l.direction) := by
    cases l.direction with
    | left => exact block_nil.mark.mark
    | right | undirected => exact block_nil.mark
  have tip : Block (tipTokens l.direction) := by
    cases l.direction with
    | right => exact block_nil.mark.mark
    | left | undirected => exact block_nil.mark
  have target : Block (.mark '(' :: l.node.tokens ++ [.mark ')']) :=
    node.phrase.mark.append block_nil.mark
  have rest := (tip.append target).toPhrase.mark (c := ']')
  rw [← List.append_assoc] at rest
  exact (tail.append relationship.phrase.mark).append rest

namespace Chain

variable {c : Chain String String}

theorem IsSpelt.phrase (h : c.IsSpelt) : Phrase c.tokens := by
  obtain ⟨node, legs⟩ := List.forall_mem_cons.mp h
  have further : Block (c.legs.flatMap Leg.tokens) := by
    refine .flatMap fun l mem => ?_
    have within : ∀ s ∈ [l.spot, l.node], s.IsSpelt := fun s s_mem =>
      legs s (List.mem_flatMap.mpr ⟨l, mem, s_mem⟩)
    exact block_leg (within _ (by simp)) (within _ (by simp))
  exact (node.phrase.mark.append further.mark).toPhrase

/-- From the text of a chain the chain can be read. -/
theorem read?_text (h : c.IsSpelt) : read? c.text = some c := by
  have node : ∀ t ∈ Token.mark '(' :: c.node.tokens, closes t = false :=
    List.forall_mem_cons.mpr ⟨rfl, closes_spot _⟩
  have split : c.tokens.splitOnP closes =
      (.mark '(' :: c.node.tokens) :: (c.legs.flatMap Leg.tokens).splitOnP closes :=
    splitOnP_element _ (List.forall_mem_nil _) node rfl
  have first : readNode? (.mark '(' :: c.node.tokens) = some c.node := readSpot?_tokens c.node
  unfold read? text
  rw [h.phrase.tokens_eq, split]
  simp only [first, readLegs?_tokens]

end Chain

end GraphQuery
