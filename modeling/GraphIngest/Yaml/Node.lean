import GraphIngest.Yaml.Lexer

/-!
# Nodes of a YAML text

A text holds one document at most, the root of which is a scalar, a list or a mapping. The result
keeps of a scalar its text, how it is written and its tag, so that what it stands for is decided by
whoever asks for a type.

`YamlDocument.ofText` tells a text that is not well-formed from one that holds no document.
-/

namespace GraphIngest

namespace Yaml

/-- A tag: what its handle stands for, and the rest. -/
structure Tag where
  stem : String
  suffix : String
  deriving DecidableEq, Repr

namespace Tag

/-- The tag in full. -/
def text (t : Tag) : String := t.stem ++ t.suffix

/-- What the handle of two exclamation marks stands for. -/
def coreStem : String := "tag:yaml.org,2002:"

/-- The tag of an exclamation mark alone. -/
def bare : String := "!"

end Tag

end Yaml

open Yaml

/-- A node of a document. -/
inductive YamlNode where
  | scalar (text : String) (style : ScalarStyle) (tag? : Option Tag)
  | list (items : List YamlNode)
  | mapping (members : List (YamlNode × YamlNode))
  /-- The node that has a number in its document. -/
  | reference (number : Nat)
  /-- The node around the place. -/
  | unfinished
  deriving Repr, Inhabited

namespace Yaml

/-- A document that is being put together: the tokens left, what handles stand for, and the nodes
with a name. Each of them has a place, in the order in which they begin, and a number, by which
references mean it; a place has its node as soon as the node is complete. -/
structure Composer where
  edition : Edition
  tokens : List Token
  handles : List (String × String)
  names : List (String × Nat)
  places : List (Nat × Nat)
  nodes : List (Nat × YamlNode)

/-- The value under a key. -/
def valueOf? {α β : Type} [BEq α] (pairs : List (α × β)) (key : α) : Option β :=
  (pairs.find? (·.1 == key)).map (·.2)

namespace Composer

/-! ## Names, references and tags -/

/-- Gives a name to the node that begins, and returns its place. In the early edition the numbers
count the names that are known, so that a name that is given again may lend its number to the next
one; the later of two nodes has the number. -/
def register (c : Composer) (name : String) : Nat × Composer :=
  let place := c.places.length
  let number := match c.edition with
    | .early => c.names.length
    | .late => place
  (place,
    { c with
      names := (name, number) :: c.names.filter (·.1 != name)
      places := (number, place) :: c.places })

/-- Puts a node into its place. -/
def settle (c : Composer) (place? : Option Nat) (node : YamlNode) : Composer :=
  match place? with
  | some place => { c with nodes := (place, node) :: c.nodes }
  | none => c

/-- The node of a name. The early edition looks it up when the document is complete. -/
def refer (c : Composer) (name : String) : Option YamlNode := do
  let number ← valueOf? c.names name
  match c.edition with
  | .early => some (.reference number)
  | .late => some ((valueOf? c.nodes number).getD .unfinished)

/-- What a handle stands for. One between exclamation marks has to be declared. -/
def stemOf? (c : Composer) (handle : String) : Option String :=
  match valueOf? c.handles handle with
  | some stem => some stem
  | none =>
    if handle = "!!" then some Tag.coreStem
    else if isClosedHandle handle.toList then none
    else some handle

/-- The tag of a handle and a suffix. -/
def resolve (c : Composer) (handle suffix : String) : Option Tag := do
  some ⟨← c.stemOf? handle, suffix⟩

/-- Takes the name and the tag in front of a node, in either order. -/
def takeProperties (c : Composer) : Option (Option Nat × Option Tag × Composer) :=
  match c.tokens with
  | .anchor name :: .tag handle suffix :: rest => do
    let tag ← c.resolve handle suffix
    let (place, c) := c.register name
    some (some place, some tag, { c with tokens := rest })
  | .tag handle suffix :: .anchor name :: rest => do
    let tag ← c.resolve handle suffix
    let (place, c) := c.register name
    some (some place, some tag, { c with tokens := rest })
  | .anchor name :: rest =>
    let (place, c) := c.register name
    some (some place, none, { c with tokens := rest })
  | .tag handle suffix :: rest => do
    let tag ← c.resolve handle suffix
    some (none, some tag, { c with tokens := rest })
  | _ => some (none, none, c)

/-- The tag of a scalar that is written; in the early edition the bare one does not count. -/
def scalarTag? (c : Composer) (tag? : Option Tag) : Option Tag :=
  tag?.filter fun t => !(c.edition = .early && t.text == Tag.bare)

/-- A scalar that is not written. -/
def missing (c : Composer) : YamlNode :=
  .scalar (match c.edition with
    | .early => ""
    | .late => "~") .plain none

/-- The scalar that a name or a tag alone stands for. -/
def bareNode? (place? : Option Nat) (tag? : Option Tag) : Option YamlNode :=
  if place?.isSome || tag?.isSome then some (.scalar "" .plain tag?) else none

/-! ## What follows a mark -/

/-- No item follows its mark. -/
def lacksItem (indentless : Bool) : List Token → Bool
  | .item :: _ | .blockEnd :: _ => true
  | .key :: _ | .value :: _ => indentless
  | _ => false

/-- No key or value of a block mapping follows its mark. -/
def lacksMember : List Token → Bool
  | .key :: _ | .value :: _ | .blockEnd :: _ => true
  | _ => false

/-- No key or value within brackets follows its mark. -/
def lacksFlow : List Token → Bool
  | .comma :: _ | .flowListEnd :: _ | .flowMappingEnd :: _ => true
  | _ => false

/-- Passes over the comma between two entries. -/
def takeComma (first : Bool) (c : Composer) : Option Composer :=
  if first then some c
  else match c.tokens with
    | .comma :: rest => some { c with tokens := rest }
    | _ => none

/-- Without its own mark a value may lack a key in the late edition. -/
def allowsBareValue (c : Composer) : Bool := c.edition = .late

/-! ## Nodes -/

mutual

/-- Takes a node; a block collection only where `block` holds, and a list without a column of its
own where `indentless` does. -/
def takeNode : Nat → Bool → Bool → Composer → Option (YamlNode × Composer)
  | 0, _, _, _ => none
  | fuel + 1, block, indentless, c =>
    match c.tokens with
    | .alias name :: rest => do
      let node ← c.refer name
      some (node, { c with tokens := rest })
    | _ => do
      let (place?, tag?, c) ← c.takeProperties
      let (node, c) ← takeContent fuel block indentless place? tag? c
      some (node, c.settle place? node)

/-- Takes a node behind its name and tag. -/
def takeContent : Nat → Bool → Bool → Option Nat → Option Tag → Composer →
    Option (YamlNode × Composer)
  | 0, _, _, _, _, _ => none
  | fuel + 1, block, indentless, place?, tag?, c =>
    let bare := (bareNode? place? tag?).map fun node => (node, c)
    match c.tokens with
    | .scalar s style :: rest =>
      some (.scalar s style (c.scalarTag? tag?), { c with tokens := rest })
    | .flowListStart :: rest => do
      let (items, c) ← takeFlowItems fuel true [] { c with tokens := rest }
      some (.list items, c)
    | .flowMappingStart :: rest => do
      let (ms, c) ← takeFlowMembers fuel true [] { c with tokens := rest }
      some (.mapping ms, c)
    | .blockListStart :: rest =>
      if block then do
        let (items, c) ← takeItems fuel false [] { c with tokens := rest }
        some (.list items, c)
      else bare
    | .blockMappingStart :: rest =>
      if block then do
        let (ms, c) ← takeMembers fuel [] { c with tokens := rest }
        some (.mapping ms, c)
      else bare
    | .item :: _ =>
      if indentless then do
        let (items, c) ← takeItems fuel true [] c
        some (.list items, c)
      else bare
    | _ => bare

/-- Takes the items of a block list. -/
def takeItems : Nat → Bool → List YamlNode → Composer → Option (List YamlNode × Composer)
  | 0, _, _, _ => none
  | fuel + 1, indentless, acc, c =>
    match c.tokens with
    | .item :: rest => do
      let c := { c with tokens := rest }
      let (node, c) ← if lacksItem indentless rest then some (c.missing, c)
        else takeNode fuel true false c
      takeItems fuel indentless (node :: acc) c
    | .blockEnd :: rest =>
      some (acc.reverse, if indentless then c else { c with tokens := rest })
    | _ => if indentless then some (acc.reverse, c) else none

/-- Takes the members of a block mapping. -/
def takeMembers : Nat → List (YamlNode × YamlNode) → Composer →
    Option (List (YamlNode × YamlNode) × Composer)
  | 0, _, _ => none
  | fuel + 1, acc, c =>
    match c.tokens with
    | .key :: rest => do
      let c := { c with tokens := rest }
      let (key, c) ← if lacksMember rest then some (c.missing, c) else takeNode fuel true true c
      let (value, c) ← takeValue fuel c
      takeMembers fuel ((key, value) :: acc) c
    | .value :: _ =>
      if c.allowsBareValue then do
        let key := c.missing
        let (value, c) ← takeValue fuel c
        takeMembers fuel ((key, value) :: acc) c
      else none
    | .blockEnd :: rest => some (acc.reverse, { c with tokens := rest })
    | _ => none

/-- Takes the value of a member of a block mapping, which may be missing. -/
def takeValue : Nat → Composer → Option (YamlNode × Composer)
  | 0, _ => none
  | fuel + 1, c =>
    match c.tokens with
    | .value :: rest =>
      let c := { c with tokens := rest }
      if lacksMember rest then some (c.missing, c) else takeNode fuel true true c
    | _ => some (c.missing, c)

/-- Takes the items of a list within brackets. A key among them stands for a mapping of one member;
where the key itself is missing, so is the token behind its mark. -/
def takeFlowItems : Nat → Bool → List YamlNode → Composer → Option (List YamlNode × Composer)
  | 0, _, _, _ => none
  | fuel + 1, first, acc, c =>
    match c.tokens with
    | .flowListEnd :: rest => some (acc.reverse, { c with tokens := rest })
    | _ => do
      let c ← takeComma first c
      match c.tokens with
      | .flowListEnd :: rest => some (acc.reverse, { c with tokens := rest })
      | .key :: rest => do
        let (key, c) ← (match rest with
          | .value :: behind | .comma :: behind | .flowListEnd :: behind =>
            some (c.missing, { c with tokens := behind })
          | _ => takeNode fuel false false { c with tokens := rest })
        let (value, c) ← takeFlowValue fuel c
        takeFlowItems fuel false (.mapping [(key, value)] :: acc) c
      | _ => do
        let (node, c) ← takeNode fuel false false c
        takeFlowItems fuel false (node :: acc) c

/-- Takes the members of a mapping within brackets. -/
def takeFlowMembers : Nat → Bool → List (YamlNode × YamlNode) → Composer →
    Option (List (YamlNode × YamlNode) × Composer)
  | 0, _, _, _ => none
  | fuel + 1, first, acc, c =>
    match c.tokens with
    | .flowMappingEnd :: rest => some (acc.reverse, { c with tokens := rest })
    | _ => do
      let c ← takeComma first c
      match c.tokens with
      | .flowMappingEnd :: rest => some (acc.reverse, { c with tokens := rest })
      | .key :: rest => do
        let c := { c with tokens := rest }
        let absent := match rest with
          | .value :: _ | .comma :: _ | .flowMappingEnd :: _ => true
          | _ => false
        let (key, c) ← if absent then some (c.missing, c) else takeNode fuel false false c
        let (value, c) ← takeFlowValue fuel c
        takeFlowMembers fuel false ((key, value) :: acc) c
      | .value :: _ =>
        if c.allowsBareValue then do
          let key := c.missing
          let (value, c) ← takeFlowValue fuel c
          takeFlowMembers fuel false ((key, value) :: acc) c
        else none
      | _ => do
        let (key, c) ← takeNode fuel false false c
        takeFlowMembers fuel false ((key, c.missing) :: acc) c

/-- Takes a value within brackets, which may be missing. -/
def takeFlowValue : Nat → Composer → Option (YamlNode × Composer)
  | 0, _ => none
  | fuel + 1, c =>
    match c.tokens with
    | .value :: rest =>
      let c := { c with tokens := rest }
      if lacksFlow rest then some (c.missing, c) else takeNode fuel false false c
    | _ => some (c.missing, c)

end

/-! ## Documents -/

/-- Takes the directives before a document. The early edition wants version 1.1 or 1.2, and each
handle declared once; in the late edition only the last directive counts, and only if it declares a
handle. -/
def takeDirectives (c : Composer) (versioned : Bool) : List Token → Option Composer
  | .version major minor :: rest =>
    match c.edition with
    | .early =>
      if versioned || major ≠ 1 || (minor ≠ 1 && minor ≠ 2) then none
      else takeDirectives c true rest
    | .late => if versioned then none else takeDirectives { c with handles := [] } true rest
  | .handle name stem :: rest =>
    match c.edition with
    | .early =>
      if (valueOf? c.handles name).isSome then none
      else takeDirectives { c with handles := (name, stem) :: c.handles } versioned rest
    | .late => takeDirectives { c with handles := [(name, stem)] } versioned rest
  | tokens => some { c with tokens }

/-- A directive or the mark of a document stands in front, or nothing. -/
def beginsDocument : List Token → Bool
  | .version _ _ :: _ | .handle _ _ :: _ | .documentStart :: _ | [] => true
  | _ => false

/-- The tokens that are left are marks of the end of a document. -/
def isEnded (c : Composer) : Bool := c.tokens.all (· == .documentEnd)

/-- Takes the root of a document. Behind its mark it may be missing. -/
def takeRoot (c : Composer) : Option (YamlNode × Composer) := do
  let fuel := 3 * c.tokens.length + 3
  if !beginsDocument c.tokens then takeNode fuel true false c
  else
    let c ← c.takeDirectives false c.tokens
    match c.tokens with
    | .documentStart :: rest =>
      let c := { c with tokens := rest }
      if beginsDocument rest || rest.head? == some .documentEnd then some (c.missing, c)
      else takeNode fuel true false c
    | _ => none

end Composer

/-- The characters of a text in which all line breaks are the same, if they may all stand in a text
of the edition. The text of the late edition ends with the first null character. -/
def readable? (e : Edition) (cs : List Char) : Option (List Char) :=
  match e with
  | .early =>
    if cs.all fun c => c = '\t' || c = '\r' || c = '\u0085' || c.toNat = 0xFEFF || !isSpecial c then
      some (e.normalizeBreaks cs)
    else none
  | .late => some (e.normalizeBreaks (cs.takeWhile (· ≠ '\x00')))

end Yaml

/-- A document: its root, and the nodes that references mean by their numbers. -/
structure YamlDocument where
  root : YamlNode
  targets : List (Nat × YamlNode)

namespace YamlDocument

/-- The node that a reference means; any other node means itself. -/
def target (d : YamlDocument) : YamlNode → YamlNode
  | .reference number => (valueOf? d.targets number).getD .unfinished
  | node => node

/-- The document of a text, if there is one. -/
def ofText (e : Edition) (s : String) : Option (Option YamlDocument) := do
  let tokens ← Lexer.tokens? e (← readable? e s.toList)
  let tokens := if e = .late then tokens.dropWhile (· == .documentEnd) else tokens
  if tokens.isEmpty then some none
  else
    let (root, c) ← Composer.takeRoot ⟨e, tokens, [], [], [], []⟩
    let targets := c.places.filterMap fun (number, place) =>
      (valueOf? c.nodes place).map fun node => (number, node)
    if c.isEnded then some (some ⟨root, targets⟩) else none

end YamlDocument

end GraphIngest
