import TsWorkshop.Yaml.Cursor

/-!
YAML documents as data: block and flow collections, scalars, and aliases of nodes that were given a
name. A tag of the core schema other than those of numbers, switches and nothing makes a plain
scalar a text; other tags are passed over.
-/

namespace TsWorkshop.Yaml

/-- Reading keeps the nodes that were given names. -/
abbrev Reader (α : Type) := StateT (Assoc Data) (Except Fault) α

/-- The name of an anchor or an alias, or the rest of a tag, and the place behind it. -/
def name (flow : Bool) (c : Cursor) (inside : List Char) : String × Cursor :=
  let stops (x : Char) : Bool := isBlank x || x = '\n' || (flow && isFlowMark x)
  (String.ofList (inside.takeWhile fun x => !stops x),
    c.advance (inside.dropWhile fun x => !stops x))

/-- The tags of the core schema that leave a plain scalar what it is. -/
def keepingTags : List String := ["!bool", "!int", "!float", "!null"]

/-- What a node means behind a tag, `c` being the place of the node. -/
def retagged (flow : Bool) (parent : Int) (tag : String) (c : Cursor) (data : Data) : Data :=
  match data, plain flow parent c with
  | .scalar .empty, _ => data
  | .scalar _, .ok (text, _) =>
    if Text.startsWith "!" tag && !keepingTags.contains tag && startsPlain flow c.rest then
      .scalar (.text text)
    else data
  | _, _ => data

/-- The node that a name stands for. -/
def named (name : String) : Reader Data := do
  match (← get).get? name with
  | some data => return data
  | none => throw .unknownAnchor

/-- Gives a node a name. -/
def giveName (name : String) (data : Data) : Reader Unit :=
  modify fun names => names.put name data

/-! ### Flow collections -/

mutual

/-- Reads the node at a place of flow context. Each step is one node, item or member. -/
def flowNode : Nat → Cursor → Reader (Data × Cursor)
  | 0, _ => throw .badStart
  | steps + 1, c =>
    match c.rest with
    | [] => throw .expectedFlowNode
    | '[' :: rest => do
      let (items, behind) ← flowItems steps true (c.advance rest).nextInFlow
      return (.list items, behind)
    | '\x7b' :: rest => do
      let (members, behind) ← flowMembers steps true (c.advance rest).nextInFlow
      return (.dict members, behind)
    | '"' :: rest => do
      let (text, behind) ← quoted true c rest
      return (.scalar (.text text), behind)
    | '\'' :: rest => do
      let (text, behind) ← quoted false c rest
      return (.scalar (.text text), behind)
    | '*' :: rest => do
      let (name, behind) := name true c rest
      return (← named name, behind)
    | '&' :: rest => do
      let (name, behind) := name true c rest
      let (data, behind) ← flowNode steps behind.nextInFlow
      giveName name data
      return (data, behind)
    | '!' :: rest => do
      let (tag, behind) := name true c rest
      let start := behind.nextInFlow
      let (data, behind) ← flowNode steps start
      return (retagged true 0 tag start data, behind)
    | x :: _ =>
      if startsPlain true c.rest then do
        let (text, behind) ← plain true 0 c
        return (.scalar (ofPlain text), behind)
      else throw (if isFlowMark x || x = ':' then .expectedFlowNode else .badStart)

/-- Reads what stands behind a key: a node, or nothing. -/
def flowValue (steps : Nat) (c : Cursor) : Reader (Data × Cursor) :=
  match c.rest with
  | ',' :: _ | ']' :: _ | '\x7d' :: _ => return (.scalar .empty, c)
  | _ => flowNode steps c

/-- Reads the items of a list up to its end; an item may be a dictionary with one member. -/
def flowItems : Nat → Bool → Cursor → Reader (List Data × Cursor)
  | 0, _, _ => throw .badStart
  | steps + 1, isFirst, c =>
    match c.rest with
    | [] => throw (if isFirst then .expectedFlowNode else .openList)
    | ']' :: rest => return ([], c.advance rest)
    | _ => do
      let (item, behind) ← (match key? true c with
        | some (key, behind) => do
          let (data, behind) ← flowValue steps behind.nextInFlow
          return (.dict [(key, data)], behind)
        | none => flowNode steps c)
      let behind := behind.nextInFlow
      match behind.rest with
      | ',' :: rest => do
        let (items, behind) ← flowItems steps false (behind.advance rest).nextInFlow
        return (item :: items, behind)
      | ']' :: rest => return ([item], behind.advance rest)
      | _ => throw .openList

/-- Reads the members of a dictionary up to its end; a key without a value stands for an empty
one. -/
def flowMembers : Nat → Bool → Cursor → Reader (List (String × Data) × Cursor)
  | 0, _, _ => throw .badStart
  | steps + 1, isFirst, c =>
    match c.rest with
    | [] => throw (if isFirst then .expectedFlowNode else .openMap)
    | '\x7d' :: rest => return ([], c.advance rest)
    | _ => do
      let (member, behind) ← (match key? true c, lineScalar? true c with
        | some (key, behind), _ => do
          let (data, behind) ← flowValue steps behind.nextInFlow
          return ((key, data), behind)
        | none, some (key, behind) => return ((key, .scalar .empty), behind)
        | none, none => throw .openMap)
      let behind := behind.nextInFlow
      match behind.rest with
      | ',' :: rest => do
        let (members, behind) ← flowMembers steps false (behind.advance rest).nextInFlow
        return (member :: members, behind)
      | '\x7d' :: rest => return ([member], behind.advance rest)
      | _ => throw .openMap

end

/-- What is wrong with a character that starts no node of block context. -/
def unexpected (fresh : Bool) (cs : List Char) : Fault :=
  match cs with
  | ',' :: _ | ']' :: _ | '\x7d' :: _ => .expectedBlockNode
  | ':' :: _ => .misplacedValue
  | '?' :: _ => if fresh then .badStart else .misplacedKey
  | _ => .badStart

/-- The number of steps that are enough for what is left. -/
def Cursor.steps (c : Cursor) : Nat := 2 * c.rest.length + 2

/-! ### Block collections -/

mutual

/-- Reads the node at a place of block context inside a collection with its items in column
`parent`. Collections may start only at a place that is `fresh`: behind a line end or the mark of an
item. Each step is one node, item or member. -/
def blockNode : Nat → Int → Bool → Cursor → Reader (Data × Cursor)
  | 0, _, _, _ => throw .badStart
  | steps + 1, parent, fresh, c =>
    if c.isAtEnd || (fresh && (c.column : Int) ≤ parent) then return (.scalar .empty, c)
    else if c.isItem then
      if fresh then do
        let (items, behind) ← blockItems steps c.column false c
        return (.list items, behind)
      else throw .misplacedItem
    else
      match c.rest, key? false c with
      | '&' :: rest, _ => do
        let (name, behind) := name false c rest
        let behind := behind.next
        let (data, behind) ← blockNode steps parent (fresh || behind.fresh) behind
        giveName name data
        return (data, behind)
      | '!' :: rest, _ => do
        let (tag, behind) := name false c rest
        let start := behind.next
        let (data, behind) ← blockNode steps parent (fresh || start.fresh) start
        return (retagged false parent tag start data, behind)
      | '*' :: rest, _ => do
        let (name, behind) := name false c rest
        return (← named name, behind)
      | '|' :: rest, _ => do
        let (text, behind) ← blockScalar false parent rest
        return (.scalar (.text text), behind)
      | '>' :: rest, _ => do
        let (text, behind) ← blockScalar true parent rest
        return (.scalar (.text text), behind)
      | '[' :: _, _ | '\x7b' :: _, _ => flowNode c.steps c
      | _, some _ =>
        if fresh then do
          let (members, behind) ← blockMembers steps c.column c
          return (.dict members, behind)
        else throw .misplacedValue
      | '"' :: rest, none => do
        let (text, behind) ← quoted true c rest
        return (.scalar (.text text), behind)
      | '\'' :: rest, none => do
        let (text, behind) ← quoted false c rest
        return (.scalar (.text text), behind)
      | cs, none =>
        if startsPlain false cs then do
          let (text, behind) ← plain false parent c
          match behind.rest with
          | ':' :: _ => throw .misplacedValue
          | _ => return (.scalar (ofPlain text), behind)
        else throw (unexpected fresh cs)

/-- Reads the items of a list in the given column. A list that is `level` with the keys of the
dictionary around it ends where another key starts. -/
def blockItems : Nat → Nat → Bool → Cursor → Reader (List Data × Cursor)
  | 0, _, _, _ => throw .badStart
  | steps + 1, column, level, c =>
    if c.isAtEnd || c.column < column then return ([], c)
    else if c.column = column && c.isItem then do
      let inside := (c.advance (c.rest.drop 1)).next
      let (item, behind) ←
        (if inside.fresh && inside.column ≤ column then return (.scalar .empty, inside)
        else blockNode steps column true inside)
      let behind := behind.next
      if behind.fresh || behind.isAtEnd then do
        let (items, behind) ← blockItems steps column level behind
        return (item :: items, behind)
      else throw .expectedItem
    else if level && c.column = column then return ([], c)
    else throw .expectedItem

/-- Reads the members of a dictionary with its keys in the given column. -/
def blockMembers : Nat → Nat → Cursor → Reader (List (String × Data) × Cursor)
  | 0, _, _ => throw .badStart
  | steps + 1, column, c =>
    if c.isAtEnd || c.column < column then return ([], c)
    else if column < c.column || c.isItem then throw .expectedKey
    else
      match key? false c with
      | none => throw (if startsPlain false c.rest then .expectedColon else .expectedKey)
      | some (key, behind) => do
        let inside := behind.next
        let (data, behind) ←
          (if inside.fresh && inside.column = column && inside.isItem then do
            let (items, behind) ← blockItems steps column true inside
            return (.list items, behind)
          else blockNode steps column inside.fresh inside)
        let behind := behind.next
        if behind.fresh || behind.isAtEnd then do
          let (members, behind) ← blockMembers steps column behind
          return ((key, data) :: members, behind)
        else throw .expectedKey

end

/-- Skips directives, which start with a percent sign. -/
def skipDirectives : Nat → Cursor → Cursor
  | 0, c => c
  | steps + 1, c =>
    match c.rest with
    | '%' :: _ => skipDirectives steps (Cursor.atLine ((c.rest.dropWhile (· != '\n')).drop 1)).next
    | _ => c

/-- Reads the only node of a document, or nothing at all. -/
def document (c : Cursor) : Reader (Option Data) := do
  let c := c.next
  let c := skipDirectives c.rest.length c
  let c := (match c.isDocumentMark, c.rest with
    | true, '-' :: _ => (c.advance (c.rest.drop 3)).next
    | _, _ => c)
  let (data, behind) ← (if c.isAtEnd then return (none, c)
    else do
      let (data, behind) ← blockNode c.steps (-1) c.fresh c
      return (some data, behind.next))
  let behind := (match behind.isDocumentMark, behind.rest with
    | true, '.' :: _ => (behind.advance (behind.rest.drop 3)).next
    | _, _ => behind)
  if behind.rest.isEmpty then return data else throw .moreDocuments

/-- The type of a scalar as a complaint about a document shows it. -/
def shownScalar : Scalar → String
  | .empty => "unit value"
  | .bool b => "boolean \x60" ++ (if b then "true" else "false") ++ "\x60"
  | .signed n => "integer \x60" ++ toString n ++ "\x60"
  | .unsigned n => "integer \x60" ++ toString n ++ "\x60"
  | .float x => "floating point \x60" ++ x.plain ".0" ++ "\x60"
  | .notFinite name => "floating point \x60" ++ name ++ "\x60"
  | .char c => "string " ++ Text.shown c.toString
  | .text s => "string " ++ Text.shown s

/-- Reads a text as a dictionary; an empty one stands for no members. -/
def membersOfText (text : String) : Except Fault (List (String × Data)) := do
  let cs := normalized text.toList
  let cs := (match cs with
    | '\ufeff' :: rest => rest
    | cs => cs)
  let (data, _) ← (document (.atLine cs)).run []
  match data with
  | none => return []
  | some (.dict members) => return members
  | some (.list _) => throw (.notMap "sequence")
  | some (.scalar s) => throw (.notMap (shownScalar s))

end TsWorkshop.Yaml
