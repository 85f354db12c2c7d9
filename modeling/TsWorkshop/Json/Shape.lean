import TsWorkshop.Json.Source

/-!
Shapes of JSON texts. A `Shape` says what a reader asks for at a place of a text, and
`Shape.read` reads a `Source` by it: it gives the first complaint in reading order, or the value
brought into standard form. In standard form a record is an object with each key once, known or
kept, in the order of first appearance, and a value that is read for its content alone is canonical.

Records are named by a type `ρ`, so that a shape may mention itself; a `Grammar` gives their fields.
-/

namespace TsWorkshop

/-- What a reader asks for at one place. -/
inductive Shape (ρ : Type) where
  /-- Any value, read for its content. -/
  | any
  /-- A string; `expected` is the phrase of a complaint. -/
  | text (expected : String)
  | flag
  /-- A whole number of the named kind, from `low` to `high`. -/
  | whole (kind : String) (low high : Int)
  /-- One of some fixed words, `known` in a complaint, each standing for a word of the format. -/
  | word (known : List String) (meaning : Assoc String)
  | list (item : Shape ρ)
  | record (name : ρ)
  /-- Any value that passes a test; `name` is the phrase of a complaint. -/
  | choice (name : String) (accepts : Json → Bool)
  /-- A list of records or a single record; `name` is the phrase of a complaint. -/
  | oneOrMany (name : String) (item : ρ)

/-- One field of a record. -/
structure Field (ρ : Type) where
  name : String
  shape : Shape ρ
  /-- `null` means that the field is absent. -/
  nullable : Bool := false
  /-- The field need not be there. -/
  optional : Bool := false
  /-- The field need not be there in the array form of the record. -/
  optionalItem : Bool := optional

/-- The fields of a record. -/
structure Record (ρ : Type) where
  /-- The phrase of a complaint about the type. -/
  title : String
  fields : List (Field ρ)
  /-- Members with other keys are kept, and the record has no array form. Otherwise they are
  skipped. -/
  keepsOthers : Bool := false
  /-- Members with other keys are refused. -/
  refusesOthers : Bool := false

/-- The records of a format. -/
abbrev Grammar (ρ : Type) := ρ → Record ρ

namespace Record

variable {ρ : Type}

def field? (record : Record ρ) (name : String) : Option (Field ρ) :=
  record.fields.find? fun field => field.name = name

/-- The complaint about the first required field that has no member. -/
def missing? (record : Record ρ) (members : Assoc Json) : Option Complaint :=
  (record.fields.find? fun field => !field.optional && !members.has field.name).map
    fun field => .missingField field.name

/-- The complaint about the length of an array form with `count` items. -/
def tooShort (record : Record ρ) (count : Nat) : Complaint :=
  let size := record.fields.length
  .wrongLength count (record.title ++ " with " ++ toString size ++
    (if size = 1 then " element" else " elements"))

end Record

namespace Shape

variable {ρ : Type}

/-- The phrase of a complaint about the type. -/
def expected (grammar : Grammar ρ) : Shape ρ → String
  | any => "any value"
  | text expected => expected
  | flag => "a boolean"
  | whole kind _ _ => kind
  | word _ _ => "string or map"
  | list _ => "a sequence"
  | record name => (grammar name).title
  | choice name _ => name
  | oneOrMany name _ => name

/-- Whether an array or an object fits the shape at all. -/
def opensList (grammar : Grammar ρ) : Shape ρ → Bool
  | list _ => true
  | record name => !(grammar name).keepsOthers
  | _ => false

/-- Reads a string by a shape. -/
def readText (grammar : Grammar ρ) (shape : Shape ρ) (s : String) : Except Complaint Json :=
  match shape with
  | any | text _ => .ok (.str s)
  | word known meaning =>
    match meaning.get? s with
    | some w => .ok (.str w)
    | none => .error (.unknownVariant s known)
  | choice name accepts => if accepts (.str s) then .ok (.str s) else .error (.noVariant name)
  | oneOrMany name _ => .error (.noVariant name)
  | shape => .error (.wrongType (.text s) (shape.expected grammar))

/-- Reads a number by a shape. -/
def readNumber (grammar : Grammar ρ) (shape : Shape ρ) (n : JsonNumber) : Except Complaint Json :=
  match shape with
  | any => .ok (.num n)
  | whole kind low high =>
    match n with
    | .whole i =>
      if low ≤ i ∧ i ≤ high then .ok (.num n) else .error (.wrongValue (.whole i) kind)
    | .float x => .error (.wrongType (.float x) kind)
  | choice name accepts => if accepts (.num n) then .ok (.num n) else .error (.noVariant name)
  | oneOrMany name _ => .error (.noVariant name)
  | word _ _ => .error .expectedValue
  | shape =>
    .error (.wrongType (match n with | .whole i => .whole i | .float x => .float x)
      (shape.expected grammar))

/-- Reads `null`, `true` or `false` by a shape. -/
def readWord (grammar : Grammar ρ) (shape : Shape ρ) (v : Json) : Except Complaint Json :=
  match shape with
  | any => .ok v
  | choice name accepts => if accepts v then .ok v else .error (.noVariant name)
  | oneOrMany name _ => .error (.noVariant name)
  | word _ _ => .error .expectedValue
  | flag =>
    match v with
    | .bool _ => .ok v
    | _ => .error (.wrongType .null "a boolean")
  | shape =>
    .error (.wrongType (match v with | .bool b => .bool b | _ => .null) (shape.expected grammar))

/-- The complaint where a word is asked for and no value can be read: only a string is looked
into. -/
def stopAtWord : Complaint → Complaint
  | .expectedIdent | .invalidNumber => .expectedValue
  | complaint => complaint

/-- Reads a word given as an object with the word as its key and `null` for its value. -/
def readWordObject (known : List String) (meaning : Assoc String)
    (members : List (Except Complaint String × Source)) (ending : ObjectEnd) :
    Except Complaint Json :=
  match members, ending with
  | [], .broken .endInObject _ => .error .endInValue
  | [], _ => .error .expectedValue
  | (key, item) :: rest, ending => do
    match meaning.get? (← key) with
    | none => throw (.unknownVariant (← key) known)
    | some w =>
      match item with
      | .null =>
        match rest, ending with
        | [], .closed => return .str w
        | [], .broken .endInObject _ => throw .endInObject
        | _, _ => throw .expectedValue
      | .stop reading _ => throw reading
      | .bool b => throw (.wrongType (.bool b) "unit")
      | .num n =>
        match (← n) with
        | .whole i => throw (.wrongType (.whole i) "unit")
        | .float x => throw (.wrongType (.float x) "unit")
      | .str s => throw (.wrongType (.text (← s)) "unit")
      | .arr _ _ => throw (.wrongType .sequence "unit")
      | .obj _ _ => throw (.wrongType .map "unit")

mutual

/-- Reads a source by a shape: the first complaint in reading order, or the value in standard
form. -/
def read (grammar : Grammar ρ) (shape : Shape ρ) (room : Nat) : Source → Except Complaint Json
  | .null => readWord grammar shape .null
  | .bool b => readWord grammar shape (.bool b)
  | .num n =>
    match shape with
    | .word _ _ => .error .expectedValue
    | _ => do readNumber grammar shape (← n)
  | .str s => do readText grammar shape (← s)
  | .stop reading _ =>
    match shape with
    | word _ _ => .error (stopAtWord reading)
    | _ => .error reading
  | .arr items ending =>
    match shape with
    | any => do return (← (Source.arr items ending).value room).canonical
    | choice name accepts => do
      let v ← (Source.arr items ending).value room
      if accepts v then return v else throw (.noVariant name)
    | oneOrMany name item => do
      let _ ← (Source.arr items ending).value room
      match readItems grammar (.record item) Source.depthLimit items with
      | .ok items => return .arr items
      | .error _ => throw (.noVariant name)
    | list item =>
      if room ≤ 1 then .error .tooDeep
      else do
        let items ← readItems grammar item (room - 1) items
        match Source.listEndComplaint? ending with
        | some complaint => throw complaint
        | none => return .arr items
    | record name =>
      if (grammar name).keepsOthers then .error (.wrongType .sequence (grammar name).title)
      else if room ≤ 1 then .error .tooDeep
      else do
        let members ←
          readTuple grammar (grammar name) (room - 1) 0 (grammar name).fields items ending
        return .obj members
    | word _ _ => .error .expectedValue
    | shape => .error (.wrongType .sequence (shape.expected grammar))
  | .obj members ending =>
    match shape with
    | any => do return (← (Source.obj members ending).value room).canonical
    | choice name accepts => do
      let v ← (Source.obj members ending).value room
      if accepts v then return v else throw (.noVariant name)
    | oneOrMany name item => do
      let _ ← (Source.obj members ending).value room
      match readMembers grammar (grammar item) Source.depthLimit [] members ending with
      | .ok members => return .obj members
      | .error _ => throw (.noVariant name)
    | record name =>
      if room ≤ 1 then .error .tooDeep
      else do
        let members ← readMembers grammar (grammar name) (room - 1) [] members ending
        return .obj members
    | word known meaning =>
      if room ≤ 1 then .error .tooDeep else readWordObject known meaning members ending
    | shape => .error (.wrongType .map (shape.expected grammar))

/-- Reads the items of a list by one shape. -/
def readItems (grammar : Grammar ρ) (shape : Shape ρ) (room : Nat) :
    List Source → Except Complaint (List Json)
  | [] => .ok []
  | item :: rest => do
    let item ← read grammar shape room item
    let rest ← readItems grammar shape room rest
    return item :: rest

/-- Reads the array form of a record: its fields in order, `count` of them already read. -/
def readTuple (grammar : Grammar ρ) (record : Record ρ) (room : Nat) (count : Nat) :
    List (Field ρ) → List Source → ListEnd → Except Complaint (Assoc Json)
  | fields, [], ending =>
    match Source.listEndComplaint? ending with
    | some complaint =>
      -- a complete record is checked for its end only, where any other character is too much
      if fields.isEmpty then
        throw (if ending = .junk then .trailingCharacters else complaint)
      else throw complaint
    | none =>
      match fields.findIdx? fun field => !field.optionalItem with
      | none => .ok []
      | some i => .error (record.tooShort (count + i))
  | [], _ :: _, _ => .error .trailingCharacters
  | field :: fields, item :: rest, ending => do
    let value ←
      (if field.nullable && item.isNull then .ok none
      else (read grammar field.shape room item).map some)
    let members ← readTuple grammar record room (count + 1) fields rest ending
    match value with
    | some value => return (field.name, value) :: members
    | none => return members

/-- Reads the members of a record, `seen` holding those already read. -/
def readMembers (grammar : Grammar ρ) (record : Record ρ) (room : Nat) (seen : Assoc Json) :
    List (Except Complaint String × Source) → ObjectEnd → Except Complaint (Assoc Json)
  | [], ending =>
    match ending with
    | .broken reading _ => .error reading
    | .closed =>
      match record.missing? seen with
      | some complaint => .error complaint
      | none => .ok seen
  | (key, item) :: rest, ending => do
    let key ← key
    match record.field? key with
    | some field =>
      if seen.has key then throw (.duplicateField key)
      else
        let value ←
          (if field.nullable && item.isNull then .ok .null
          else read grammar field.shape room item)
        readMembers grammar record room (seen.put key value) rest ending
    | none =>
      if record.keepsOthers then
        let value ← item.value room
        readMembers grammar record room (seen.put key value.canonical) rest ending
      else if record.refusesOthers then
        throw (.unknownField key (record.fields.map fun field => field.name))
      else
        match item.skip with
        | some complaint => throw complaint
        | none => readMembers grammar record room seen rest ending

end

/-- Reads a source that nothing but gaps may follow. -/
def ofSource (grammar : Grammar ρ) (shape : Shape ρ) (source : Source × Bool) :
    Except Complaint Json := do
  let value ← read grammar shape Source.depthLimit source.1
  if source.2 then throw .trailingCharacters else return value

/-- Reads a text by a shape, in standard form. -/
def ofText (grammar : Grammar ρ) (shape : Shape ρ) (text : String) : Except Complaint Json :=
  shape.ofSource grammar (Source.ofText text)

/-- Reads bytes by a shape, in standard form. -/
def ofBytes (grammar : Grammar ρ) (shape : Shape ρ) (bytes : ByteArray) : Except Complaint Json :=
  shape.ofSource grammar (Source.ofBytes bytes)

end Shape

end TsWorkshop
