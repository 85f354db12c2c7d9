import TsWorkshop.Event
import TsWorkshop.Text.Unicode.Alphabetic

/-!
Which events are logged. A filter is a list of directives `target[span{fields}]=level`; the
directive with the longest fitting target decides about an event.
-/

namespace TsWorkshop

/-- How much a directive lets through. -/
inductive Verbosity where
  | off | error | warn | info | debug | trace
  deriving DecidableEq, Repr

namespace Verbosity

def name : Verbosity → String
  | off => "off"
  | error => "error"
  | warn => "warn"
  | info => "info"
  | debug => "debug"
  | trace => "trace"

/-- The verbosities by their numbers. -/
def all : List Verbosity := [off, error, warn, info, debug, trace]

/-- A number from 0 to 5, perhaps behind a plus sign. -/
def ofNumber? (cs : List Char) : Option Verbosity :=
  let digits := match cs with
    | '+' :: rest => rest
    | cs => cs
  if digits.isEmpty || !digits.all Char.isDigit then none else all[Text.digitsValue 0 digits]?

/-- A number or a name in either case. -/
def ofText? (text : String) : Option Verbosity :=
  (ofNumber? text.toList).or (all.find? fun v => v.name = Text.asciiLower text)

/-- Whether events of a level are let through. -/
def allows (v : Verbosity) (level : Level) : Bool :=
  match v with
  | off => false
  | error => level = .error
  | warn => level = .error || level = .warn
  | info => level ≠ .debug
  | debug | trace => true

end Verbosity

/-- One part of a filter. -/
structure Directive where
  target : Option String := none
  span : Option String := none
  fields : List String := []
  level : Verbosity := .trace
  deriving DecidableEq, Repr

namespace Directive

/-! ### Reading -/

/-- What is being read; the place is where it began. -/
inductive Stage where
  | start
  | word (place : Nat)
  | span (place : Nat)
  | field (place : Nat)
  | fields
  | behindSpan
  | level (place : Nat)
  deriving DecidableEq, Repr

/-- The text from one place up to another one. -/
def slice (whole : List Char) (place stop : Nat) : String :=
  String.ofList ((whole.drop place).take (stop - place))

/-- A directive without `=` is a level, or a target that is let through as a whole. -/
def ofWord (word : String) : Directive :=
  if word = "" then {}
  else match Verbosity.ofText? word with
    | some level => { level }
    | none => { target := some word }

/-- Adds a field, which must not be empty. -/
def withField (d : Directive) (field : String) : Option Directive :=
  if field = "" then none else some { d with fields := d.fields ++ [field] }

/-- Reads the character at a place. -/
def step (whole : List Char) (d : Directive) (stage : Stage) (place : Nat) (c : Char) :
    Option (Directive × Stage) :=
  match stage, c with
  | .start, '[' => some (d, .span (place + 1))
  | .start, c =>
    if c = '-' || c = ':' || c = '_' || Unicode.isAlphabetic c || Unicode.isNumber c then
      some (d, .word place)
    else none
  | .word p, '=' => some ({ d with target := some (slice whole p place) }, .level (place + 1))
  | .word p, '[' => some ({ d with target := some (slice whole p place) }, .span (place + 1))
  | .word p, _ => some (d, .word p)
  | .span p, ']' => some ({ d with span := some (slice whole p place) }, .behindSpan)
  | .span p, '\x7b' =>
    let name := slice whole p place
    some ({ d with span := if name = "" then none else some name }, .field (place + 1))
  | .span p, _ => some (d, .span p)
  | .field p, '\x7d' => (d.withField (slice whole p place)).map fun d => (d, .fields)
  | .field p, _ => some (d, .field p)
  | .fields, ']' => some (d, .behindSpan)
  | .behindSpan, '=' => some (d, .level (place + 1))
  | .level p, _ => some (d, .level p)
  | _, _ => none

/-- Ends a directive. -/
def finish (whole : List Char) (d : Directive) : Stage → Option Directive
  | .word p =>
    some { ofWord (String.ofList (whole.drop p)) with span := d.span, fields := d.fields }
  | .level p =>
    let level := String.ofList (whole.drop p)
    if level = "" then some { d with level := .trace }
    else (Verbosity.ofText? level).map fun level => { d with level }
  | .behindSpan => some d
  | _ => none

/-- Reads characters from a place on. -/
def readFrom (whole : List Char) (d : Directive) (stage : Stage) (place : Nat) :
    List Char → Option Directive
  | [] => finish whole d stage
  | c :: rest =>
    match step whole d stage place c with
    | some (d, stage) => readFrom whole d stage (place + 1) rest
    | none => none

/-- Reads a directive. Places are counted behind the blank at the front, but the pieces are cut from
the whole text. -/
def ofText? (text : String) : Option Directive :=
  readFrom text.toList {} .start 0 (Text.trimBlank text.toList)

/-! ### Writing -/

/-- The bracket of a directive that names a span or fields. -/
def bracket (d : Directive) : String :=
  if d.span.isNone && d.fields.isEmpty then ""
  else
    "[" ++ d.span.getD "" ++
      (if d.fields.isEmpty then "" else "\x7b" ++ Text.join "," d.fields ++ "\x7d") ++ "]"

/-- The text of a directive. -/
def text (d : Directive) : String :=
  let place := d.target.getD "" ++ d.bracket
  if d.target.isNone && d.span.isNone && d.fields.isEmpty then d.level.name
  else place ++ "=" ++ d.level.name

/-- A directive about spans, which events are never in. -/
def isDynamic (d : Directive) : Bool := d.span.isSome || !d.fields.isEmpty

/-- A directive that can decide about events: it names no span and no value of a field. -/
def isStatic (d : Directive) : Bool :=
  d.span.isNone && d.fields.all fun field => !field.toList.contains '='

/-- Whether two directives are about the same events. -/
def sameScope (a b : Directive) : Bool :=
  a.target = b.target && a.span = b.span && a.fields = b.fields

/-- Whether a directive is about an event. -/
def concerns (d : Directive) (e : Event) : Bool :=
  (match d.target with
  | some target => Text.startsWith target e.target
  | none => true) &&
    d.fields.all fun field => e.fields.has field

end Directive

/-- A filter: its directives, the last of several about the same events. -/
abbrev LogFilter := List Directive

namespace LogFilter

/-- Adds a directive in the place of one about the same events. -/
def add (filter : LogFilter) (d : Directive) : LogFilter :=
  filter.filter (fun other => !other.sameScope d) ++ [d]

/-- Reads a filter; one bad directive spoils it. -/
def ofText? (text : String) : Option LogFilter :=
  (((Text.split ',' text).filter (· ≠ "")).mapM Directive.ofText?).map fun ds => ds.foldl add []

/-- The filter that sets one level for all parts of the program. -/
def ofLevel (level : Verbosity) : LogFilter :=
  ["tanuki", "tanuki_cli", "tanuki_docs"].map fun target => { target := some target, level }

/-- The filter of a run: being verbose comes before being quiet, and both before a filter of the
user's own, which is used only if it can be read. -/
def choose (verbose quiet : Bool) (own : Option String) : LogFilter :=
  if verbose then ofLevel .debug
  else if quiet then ofLevel .error
  else (own.bind ofText?).getD (ofLevel .info)

/-- The texts of the directives: those about events, and then those about spans. -/
def texts (filter : LogFilter) : List String :=
  (filter.filter Directive.isStatic ++ filter.filter Directive.isDynamic).map Directive.text

/-- The more precise of two directives. -/
def morePrecise (a b : Directive) : Directive :=
  let size (d : Directive) : Nat := ((d.target.map String.utf8ByteSize).map (· + 1)).getD 0
  if size b < size a then a
  else if size a < size b then b
  else if b.fields.length < a.fields.length then a
  else b

/-- Whether an event is logged. -/
def allows (filter : LogFilter) (e : Event) : Bool :=
  match filter.filter fun d => d.isStatic && d.concerns e with
  | [] => false
  | d :: rest => (rest.foldl morePrecise d).level.allows e.level

end LogFilter

end TsWorkshop
