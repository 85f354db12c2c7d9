import TsWorkshop.FileSystem.Access

/-!
What the command `test` of the shell decides: tests of files, texts and numbers.
-/

namespace TsWorkshop.Script

/-- What tests of files look at. -/
structure FileView where
  files : FileSystem
  cwd : Path

/-- The whole number in a text. -/
def integer? (s : String) : Option Int :=
  let (negative, digits) := match (Text.trim s).toList with
    | '-' :: rest => (true, rest)
    | '+' :: rest => (false, rest)
    | cs => (false, cs)
  if digits.isEmpty || !digits.all Char.isDigit then none
  else
    let n : Int := Text.digitsValue 0 digits
    some (if negative then -n else n)

/-- A test of one text. -/
def unaryTest? (view : FileView) (operator s : String) : Option Bool :=
  let path := view.cwd.join s
  let exists? := s ≠ "" && view.files.pathExists path
  match operator with
  | "-n" => some (s ≠ "")
  | "-z" => some (s = "")
  | "-e" | "-r" | "-w" => some exists?
  | "-f" => some (s ≠ "" && view.files.isFile path)
  | "-d" => some (s ≠ "" && view.files.isDirectory path)
  | "-x" =>
    some (match view.files.entry path with
      | .ok (.file _ executable) => executable
      | .ok .directory => s ≠ ""
      | .error _ => false)
  | "-s" =>
    some (match view.files.entry path with
      | .ok (.file content _) => content.size ≠ 0
      | .ok .directory => s ≠ ""
      | .error _ => false)
  | "-h" | "-L" | "-p" | "-S" | "-b" | "-c" | "-t" | "-u" | "-g" | "-k" => some false
  | _ => none

/-- What a test comes to: its value, or the text that is no number. -/
abbrev TestResult := Except String Bool

/-- A comparison of two texts. -/
def binaryTest? (operator a b : String) : Option TestResult :=
  let compare (f : Int → Int → Bool) : TestResult :=
    match integer? a, integer? b with
    | some m, some n => .ok (f m n)
    | none, _ => .error ("Illegal number: " ++ a)
    | some _, none => .error ("Illegal number: " ++ b)
  match operator with
  | "=" | "==" => some (.ok (a = b))
  | "!=" => some (.ok (a ≠ b))
  | "<" => some (.ok (a < b))
  | ">" => some (.ok (b < a))
  | "-eq" => some (compare fun m n => m = n)
  | "-ne" => some (compare fun m n => m ≠ n)
  | "-lt" => some (compare fun m n => m < n)
  | "-le" => some (compare fun m n => m ≤ n)
  | "-gt" => some (compare fun m n => n < m)
  | "-ge" => some (compare fun m n => n ≤ m)
  | _ => none

mutual

/-- Tests joined by `-o`. Each step looks at one word. -/
def orTest (view : FileView) : Nat → List String → Except String (Bool × List String)
  | 0, _ => .error "argument expected"
  | steps + 1, args => do
    let (a, rest) ← andTest view steps args
    match rest with
    | "-o" :: rest => do
      let (b, rest) ← orTest view steps rest
      return (a || b, rest)
    | rest => return (a, rest)

/-- Tests joined by `-a`. -/
def andTest (view : FileView) : Nat → List String → Except String (Bool × List String)
  | 0, _ => .error "argument expected"
  | steps + 1, args => do
    let (a, rest) ← notTest view steps args
    match rest with
    | "-a" :: rest => do
      let (b, rest) ← andTest view steps rest
      return (a && b, rest)
    | rest => return (a, rest)

/-- A single test, perhaps negated or in brackets. -/
def notTest (view : FileView) : Nat → List String → Except String (Bool × List String)
  | 0, _ => .error "argument expected"
  | steps + 1, args =>
    match args with
    | a :: op :: b :: rest =>
      match binaryTest? op a b with
      | some result => result.map fun r => (r, rest)
      | none => simpleTest view steps args
    | args => simpleTest view steps args

def simpleTest (view : FileView) : Nat → List String → Except String (Bool × List String)
  | 0, _ => .error "argument expected"
  | steps + 1, args =>
    match args with
    | [] => .error "argument expected"
    | [a] => .ok (a ≠ "", [])
    | "!" :: rest => do
      let (b, rest) ← notTest view steps rest
      return (!b, rest)
    | "(" :: rest => do
      let (b, rest) ← orTest view steps rest
      match rest with
      | ")" :: rest => return (b, rest)
      | _ => throw "closing paren expected"
    | a :: b :: rest =>
      match unaryTest? view a b with
      | some r => .ok (r, rest)
      | none => .ok (a ≠ "", b :: rest)

end

/-- What `test` decides. -/
def test (view : FileView) (args : List String) : TestResult :=
  if args.isEmpty then .ok false
  else
    match orTest view (4 * args.length + 4) args with
    | .error message => .error message
    | .ok (b, []) => .ok b
    | .ok (_, arg :: _) => .error (arg ++ ": unexpected operator")

end TsWorkshop.Script
