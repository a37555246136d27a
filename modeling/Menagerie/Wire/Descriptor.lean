import Menagerie.Wire.Schema

/-!
# Schema descriptors

The schema as a message of its own, with the place of every declaration in the schema file. The file
is laid out in one way: a line for the syntax, one for the package, and after a blank line each
declaration, its comment above it and each of its parts on a line.
-/

namespace Menagerie.Wire

/-! ## Parts of a message -/

def textPart (number : Nat) (text : String) : List UInt8 :=
  let bytes := text.toUTF8.toList
  writeKey ⟨number, .delimited⟩ ++ Varint.write bytes.length ++ bytes

def numberPart (number value : Nat) : List UInt8 :=
  writeKey ⟨number, .varint⟩ ++ Varint.write value

def messagePart (number : Nat) (bytes : List UInt8) : List UInt8 :=
  writeKey ⟨number, .delimited⟩ ++ Varint.write bytes.length ++ bytes

def packedPart (number : Nat) (values : List Nat) : List UInt8 :=
  messagePart number (values.flatMap Varint.write)

/-! ## Places -/

/-- A stretch of the schema file; lines and columns count from zero. -/
structure Span where
  line : Nat
  column : Nat
  lastLine : Nat
  lastColumn : Nat

def Span.numbers (s : Span) : List Nat :=
  if s.line = s.lastLine then [s.line, s.column, s.lastColumn]
  else [s.line, s.column, s.lastLine, s.lastColumn]

/-- A declaration or a part of one, by its path in the descriptor. -/
structure Location where
  path : List Nat
  span : Span
  comment : Option String := none

def Location.encode (l : Location) : List UInt8 :=
  packedPart 1 l.path ++ packedPart 2 l.span.numbers ++
    match l.comment with
    | none => []
    | some comment => textPart 3 (" " ++ comment ++ "\n")

def wordAt (path : List Nat) (line column : Nat) (word : String) : Location :=
  ⟨path, ⟨line, column, line, column + word.length⟩, none⟩

def widthOf (words : List String) : Nat := words.foldr (fun word width => word.length + width) 0

namespace SchemaField

def typeName (f : SchemaField) : String :=
  match f.kind with
  | .varint => "uint32"
  | _ => "string"

def typeNumber (f : SchemaField) : Nat :=
  match f.kind with
  | .varint => 13
  | _ => 9

def jsonName (name : List Char) : List Char :=
  match name with
  | [] => []
  | '_' :: c :: rest => c.toUpper :: jsonName rest
  | '_' :: [] => []
  | c :: rest => c :: jsonName rest

def encode (f : SchemaField) : List UInt8 :=
  textPart 1 f.name ++ numberPart 3 f.number ++ numberPart 4 1 ++ numberPart 5 f.typeNumber ++
    textPart 10 (String.ofList (jsonName f.name.toList))

/-- The line is two blanks, then `type name = number;`. -/
def locations (path : List Nat) (line : Nat) (f : SchemaField) : List Location :=
  let number := toString f.number
  let nameColumn := 2 + widthOf [f.typeName, " "]
  let numberColumn := nameColumn + widthOf [f.name, " = "]
  [⟨path, ⟨line, 2, line, numberColumn + widthOf [number, ";"]⟩, none⟩,
    wordAt (path ++ [5]) line 2 f.typeName,
    wordAt (path ++ [1]) line nameColumn f.name,
    wordAt (path ++ [3]) line numberColumn number]

end SchemaField

namespace MessageType

def encode (m : MessageType) : List UInt8 :=
  textPart 1 m.name ++ m.fields.flatMap fun f => messagePart 2 f.encode

def keyword : String := "message "

def height (m : MessageType) : Nat := if m.fields.isEmpty then 1 else m.fields.length + 2

def span (line : Nat) (m : MessageType) : Span :=
  if m.fields.isEmpty then ⟨line, 0, line, widthOf [keyword, m.name, " \x7b\x7d"]⟩
  else ⟨line, 0, line + m.fields.length + 1, 1⟩

def locations (path : List Nat) (line : Nat) (m : MessageType) : List Location :=
  ⟨path, m.span line, m.comment⟩ :: wordAt (path ++ [1]) line keyword.length m.name ::
    (m.fields.zipIdx.flatMap fun (f, i) => f.locations (path ++ [2, i]) (line + 1 + i))

end MessageType

namespace Method

def encode (package : String) (m : Method) : List UInt8 :=
  let typeName (name : String) := "." ++ package ++ "." ++ name
  textPart 1 m.name ++ textPart 2 (typeName m.input) ++ textPart 3 (typeName m.output) ++
    if m.streams then numberPart 6 1 else []

/-- The line is two blanks, then `rpc name(input) returns (output);`. -/
def locations (path : List Nat) (line : Nat) (m : Method) : List Location :=
  let nameColumn := 2 + "rpc ".length
  let inputColumn := nameColumn + widthOf [m.name, "("]
  let answerColumn := inputColumn + widthOf [m.input, ") returns ("]
  let outputColumn := answerColumn + if m.streams then "stream ".length else 0
  [⟨path, ⟨line, 2, line, outputColumn + widthOf [m.output, ");"]⟩, none⟩,
    wordAt (path ++ [1]) line nameColumn m.name,
    wordAt (path ++ [2]) line inputColumn m.input] ++
  (if m.streams then [wordAt (path ++ [6]) line answerColumn "stream"] else []) ++
  [wordAt (path ++ [3]) line outputColumn m.output]

end Method

namespace ServiceType

def encode (package : String) (s : ServiceType) : List UInt8 :=
  textPart 1 s.name ++ s.methods.flatMap fun m => messagePart 2 (m.encode package)

def keyword : String := "service "

def locations (path : List Nat) (line : Nat) (s : ServiceType) : List Location :=
  ⟨path, ⟨line, 0, line + s.methods.length + 1, 1⟩, none⟩ ::
    wordAt (path ++ [1]) line keyword.length s.name ::
    (s.methods.zipIdx.flatMap fun (m, i) => m.locations (path ++ [2, i]) (line + 1 + i))

end ServiceType

namespace Schema

def dialect : String := "proto3"

/-- The messages with the lines at which they begin, and the line for what comes after them. -/
def placed : Nat → List MessageType → List (MessageType × Nat) × Nat
  | line, [] => ([], line)
  | line, m :: rest =>
    let start := if m.comment.isSome then line + 1 else line
    let (others, next) := placed (start + m.height + 1) rest
    ((m, start) :: others, next)

def locations (s : Schema) : List Location :=
  let (messages, serviceLine) := placed 4 s.messages
  let lastLine := serviceLine + s.service.methods.length + 1
  [⟨[], ⟨0, 0, lastLine, 1⟩, none⟩,
    ⟨[12], ⟨0, 0, 0, widthOf ["syntax = \"", dialect, "\";"]⟩, none⟩,
    ⟨[2], ⟨2, 0, 2, widthOf ["package ", s.package, ";"]⟩, none⟩] ++
  messages.zipIdx.flatMap (fun ((m, line), i) => m.locations [4, i] line) ++
  s.service.locations [6, 0] serviceLine

def encode (s : Schema) : List UInt8 :=
  textPart 1 s.file ++ textPart 2 s.package ++
    (s.messages.flatMap fun m => messagePart 4 m.encode) ++
    messagePart 6 (s.service.encode s.package) ++
    messagePart 9 (s.locations.flatMap fun l => messagePart 1 l.encode) ++
    textPart 12 dialect

def encodeSet (s : Schema) : List UInt8 := messagePart 1 s.encode

end Schema

end Menagerie.Wire
