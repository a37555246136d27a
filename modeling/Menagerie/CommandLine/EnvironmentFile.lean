import Menagerie.CommandLine.Program
import Menagerie.Text.Parts

/-!
# Environment files

A file of assignments that complete the environment. Lines belong together while a quote is open. An
assignment has a name, an equality sign and a value; the value may be quoted, may hold escapes, and
may refer to variables that are set already. Variables that the environment has keep their values,
and the first line that cannot be read ends the file.
-/

namespace Menagerie.CommandLine.EnvironmentFile

/-! ## Lines that belong together -/

inductive Openness where
  | nothing
  | blank
  | escape
  | strong
  | strongEscape
  | weak
  | weakEscape
  deriving DecidableEq, Repr

def Openness.step (o : Openness) (c : Char) : Openness :=
  match o with
  | .escape => .nothing
  | .nothing =>
    if Text.isBlank c ∧ c ≠ '\n' ∧ c ≠ '\r' then .blank
    else if c = '\\' then .escape
    else if c = '"' then .weak
    else if c = '\'' then .strong
    else .nothing
  | .blank =>
    if c = '\\' then .escape else if c = '"' then .weak else if c = '\'' then .strong else .nothing
  | .weak => if c = '\\' then .weakEscape else if c = '"' then .nothing else .weak
  | .weakEscape => .weak
  | .strong => if c = '\\' then .strongEscape else if c = '\'' then .nothing else .strong
  | .strongEscape => .strong

/-- The line up to its comment, and what is open at its end: `none` if a comment ends it. -/
def scan (o : Openness) : List Char → List Char × Option Openness
  | [] => ([], some o)
  | c :: rest =>
    if o = .blank ∧ c = '#' then ([], none)
    else
      let (kept, ended) := scan (o.step c) rest
      (c :: kept, ended)

def lines : List Char → List (List Char)
  | [] => []
  | c :: rest =>
    if c = '\n' then [c] :: lines rest
    else match lines rest with
      | [] => [[c]]
      | line :: others => (c :: line) :: others

def chomp (line : List Char) : List Char :=
  match line.reverse with
  | '\n' :: '\r' :: rest => rest.reverse
  | '\n' :: rest => rest.reverse
  | _ => line

def isComment (line : List Char) : Bool := (line.dropWhile Text.isBlank).head? = some '#'

/-- The statements of a file; `none` stands for one that the end of the file cuts off. -/
def statements (o : Openness) (before : List Char) : List (List Char) → List (Option (List Char))
  | [] => if o = .nothing then [] else [none]
  | line :: rest =>
    if isComment (before ++ line) then statements .nothing [] rest
    else
      let (kept, ended) := scan o line
      match ended with
      | none => some (before ++ kept) :: statements .nothing [] rest
      | some .nothing => some (chomp (before ++ kept)) :: statements .nothing [] rest
      | some o => statements o (before ++ kept) rest

/-! ## Values -/

inductive Mode where
  | text
  | strong
  | escape
  /-- After a blank: only a comment may follow. -/
  | ending
  | comment
  | reference (name : List Char)
  | braced (name : List Char)
  deriving DecidableEq, Repr

structure Progress where
  mode : Mode := .text
  /-- Between double quotes. -/
  weak : Bool := false
  done : List Char := []

def valueOf (environment : Environment) (name : List Char) : List Char :=
  ((environment.lookup (String.ofList name)).getD "").toList

def unescape? (c : Char) : Option Char :=
  if c = 'n' then some '\n' else if "\\'\"$ ".toList.contains c then some c else none

namespace Progress

def push (p : Progress) (cs : List Char) : Progress := { p with mode := .text, done := p.done ++ cs }

def plain (p : Progress) (c : Char) : Progress :=
  if c = '$' then { p with mode := .reference [] }
  else if c = '\\' then { p with mode := .escape }
  else if c = '"' then { p with weak := ! p.weak }
  else if p.weak then p.push [c]
  else if c = '\'' then { p with mode := .strong }
  else if c = ' ' ∨ c = '\t' then { p with mode := .ending }
  else p.push [c]

def step (environment : Environment) (p : Progress) (c : Char) : Option Progress :=
  match p.mode with
  | .text => some (p.plain c)
  | .comment => some p
  | .ending =>
    if c = ' ' ∨ c = '\t' then some p
    else if c = '#' then some { p with mode := .comment }
    else none
  | .escape => (unescape? c).map fun c => p.push [c]
  | .strong =>
    if c = '\'' then some { p with mode := .text } else some { p with done := p.done ++ [c] }
  | .reference name =>
    if c.isAlphanum then some { p with mode := .reference (name ++ [c]) }
    else if c = '{' ∧ name = [] then some { p with mode := .braced [] }
    else
      let p := p.push (valueOf environment name)
      if c = '$' then some { p with mode := .reference [] } else some (p.push [c])
  | .braced name =>
    if c.isAlphanum ∨ c ≠ '}' then some { p with mode := .braced (name ++ [c]) }
    else some (p.push (valueOf environment name))

def finish (environment : Environment) (p : Progress) : Option (List Char) :=
  if p.weak then none
  else match p.mode with
    | .strong | .braced _ => none
    | .reference name => some (p.done ++ valueOf environment name)
    | _ => some p.done

end Progress

def value? (environment : Environment) (text : List Char) : Option (List Char) :=
  (text.foldlM (Progress.step environment) {}).bind (Progress.finish environment)

/-! ## Assignments -/

def isNameStart (c : Char) : Bool := c.isAlpha || c = '_'

def isNameChar (c : Char) : Bool := c.isAlphanum || c = '_' || c = '.'

def name? (text : List Char) : Option (List Char × List Char) :=
  if text.head?.any isNameStart then
    some (text.takeWhile isNameChar, (text.dropWhile isNameChar).dropWhile Text.isBlank)
  else none

def equals? (text : List Char) : Option (List Char) :=
  match text with
  | '=' :: rest => some (rest.dropWhile Text.isBlank)
  | _ => none

/-- The name and the text of the value; `export` may stand in front. -/
def assignment? (text : List Char) : Option (List Char × List Char) := do
  let (name, rest) ← name? text
  match equals? rest with
  | some value => some (name, value)
  | none =>
    if name = "export".toList then
      let (name, rest) ← name? rest
      some (name, ← equals? rest)
    else none

def isEmpty (text : List Char) : Bool := text = [] ∨ text.head? = some '#'

def assign? (environment : Environment) (statement : List Char) : Option Environment :=
  let text := (Text.dropTrailing Text.isBlank statement).dropWhile Text.isBlank
  if isEmpty text then some environment
  else do
    let (name, value) ← assignment? text
    let value ← if isEmpty value then some [] else value? environment value
    let name := String.ofList name
    if (environment.lookup name).isSome then some environment
    else some (environment ++ [(name, String.ofList value)])

/-- Takes statements until one cannot be read. -/
def extend (environment : Environment) : List (Option (List Char)) → Environment
  | some statement :: rest =>
    match assign? environment statement with
    | some environment => extend environment rest
    | none => environment
  | _ => environment

/-- The environment completed by a file. A mark for the order of bytes may stand at the start. -/
def load (environment : Environment) (file : String) : Environment :=
  let text := match file.toList with
    | '\ufeff' :: rest => rest
    | text => text
  extend environment (statements .nothing [] (lines text))

end Menagerie.CommandLine.EnvironmentFile
