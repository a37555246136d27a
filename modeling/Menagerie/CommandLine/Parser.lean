import Menagerie.CommandLine.Program

/-!
# Reading a command line

Words are taken one by one. An option that still waits for its value, or has one that was not looked
at yet, is settled when the next option comes or when the words end; an unknown word is reported
whatever the option before it was given.

What a mistyped option meant is guessed by the Jaro similarity of two words: how many characters they
share within a window of half the longer length, and how many of those are out of order.
-/

namespace Menagerie.CommandLine

-- ---------------------------------------------------------------------------
-- Similar words
-- ---------------------------------------------------------------------------

structure Likeness where
  num : Nat
  den : Nat

/-- Takes the first free character equal to `c` at an index from `least` to below `bound`, and marks
it as taken. -/
def claim? (c : Char) (least bound : Nat) (index : Nat) :
    List (Char × Bool) → Option (List (Char × Bool))
  | [] => none
  | (d, taken) :: rest =>
    if bound ≤ index then none
    else if least ≤ index ∧ d = c ∧ taken = false then some ((d, true) :: rest)
    else (claim? c least bound (index + 1) rest).map ((d, taken) :: ·)

/-- The characters of `a` that find a partner in `b`, and `b` with its partners marked. -/
def sharedIn (window index : Nat) :
    List Char → List (Char × Bool) → List Char × List (Char × Bool)
  | [], b => ([], b)
  | c :: rest, b =>
    match claim? c (index - window) (index + window + 1) 0 b with
    | some b =>
      let (shared, b) := sharedIn window (index + 1) rest b
      (c :: shared, b)
    | none => sharedIn window (index + 1) rest b

def likeness (a b : List Char) : Likeness :=
  if a = [] ∧ b = [] then ⟨1, 1⟩
  else
    let window := max a.length b.length / 2 - 1
    let (ours, marked) := sharedIn window 0 a (b.map (·, false))
    let theirs := (marked.filter (·.2)).map (·.1)
    let m := ours.length
    if m = 0 then ⟨0, 1⟩
    else
      let swaps := ((ours.zip theirs).filter fun (c, d) => c ≠ d).length / 2
      ⟨m * m * b.length + m * m * a.length + (m - swaps) * a.length * b.length,
        3 * a.length * b.length * m⟩

def Likeness.above (l : Likeness) (tenths : Nat) : Bool := tenths * l.den < 10 * l.num

def Likeness.atLeast (l other : Likeness) : Bool := other.num * l.den ≤ l.num * other.den

/-- The most similar candidate above 0.7; of equals the last. -/
def mostSimilar? (word : String) (candidates : List String) : Option String :=
  let best := candidates.foldl (fun (best : Option (Likeness × String)) candidate =>
    let l := likeness word.toList candidate.toList
    if l.above 7 then
      match best with
      | none => some (l, candidate)
      | some (held, other) => if l.atLeast held then some (l, candidate) else some (held, other)
    else best) none
  best.map (·.2)

-- ---------------------------------------------------------------------------
-- Words
-- ---------------------------------------------------------------------------

inductive Refusal where
  | shortHelp
  | longHelp
  | version
  /-- `options` are the ones that the usage line shows. -/
  | unknown (word : String) (similar : Option String) (options : List String)
  | missingValue (flag : Flag)
  | invalidValue (flag : Flag) (value reason : String)
  | repeated (flag : Flag)
  | needlessValue (option value : String) (options : List String)
  deriving Repr

namespace Refusal

def kind : Refusal → String
  | .shortHelp | .longHelp => "DisplayHelp"
  | .version => "DisplayVersion"
  | .unknown .. => "UnknownArgument"
  | .missingValue _ => "InvalidValue"
  | .invalidValue .. => "ValueValidation"
  | .repeated _ => "ArgumentConflict"
  | .needlessValue .. => "TooManyValues"

def isAnswer : Refusal → Bool
  | .shortHelp | .longHelp | .version => true
  | _ => false

def headline : Refusal → String
  | .shortHelp | .longHelp | .version => ""
  | .unknown word .. => "error: unexpected argument '" ++ word ++ "' found"
  | .missingValue flag =>
    "error: a value is required for '" ++ flag.usage ++ "' but none was supplied"
  | .invalidValue flag value reason =>
    "error: invalid value '" ++ value ++ "' for '" ++ flag.usage ++ "': " ++ reason
  | .repeated flag =>
    "error: the argument '" ++ flag.usage ++ "' cannot be used multiple times"
  | .needlessValue option value _ =>
    "error: unexpected value '" ++ value ++ "' for '" ++ option ++
      "' found; no more were expected"

def tip : Refusal → String
  | .unknown _ (some name) _ => "\n\n  tip: a similar argument exists: '--" ++ name ++ "'"
  | _ => ""

def usage (called : String) : Refusal → String
  | .unknown _ _ options | .needlessValue _ _ options =>
    "\n\n" ++ Program.usageLine called options
  | .repeated _ => "\n\n" ++ Program.usageLine called []
  | _ => ""

def render (p : Program) (called : String) (environment : Environment) (r : Refusal) : String :=
  match r with
  | .shortHelp => p.shortHelp called environment
  | .longHelp => p.longHelp called environment
  | .version => p.versionText
  | _ => r.headline ++ r.tip ++ r.usage called ++ "\n\nFor more information, try '--help'.\n"

end Refusal

structure Pending where
  flag : Flag
  value : Option String

structure Progress where
  given : List (Flag × String) := []
  pending : Option Pending := none
  optionsEnded : Bool := false

namespace Progress

def options (s : Progress) : List String := s.given.map fun (flag, _) => flag.usage

def accept (s : Progress) (flag : Flag) (value : String) : Progress × Option Refusal :=
  if s.given.any (·.1.name = flag.name) then (s, some (.repeated flag))
  else
    let s := { s with given := s.given ++ [(flag, value)] }
    match flag.domain.complaint? value with
    | none => (s, none)
    | some reason => (s, some (.invalidValue flag value reason))

def settle (s : Progress) : Progress × Option Refusal :=
  match s.pending with
  | none => (s, none)
  | some ⟨flag, none⟩ => ({ s with pending := none }, some (.missingValue flag))
  | some ⟨flag, some value⟩ => { s with pending := none }.accept flag value

def settled (s : Progress) : Except Refusal Progress :=
  match s.settle with
  | (s, none) => .ok s
  | (_, some refusal) => .error refusal

def longOption (p : Program) (s : Progress) (name : String) (value : Option String) :
    Except Refusal Progress :=
  if name = "help" ∨ name = "version" then
    match value with
    | some value =>
      .error (.needlessValue ("--" ++ name) value (s.options ++ ["--" ++ name]))
    | none => do
      let _ ← s.settled
      .error (if name = "help" then .longHelp else .version)
  else
    match p.flag? name with
    | some flag => do
      let s ← s.settled
      match value with
      | none => pure { s with pending := some ⟨flag, none⟩ }
      | some value =>
        match s.accept flag value with
        | (s, none) => pure s
        | (_, some refusal) => .error refusal
    | none =>
      let (s, _) := s.settle
      let similar := mostSimilar? name p.longNames
      let suggested := similar.map fun other =>
        match p.flag? other with
        | some flag => flag.usage
        | none => "--" ++ other
      let options := match suggested with
        | some option => if option ∈ s.options then s.options else s.options ++ [option]
        | none => s.options
      .error (.unknown ("--" ++ name) similar options)

def shortOption (s : Progress) (letter : Char) : Except Refusal Progress :=
  if letter = 'h' ∨ letter = 'V' then do
    let _ ← s.settled
    .error (if letter = 'h' then .shortHelp else .version)
  else .error (.unknown (String.ofList ['-', letter]) none [])

/-- A word that is no option: the value that is waited for, or a stray word. -/
def plainWord (s : Progress) (word : String) : Except Refusal Progress :=
  match s.pending, s.optionsEnded with
  | some ⟨flag, none⟩, false => .ok { s with pending := some ⟨flag, some word⟩ }
  | _, _ => .error (.unknown word none [])

def step (p : Program) (s : Progress) (word : String) : Except Refusal Progress :=
  if s.optionsEnded then s.plainWord word
  else match word.toList with
    | ['-', '-'] => .ok { s with optionsEnded := true }
    | '-' :: '-' :: rest =>
      let name := rest.takeWhile (· ≠ '=')
      let value := (rest.dropWhile (· ≠ '=')).tail?
      s.longOption p (String.ofList name) (value.map String.ofList)
    | '-' :: letter :: _ => s.shortOption letter
    | _ => s.plainWord word

end Progress

/-- The value of every option: from the words, else from the environment, else the default. -/
structure Arguments where
  values : List (String × String)

namespace Arguments

def text (a : Arguments) (name : String) : String := (a.values.lookup name).getD ""

def natural (a : Arguments) (name : String) : Nat :=
  match Text.readInteger (a.text name), Text.readNatural (UInt64.size - 1) (a.text name) with
  | _, .ok n => n
  | .ok n, _ => n.toNat
  | _, _ => 0

end Arguments

def Program.value (environment : Environment) (given : List (Flag × String)) (flag : Flag) :
    Except Refusal String :=
  match given.find? (·.1.name = flag.name), environment.lookup flag.env with
  | some (_, value), _ => .ok value
  | none, some value =>
    match flag.domain.complaint? value with
    | none => .ok value
    | some reason => .error (.invalidValue flag value reason)
  | none, none => .ok flag.default

def Program.parse (p : Program) (environment : Environment) (words : List String) :
    Except Refusal Arguments := do
  let s ← words.foldlM (Progress.step p) {}
  let s ← s.settled
  let values ← p.flags.mapM fun flag => do
    pure (flag.name, ← Program.value environment s.given flag)
  pure ⟨values⟩

end Menagerie.CommandLine
