import Menagerie.Text.Parts
import Menagerie.Text.Digits
import Menagerie.Text.Quoted

/-!
# What a program takes on its command line

A program has options, each with a long name, an environment variable and a default. A value comes
from the command line, else from the environment, else it is the default.

The short help has one entry a line, or two when the option column would take more than two fifths
of a hundred columns. The long help has a paragraph for every option.
-/

namespace Menagerie.CommandLine

inductive Domain where
  | text
  | natural (most : Nat)
  /-- A 64-bit integer from 0 to `most`; one out of this range is named in the complaint. -/
  | within (most : Nat)
  deriving DecidableEq, Repr

def Domain.complaint? (d : Domain) (text : String) : Option String :=
  match d with
  | .text => none
  | .natural most =>
    match Text.readNatural most text with
    | .ok _ => none
    | .error fault => some fault.message
  | .within most =>
    match Text.readInteger text with
    | .ok n =>
      if 0 ≤ n ∧ n ≤ most then none
      else some (toString n ++ " is not in 0..=" ++ toString most)
    | .error fault => some fault.message

structure Flag where
  name : String
  env : String
  default : String
  domain : Domain := .text
  summary : String
  notes : List String := []
  deriving Repr

namespace Flag

def valueName (f : Flag) : String :=
  String.ofList (f.name.toList.map fun c => if c = '-' then '_' else c.toUpper)

def long (f : Flag) : String := "--" ++ f.name

def usage (f : Flag) : String := f.long ++ " <" ++ f.valueName ++ ">"

end Flag

structure Program where
  name : String
  version : String
  about : String
  overview : List String
  flags : List Flag

namespace Program

def flag? (p : Program) (name : String) : Option Flag := p.flags.find? (·.name = name)

def longNames (p : Program) : List String := p.flags.map (·.name) ++ ["help", "version"]

def versionText (p : Program) : String := p.name ++ " " ++ p.version ++ "\n"

def usageLine (called : String) (options : List String) : String :=
  "Usage: " ++ called ++ " " ++
    if options = [] then "[OPTIONS]" else String.intercalate " " options

end Program

-- ---------------------------------------------------------------------------
-- Help
-- ---------------------------------------------------------------------------

/-- The environment: the first entry of a name counts. -/
abbrev Environment := List (String × String)

namespace Flag

def defaultText (f : Flag) : String :=
  if f.default.toList.any Text.isBlank then Text.quote f.default else f.default

def sources (f : Flag) (environment : Environment) : List String :=
  ["[env: " ++ f.env ++ "=" ++ (environment.lookup f.env).getD "" ++ "]",
    "[default: " ++ f.defaultText ++ "]"]

end Flag

def spaces (n : Nat) : String := String.ofList (List.replicate n ' ')

namespace Program

def columnLimit : Nat := 40

def margin : Nat := 12

def entries (p : Program) (environment : Environment) : List (String × String) :=
  p.flags.map (fun f =>
    (spaces 6 ++ f.usage, String.intercalate " " (f.summary :: f.sources environment))) ++
  [("  -h, --help", "Print help (see more with '--help')"), ("  -V, --version", "Print version")]

def optionWidth (p : Program) : Nat :=
  p.flags.foldl (fun width f => max width f.usage.length) 0

def shortEntries (p : Program) (environment : Environment) : List String :=
  let width := p.optionWidth
  (p.entries environment).map fun (option, text) =>
    if columnLimit < width + margin then option ++ "\n" ++ spaces 10 ++ text
    else option ++ spaces (width + 8 - option.length) ++ text

def shortHelp (p : Program) (called : String) (environment : Environment) : String :=
  p.about ++ "\n\n" ++ usageLine called [] ++ "\n\nOptions:\n" ++
    String.intercalate "\n" (p.shortEntries environment) ++ "\n"

def longEntry (option : String) (paragraphs : List String) : String :=
  option ++ "\n" ++ spaces 10 ++ String.intercalate ("\n" ++ spaces 10) paragraphs

def longEntries (p : Program) (environment : Environment) : List String :=
  p.flags.map (fun f =>
    let paragraphs := (f.summary ++ ".") :: f.notes ++
      ["Environment variable: `" ++ f.env ++ "`"]
    longEntry (spaces 6 ++ f.usage)
      (paragraphs.flatMap (fun paragraph => [paragraph, ""]) ++ f.sources environment)) ++
  [longEntry "  -h, --help" ["Print help (see a summary with '-h')"],
    longEntry "  -V, --version" ["Print version"]]

def longHelp (p : Program) (called : String) (environment : Environment) : String :=
  String.intercalate "\n\n" p.overview ++ "\n\n" ++ usageLine called [] ++ "\n\nOptions:\n" ++
    String.intercalate "\n\n" (p.longEntries environment) ++ "\n"

end Program

end Menagerie.CommandLine
