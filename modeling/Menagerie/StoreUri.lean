import Menagerie.Failure
import Menagerie.Text.Parts

/-!
# Store URIs

Where documents are kept: in this process, or on a database server. The text of a server may hold
credentials before an `@` in its authority, so `StoreUri.display` masks them; nothing else shows a
store URI.
-/

namespace Menagerie

inductive StoreUri where
  /-- A connection string, kept as it was given. -/
  | mongo (uri : String)
  | memory
  deriving DecidableEq, Inhabited, Repr

namespace StoreUri

def separator : List Char := [':', '/', '/']

def splitScheme? : List Char → Option (List Char × List Char)
  | ':' :: '/' :: '/' :: rest => some ([], rest)
  | c :: rest => (splitScheme? rest).map fun (scheme, rest) => (c :: scheme, rest)
  | [] => none

def endsAuthority (c : Char) : Bool := c = '/' || c = '?'

def afterLastAt? (authority : List Char) : Option (List Char) :=
  if '@' ∈ authority then some (authority.reverse.takeWhile (· ≠ '@')).reverse else none

/-- Replaces all before the last `@` of the authority by three stars. -/
def mask (uri : List Char) : List Char :=
  match splitScheme? uri with
  | none => uri
  | some (scheme, rest) =>
    let authority := rest.takeWhile (! endsAuthority ·)
    let tail := rest.dropWhile (! endsAuthority ·)
    match afterLastAt? authority with
    | none => uri
    | some hosts => scheme ++ separator ++ "***@".toList ++ hosts ++ tail

def schemes : List String := ["mongodb://", "mongodb+srv://"]

/-- Reads a URI; white space around it is ignored. -/
def parse (text : String) : Except Failure StoreUri :=
  let uri := Text.trim text
  if uri = "memory" ∨ uri = "memory://" then .ok .memory
  else if schemes.any fun scheme => scheme.toList.isPrefixOf uri.toList then .ok (.mongo uri)
  else .error (.invalidConfig ("unsupported store URI `" ++ uri ++ "`"))

def display : StoreUri → String
  | .mongo uri => String.ofList (mask uri.toList)
  | .memory => "memory://"

/-- In diagnostic output, too, a store URI is masked. -/
def detail (s : StoreUri) : String := s.display

end StoreUri

end Menagerie
