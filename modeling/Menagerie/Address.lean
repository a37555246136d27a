/-!
# Server addresses

A URI with a scheme and an authority. The characters of an authority are restricted, those of a path
and a query much less; a fragment is dropped. `Address.text` writes an address back, with `/` for an
empty path.
-/

namespace Menagerie

inductive AddressFault where
  | empty
  | tooLong
  | schemeTooLong
  | invalidCharacter
  | invalidAuthority
  | invalidFormat
  deriving DecidableEq, Inhabited, Repr

def AddressFault.message : AddressFault → String
  | .empty => "empty string"
  | .tooLong => "uri too long"
  | .schemeTooLong => "scheme too long"
  | .invalidCharacter => "invalid uri character"
  | .invalidAuthority => "invalid authority"
  | .invalidFormat => "invalid format"

structure Address where
  /-- Absent only in a bare path. -/
  scheme : Option String
  authority : String
  /-- Path and query. -/
  path : String
  deriving DecidableEq, Inhabited, Repr

namespace Address

def lengthLimit : Nat := 65534

def schemeLimit : Nat := 64

def colonLimit : Nat := 8

def isSchemeChar (c : Char) : Bool := c.isAlphanum || c = '+' || c = '-' || c = '.'

def isAuthorityChar (c : Char) : Bool := c.isAlphanum || "!$&'()*+,-.;=_~:@[]".toList.contains c

def endsAuthority (c : Char) : Bool := c = '/' || c = '?' || c = '#'

/-- The text before `://` when all of it may stand in a scheme, and the text after it. A colon that
is not followed by two slashes ends the search. -/
def splitScheme? : List Char → Option (List Char × List Char)
  | [] => none
  | ':' :: rest =>
    match rest with
    | '/' :: '/' :: rest => some ([], rest)
    | _ => none
  | c :: rest =>
    if isSchemeChar c then (splitScheme? rest).map fun (scheme, rest) => (c :: scheme, rest)
    else none

/-- Well-known schemes are taken in any letter case. -/
def normalScheme (scheme : String) : String :=
  let lower := String.ofList (scheme.toList.map Char.toLower)
  if lower = "http" ∨ lower = "https" then lower else scheme

structure Seen where
  colons : Nat := 0
  opened : Bool := false
  closed : Bool := false
  percent : Bool := false
  atEnd : Bool := false

/-- A bracketed host and user information may hold colons; user information and the zone of a
bracketed host may hold percent signs. -/
def Seen.step (s : Seen) (c : Char) : Except AddressFault Seen :=
  let s := { s with atEnd := c = '@' }
  if c = ':' then
    if colonLimit ≤ s.colons then .error .invalidAuthority
    else .ok { s with colons := s.colons + 1 }
  else if c = '[' then
    if s.percent ∨ s.opened then .error .invalidAuthority else .ok { s with opened := true }
  else if c = ']' then
    if ¬ s.opened ∨ s.closed then .error .invalidAuthority
    else .ok { s with closed := true, colons := 0, percent := false }
  else if c = '@' then .ok { s with colons := 0, percent := false }
  else if c = '%' then .ok { s with percent := true }
  else if isAuthorityChar c then .ok s
  else .error .invalidCharacter

def checkAuthority (authority : List Char) : Except AddressFault Unit := do
  let s ← authority.foldlM Seen.step {}
  if s.opened ≠ s.closed ∨ 1 < s.colons ∨ s.atEnd ∨ s.percent then .error .invalidAuthority

def isPathChar (c : Char) : Bool :=
  let n := c.toNat
  n = 0x21 || n = 0x22 || 0x24 ≤ n && n ≤ 0x3b || n = 0x3d || 0x40 ≤ n && n ≤ 0x5f ||
    0x61 ≤ n && n ≤ 0x7e || 0x7f ≤ n

def isQueryChar (c : Char) : Bool :=
  let n := c.toNat
  n = 0x21 || 0x24 ≤ n && n ≤ 0x3b || n = 0x3d || 0x3f ≤ n

def readPath (text : List Char) : Except AddressFault String :=
  let path := text.takeWhile fun c => c ≠ '?' && c ≠ '#'
  let rest := (text.drop path.length).takeWhile (· ≠ '#')
  if path.all isPathChar ∧ rest.all isQueryChar then .ok (String.ofList (path ++ rest))
  else .error .invalidCharacter

def read (text : String) : Except AddressFault Address := do
  if lengthLimit < text.utf8ByteSize then throw .tooLong
  match text.toList with
  | [] => throw .empty
  | '/' :: rest => pure ⟨none, "", ← readPath ('/' :: rest)⟩
  | chars =>
    match if text.utf8ByteSize ≤ 3 then none else splitScheme? chars with
    | none =>
      let authority := chars.takeWhile (! endsAuthority ·)
      checkAuthority authority
      if authority.length = chars.length then pure ⟨none, text, ""⟩ else throw .invalidFormat
    | some (scheme, rest) =>
      if schemeLimit < scheme.length then throw .schemeTooLong
      if rest = [] then throw .empty
      let authority := rest.takeWhile (! endsAuthority ·)
      checkAuthority authority
      if authority = [] then throw .invalidFormat
      pure ⟨normalScheme (String.ofList scheme), String.ofList authority,
        ← readPath (rest.drop authority.length)⟩

def fullPath (a : Address) : String :=
  match a.scheme, a.path.toList with
  | some _, [] => "/"
  | some _, '?' :: _ => "/" ++ a.path
  | _, _ => a.path

def text (a : Address) : String :=
  (match a.scheme with
    | some scheme => scheme ++ "://"
    | none => "") ++ a.authority ++ a.fullPath

end Address

end Menagerie
