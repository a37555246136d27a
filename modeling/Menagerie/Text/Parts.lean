/-!
# Parts of a text

The characters with the Unicode property `White_Space`, texts trimmed of them at both ends, and the
parts of a text between separators.
-/

namespace Menagerie.Text

def isBlank (c : Char) : Bool :=
  let n := c.toNat
  9 ≤ n && n ≤ 13 || n = 0x20 || n = 0x85 || n = 0xa0 || n = 0x1680 || 0x2000 ≤ n && n ≤ 0x200a ||
    n = 0x2028 || n = 0x2029 || n = 0x202f || n = 0x205f || n = 0x3000

def dropTrailing (p : Char → Bool) (cs : List Char) : List Char :=
  (cs.reverse.dropWhile p).reverse

def trimChars (cs : List Char) : List Char := dropTrailing isBlank (cs.dropWhile isBlank)

def trim (s : String) : String := String.ofList (trimChars s.toList)

def trimEnd (s : String) : String := String.ofList (dropTrailing isBlank s.toList)

def allBlank (s : String) : Bool := s.toList.all isBlank

/-- The parts between separators; there is always at least one. -/
def split (separator : Char) : List Char → List (List Char)
  | [] => [[]]
  | c :: rest =>
    match split separator rest with
    | [] => [[c]]
    | part :: parts => if c = separator then [] :: part :: parts else (c :: part) :: parts

/-- The parts that separators end; a separator at the end begins no further part. -/
def splitTerminated (separator : Char) (cs : List Char) : List (List Char) :=
  let parts := split separator cs
  if parts.getLast? = some [] then parts.dropLast else parts

def splitFirst? (separator : Char) : List Char → Option (List Char × List Char)
  | [] => none
  | c :: rest =>
    if c = separator then some ([], rest)
    else (splitFirst? separator rest).map fun (before, after) => (c :: before, after)

end Menagerie.Text
