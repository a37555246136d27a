/-!
# Dates and times in text

Instants are milliseconds since the start of 1970 in the Gregorian calendar. They are written as a
date and a time of day in universal time, and read with any offset from it.
-/

namespace Menagerie.Text

structure Date where
  year : Nat
  month : Nat
  day : Nat
  deriving DecidableEq, Inhabited, Repr

namespace Date

def isLeap (year : Nat) : Bool := year % 4 = 0 && (year % 100 ≠ 0 || year % 400 = 0)

def monthLength (year month : Nat) : Nat :=
  if month = 2 then if isLeap year then 29 else 28
  else if month = 4 ∨ month = 6 ∨ month = 9 ∨ month = 11 then 30
  else 31

def isValid (d : Date) : Bool :=
  1 ≤ d.month && d.month ≤ 12 && 1 ≤ d.day && d.day ≤ monthLength d.year d.month

def daysBefore (year : Nat) : Nat :=
  if year = 0 then 0 else 365 * year + (year - 1) / 4 - (year - 1) / 100 + (year - 1) / 400 + 1

def daysBeforeMonth (year month : Nat) : Nat :=
  (List.range (month - 1)).foldr (fun m days => monthLength year (m + 1) + days) 0

def epoch : Nat := daysBefore 1970

def toDays (d : Date) : Int :=
  (daysBefore d.year + daysBeforeMonth d.year d.month + (d.day - 1) : Nat) - (epoch : Int)

/-- The month and the day after so many days of a year; `month` is the first that is left. -/
def findMonth (year : Nat) : Nat → Nat → Nat → Nat × Nat
  | 0, month, days => (month, days + 1)
  | fuel + 1, month, days =>
    let length := monthLength year month
    if days < length then (month, days + 1) else findMonth year fuel (month + 1) (days - length)

def ofDays (days : Nat) : Date :=
  let total := epoch + days
  let guess := total / 366
  let steps := total / 365 + 1 - guess
  let year := (List.range steps).foldl
    (fun year i => if daysBefore (guess + i) ≤ total then guess + i else year) guess
  let (month, day) := findMonth year 12 1 (total - daysBefore year)
  ⟨year, month, day⟩

end Date

namespace DateTime

def dayLength : Nat := 86400000

def padded (width n : Nat) : List Char :=
  let digits := Nat.toDigits 10 n
  List.replicate (width - digits.length) '0' ++ digits

def fraction (ms : Nat) : List Char :=
  if ms = 0 then []
  else '.' :: ((padded 3 ms).reverse.dropWhile (· = '0')).reverse

def write (ms : Nat) : String :=
  let date := Date.ofDays (ms / dayLength)
  let time := ms % dayLength
  String.ofList (padded 4 date.year ++ '-' :: padded 2 date.month ++ '-' :: padded 2 date.day ++
    'T' :: padded 2 (time / 3600000) ++ ':' :: padded 2 (time / 60000 % 60) ++
    ':' :: padded 2 (time / 1000 % 60) ++ fraction (time % 1000) ++ ['Z'])

def number? (digits : List Char) : Option Nat :=
  if digits.all Char.isDigit then
    some (digits.foldl (fun n c => 10 * n + (c.toNat - '0'.toNat)) 0)
  else none

def take? (width : Nat) (text : List Char) : Option (Nat × List Char) :=
  if width ≤ text.length then (number? (text.take width)).map fun n => (n, text.drop width)
  else none

def expect? (c : Char) : List Char → Option (List Char)
  | d :: rest => if c = d then some rest else none
  | [] => none

/-- The nanoseconds of the digits after the point; digits beyond the ninth count for nothing. -/
def nanos? (text : List Char) : Option (Nat × List Char) :=
  match text with
  | '.' :: rest =>
    let digits := rest.takeWhile Char.isDigit
    if digits = [] then none
    else
      let kept := digits.take 9
      (number? kept).map fun n => (n * Nat.pow 10 (9 - kept.length), rest.dropWhile Char.isDigit)
  | _ => some (0, text)

def offset? (text : List Char) : Option Int :=
  match text with
  | ['Z'] | ['z'] => some 0
  | sign :: rest => do
    let (hours, rest) ← take? 2 rest
    let rest ← expect? ':' rest
    let (minutes, rest) ← take? 2 rest
    if rest ≠ [] ∨ 23 < hours ∨ 59 < minutes then none
    else
      let seconds : Int := hours * 3600 + minutes * 60
      if sign = '+' then some seconds else if sign = '-' then some (-seconds) else none
  | [] => none

/-- The instant of a text, to the millisecond towards 1970. A second numbered 60 must be the last of
a month in universal time, and counts as the end of the second before it. -/
def read? (text : List Char) : Option Int := do
  let (year, text) ← take? 4 text
  let text ← expect? '-' text
  let (month, text) ← take? 2 text
  let text ← expect? '-' text
  let (day, text) ← take? 2 text
  let text ← match text with
    | separator :: rest => if separator.isDigit then none else some rest
    | [] => none
  let (hour, text) ← take? 2 text
  let text ← expect? ':' text
  let (minute, text) ← take? 2 text
  let text ← expect? ':' text
  let (second, text) ← take? 2 text
  let (nanos, text) ← nanos? text
  let offset ← offset? text
  let date : Date := ⟨year, month, day⟩
  if ! date.isValid ∨ 23 < hour ∨ 59 < minute ∨ 60 < second then none
  else
    let leap := second = 60
    let second := if leap then 59 else second
    let nanos := if leap then 999999999 else nanos
    let time : Int := hour * 3600 + minute * 60 + second
    let seconds := date.toDays * 86400 + time - offset
    if leap then
      let day := seconds.fdiv 86400
      let next := Date.ofDays (day + 1).toNat
      if seconds.fmod 86400 ≠ 86399 ∨ day < 0 ∨ next.day ≠ 1 then none
      else some ((seconds * 1000000000 + nanos).tdiv 1000000)
    else some ((seconds * 1000000000 + nanos).tdiv 1000000)

end DateTime

end Menagerie.Text
