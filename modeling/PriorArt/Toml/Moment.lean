import PriorArt.Json.Basic
import PriorArt.Number.Decimal
import PriorArt.Text.Blank

/-!
# Dates and times in TOML

A moment is a date, a time of day or both, where the two together may tell the distance from
universal time. Every reader gives what it has read in the form in which it is written, and the text
after it.
-/

namespace PriorArt.Toml

namespace Moment

def pair? : List Char → Option (Nat × List Char)
  | a :: b :: cs =>
    if Decimal.isDigit a && Decimal.isDigit b then some (Decimal.ofDigits [a, b], cs) else none
  | _ => none

def isLeapYear (year : Nat) : Bool :=
  year % 4 = 0 && (year % 100 ≠ 0 || year % 400 = 0)

def daysIn (year month : Nat) : Nat :=
  if month = 2 then if isLeapYear year then 29 else 28
  else if month = 4 || month = 6 || month = 9 || month = 11 then 30
  else 31

def dateLength : Nat := "0000-00-00".length

def date? (cs : List Char) : Option (List Char × List Char) := do
  let (century, rest) ← pair? cs
  let (year, rest) ← pair? rest
  let '-' :: rest := rest | none
  let (month, rest) ← pair? rest
  let '-' :: rest := rest | none
  let (day, rest) ← pair? rest
  if 1 ≤ month && month ≤ 12 && 1 ≤ day && day ≤ daysIn (century * 100 + year) month then
    some (cs.take dateLength, rest)
  else none

def minutesLength : Nat := "00:00".length

def minutes? (cs : List Char) : Option (List Char × List Char) := do
  let (hour, rest) ← pair? cs
  let ':' :: rest := rest | none
  let (minute, rest) ← pair? rest
  if hour ≤ 23 && minute ≤ 59 then some (cs.take minutesLength, rest) else none

/-- The digits of a fraction that are kept. -/
def fractionLength : Nat := 9

/-- The fraction of a second that digits tell: without zeros at its end, but with one digit at
least. -/
def fraction (digits : List Char) : List Char :=
  match Text.dropEndWhile (· = '0') (digits.take fractionLength) with
  | [] => ['.', '0']
  | kept => '.' :: kept

def time? (cs : List Char) : Option (List Char × List Char) := do
  let (minutes, cs) ← minutes? cs
  let ':' :: seconds := cs | some (minutes, cs)
  let (second, rest) ← pair? seconds
  if 60 < second then none
  let time := minutes ++ ':' :: seconds.take 2
  let '.' :: rest := rest | some (time, rest)
  let digits := rest.takeWhile Decimal.isDigit
  if digits.isEmpty then none else some (time ++ fraction digits, rest.drop digits.length)

/-- No distance, behind whatever sign. -/
def noDistance : List Char := ['0', '0', ':', '0', '0']

def offset? : List Char → Option (List Char × List Char)
  | 'Z' :: cs => some (['Z'], cs)
  | 'z' :: cs => some (['Z'], cs)
  | '+' :: cs => (minutes? cs).map fun (minutes, rest) => ('+' :: minutes, rest)
  | '-' :: cs => (minutes? cs).map fun (minutes, rest) =>
      ((if minutes = noDistance then '+' else '-') :: minutes, rest)
  | cs => some ([], cs)

/-- A time of day and a distance, after a date. -/
def afterDate? (date cs : List Char) : Option (List Char × List Char) := do
  let (time, cs) ← time? cs
  let (offset, cs) ← offset? cs
  return (date ++ 'T' :: time ++ offset, cs)

def read? (cs : List Char) : Option (List Char × List Char) :=
  match date? cs with
  | none => time? cs
  | some (date, rest) =>
    match rest with
    | 'T' :: time => afterDate? date time
    | 't' :: time => afterDate? date time
    | ' ' :: time => if (time? time).isSome then afterDate? date time else some (date, rest)
    | rest => some (date, rest)

/-- The name of the one member of a moment. -/
def memberName : String := "$__toml_private_datetime"

end Moment

def moment? (cs : List Char) : Option (Json × List Char) :=
  (Moment.read? cs).map fun (moment, rest) =>
    (.object [(Moment.memberName, .string (String.ofList moment))], rest)

end PriorArt.Toml
