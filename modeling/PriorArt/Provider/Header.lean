import PriorArt.Json.Basic
import PriorArt.Number.Decimal
import PriorArt.Provider.Failure
import PriorArt.Text.Blank

/-!
# Request headers

Headers are kept by their names in lower case, each with one value. A request carries the
credentials of its service and the headers that the configuration adds, which may replace them.
-/

namespace PriorArt

/-- Header names in lower case with their values. -/
abbrev Headers := List (String × String)

namespace Headers

def nameSigns : List Char :=
  ['!', '#', '$', '%', '&', '\x27', '*', '+', '-', '.', '^', '_', '\x60', '|', '~']

def isNameChar (c : Char) : Bool :=
  c.isAlphanum || nameSigns.contains c

def mostName : Nat := 65535

def name? (raw : String) : Except Failure String :=
  if !raw.isEmpty && raw.toList.all isNameChar && raw.length ≤ mostName then
    .ok (String.ofList (raw.toList.map Char.toLower))
  else .error .badHeaderName

/-- The character may occur in a header value: no control character but the tab. -/
def isValueChar (c : Char) : Bool :=
  c = '\t' || (' ' ≤ c && c ≠ '\x7f')

def value? (raw : String) : Except Failure String :=
  if raw.toList.all isValueChar then .ok raw else .error .badHeaderValue

def insert (headers : Headers) (name value : String) : Headers :=
  headers.filter (fun h => h.1 ≠ name) ++ [(name, value)]

/-- Adds configured headers in their order. -/
def extend (headers : Headers) : List (String × Json) → Except Failure Headers
  | [] => .ok headers
  | (name, .string value) :: rest => do
    let name ← name? name
    let value ← value? value
    extend (headers.insert name value) rest
  | _ :: _ => .error (.invalidConfig "Default header values must be strings.")

def bearer (key : String) (configured : List (String × Json)) : Except Failure Headers := do
  extend [("authorization", ← value? ("Bearer " ++ key))] configured

def apiKey (key : String) (configured : List (String × Json)) : Except Failure Headers := do
  extend [("x-api-key", ← value? key)] configured

/-- The character is visible ASCII or a tab. -/
def isPlain (c : Char) : Bool :=
  c = '\t' || (' ' ≤ c && c < '\x7f')

/-- The seconds that the first value of a Retry-After header asks to wait: whole seconds only. -/
def retryAfter? : List String → Option Nat
  | [] => none
  | value :: _ =>
    if value.toList.all isPlain then Decimal.word? (Text.trimList value.toList) else none

end Headers

end PriorArt
