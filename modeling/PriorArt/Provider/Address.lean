import PriorArt.Provider.Host
import PriorArt.Text.Base64

/-!
# Web addresses

What a request takes from an address: the place it goes to, and what it names there, the path and
the query with the characters that may not stand in them written as bytes. The credentials before
an at sign become a header of the request.
-/

namespace PriorArt

/-- Where a request goes: a host, a port there, and whether what is sent is to be encrypted. -/
structure Place where
  isSecure : Bool
  host : Host
  port : Nat
  deriving DecidableEq

/-- A user and perhaps a password. The user may be empty if there is a password. -/
structure Credentials where
  user : String
  password : Option String
  deriving DecidableEq

/-- The place that a request goes to, what it names there, what is left of the address for whoever
names it, and the credentials of the request. -/
structure Address where
  place : Place
  target : String
  fragment : String
  credentials : Option Credentials
  deriving DecidableEq

/-! ## Credentials -/

namespace Credentials

def read? (cs : List Char) : Option Credentials := do
  let user := cs.takeWhile (· ≠ ':')
  let secret := cs.drop (user.length + 1)
  let name ← Utf8.decode? (Percent.decode user)
  let password := if secret.isEmpty then none else Utf8.decode? (Percent.decode secret)
  if name.isEmpty && password.isNone then none else some ⟨name, password⟩

def headerValue (credentials : Credentials) : String :=
  let secret := credentials.user ++ ":" ++ credentials.password.getD ""
  "Basic " ++ String.ofList (Base64.encode (Utf8.encode secret))

end Credentials

/-! ## Places -/

namespace Place

def defaultPort (isSecure : Bool) : Nat :=
  if isSecure then 443 else 80

/-- The port after the host: there is none, or a colon, with a number of 16 bits or without. -/
def port? (isSecure : Bool) : List Char → Option Nat
  | [] => some (defaultPort isSecure)
  | ':' :: digits =>
    if digits.isEmpty then some (defaultPort isSecure)
    else if digits.all Decimal.isDigit && Decimal.ofDigits digits < Nat.pow 2 16 then
      some (Decimal.ofDigits digits)
    else none
  | _ => none

/-- The text of the host at the beginning of the text of a place. Colons between brackets belong
to it. -/
def hostText (cs : List Char) : List Char :=
  match cs with
  | '[' :: rest =>
    let inner := rest.takeWhile (· ≠ ']')
    cs.take (inner.length + 2)
  | _ => cs.takeWhile (· ≠ ':')

def read? (isSecure : Bool) (cs : List Char) : Option Place := do
  let host := hostText cs
  return ⟨isSecure, ← Host.read? host, ← port? isSecure (cs.drop host.length)⟩

def text (place : Place) : String :=
  (if place.isSecure then "https://" else "http://") ++ place.host.text ++
    (if place.port = defaultPort place.isSecure then "" else ":" ++ toString place.port)

end Place

namespace Address

/-! ## Characters -/

/-- A character that stands in no address: a control character or one outside ASCII. -/
def isForeign (c : Char) : Bool :=
  c < ' ' || '~' < c

def isEscapedInPath (c : Char) : Bool :=
  isForeign c || [' ', '"', '#', '<', '>', '?', '\x60', '\x7b', '\x7d'].contains c

def isEscapedInQuery (c : Char) : Bool :=
  isForeign c || [' ', '"', '#', '<', '>', '\x27'].contains c

/-- The characters that are escaped in the fragment of an address, which no request sends. -/
def isEscapedInFragment (c : Char) : Bool :=
  isForeign c || [' ', '"', '<', '>', '\x60'].contains c

/-! ## Paths -/

def isSlash (c : Char) : Bool :=
  c = '/' || c = '\\'

/-- The number of points that a part consists of, where a point may be written as its byte. -/
def points? : List Char → Option Nat
  | [] => some 0
  | '.' :: cs => (points? cs).map (· + 1)
  | '%' :: '2' :: 'e' :: cs => (points? cs).map (· + 1)
  | '%' :: '2' :: 'E' :: cs => (points? cs).map (· + 1)
  | _ => none

/-- The parts of a path after those in `acc`: one point stands for no part and two points take back
the part before them. -/
def resolve (acc : List (List Char)) : List (List Char) → List (List Char)
  | [] => acc
  | part :: rest =>
    let ending : List (List Char) := if rest.isEmpty then [[]] else []
    match points? part with
    | some 1 => resolve (acc ++ ending) rest
    | some 2 => resolve (acc.dropLast ++ ending) rest
    | _ => resolve (acc ++ [Percent.escape isEscapedInPath part]) rest

def requestPath (path : List Char) : List Char :=
  let parts := match path with
    | c :: cs => Text.splitAt isSlash (if isSlash c then cs else c :: cs)
    | [] => [[]]
  (resolve [] parts).flatMap ('/' :: ·)

/-! ## Addresses -/

/-- How an address of the web begins, and whether what is sent there is to be encrypted. -/
def schemes : List (String × Bool) :=
  [("http://", false), ("https://", true)]

def afterScheme? (cs : List Char) : Option (Bool × List Char) :=
  (schemes.find? fun scheme => scheme.1.toList.isPrefixOf cs).map fun (text, isSecure) =>
    (isSecure, cs.drop text.length)

def isWeb (address : String) : Bool :=
  schemes.any fun scheme => scheme.1.toList.isPrefixOf address.toList

/-- An address without control characters and spaces around it, and without tabs and line breaks
anywhere. -/
def tidy (cs : List Char) : List Char :=
  let isOuter (c : Char) : Bool := c ≤ ' '
  let inner := ((cs.dropWhile isOuter).reverse.dropWhile isOuter).reverse
  inner.filter fun c => c ≠ '\t' && c ≠ '\n' && c ≠ '\r'

/-- The text before the last at sign and the text after it. -/
def splitAuthority (authority : List Char) : List Char × List Char :=
  let place := (authority.reverse.takeWhile (· ≠ '@')).reverse
  (authority.take (authority.length - place.length - 1), place)

def read? (address : String) : Option Address := do
  let (isSecure, rest) ← afterScheme? (tidy address.toList)
  let rest := rest.dropWhile isSlash
  let authority := rest.takeWhile fun c => !(isSlash c || c = '?' || c = '#')
  let (user, place) := splitAuthority authority
  let place ← Place.read? isSecure place
  let rest := rest.drop authority.length
  let named := rest.takeWhile (· ≠ '#')
  let path := named.takeWhile (· ≠ '?')
  let query := match named.drop path.length with
    | _ :: query => '?' :: Percent.escape isEscapedInQuery query
    | [] => []
  return {
    place
    target := String.ofList (requestPath path ++ query)
    fragment := String.ofList (Percent.escape isEscapedInFragment (rest.drop named.length))
    credentials := Credentials.read? user }

def text (address : Address) : String :=
  address.place.text ++ address.target ++ address.fragment

def mostChars : Nat := 65534

/-- The address is not too long to be called. -/
def isCallable (address : Address) : Bool :=
  address.text.length ≤ mostChars

end Address

end PriorArt
