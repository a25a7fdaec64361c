import PriorArt.Provider.Header
import PriorArt.Text.Charset

/-!
# Content types

A content type names a type and a subtype, and may add parameters, each a name with a value. One of
them tells in which character set a text is written.
-/

namespace PriorArt.ContentType

def isQuotable (c : Char) : Bool :=
  ' ' ≤ c && c ≠ '\x7f'

def quoted? : List Char → Option (List Char × List Char)
  | [] => none
  | c :: cs =>
    let value := c :: cs.takeWhile (· ≠ '"')
    match cs.dropWhile (· ≠ '"') with
    | _ :: rest => if value.all isQuotable then some (value, rest) else none
    | [] => none

def afterQuoted? (cs : List Char) : Option (List Char) :=
  match cs.dropWhile (· = ' ') with
  | [] => some []
  | ';' :: cs => some cs
  | _ => none

/-- The parameters of a content type, each with its value. The fuel bounds their number and that of
the spaces before them. -/
def parameters? : Nat → List Char → Option (List (List Char × List Char))
  | 0, _ => none
  | _ + 1, [] => some []
  | fuel + 1, ' ' :: cs => parameters? fuel cs
  | fuel + 1, cs =>
    let name := cs.takeWhile Headers.isNameChar
    match name.isEmpty, cs.dropWhile Headers.isNameChar with
    | false, '=' :: '"' :: cs => do
      let (value, cs) ← quoted? cs
      let rest ← parameters? fuel (← afterQuoted? cs)
      return (name, value) :: rest
    | false, '=' :: cs =>
      let value := cs.takeWhile Headers.isNameChar
      match value.isEmpty, cs.dropWhile Headers.isNameChar with
      | _, [] => some [(name, value)]
      | false, ';' :: cs => (parameters? fuel cs).map ((name, value) :: ·)
      | _, _ => none
    | _, _ => none

def charsetName : List Char := "charset".toList

def charsetLabel? (value : String) : Option (List Char) := do
  let cs := value.toList
  let type := cs.takeWhile Headers.isNameChar
  let '/' :: cs := cs.drop type.length | none
  let subtype := cs.takeWhile Headers.isNameChar
  let ';' :: cs := cs.drop subtype.length | none
  if type.isEmpty || subtype.isEmpty then none
  let parameters ← parameters? (cs.length + 1) cs
  (parameters.find? fun parameter => parameter.1.map Char.toLower = charsetName).map (·.2)

/-- The character set that a content type tells, or UTF-8. -/
def charset (value : String) : Charset :=
  ((charsetLabel? value).bind Charset.ofLabel?).getD .utf8

end PriorArt.ContentType
