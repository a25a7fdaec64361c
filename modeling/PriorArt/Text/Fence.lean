import PriorArt.Text.Blank

/-!
# Code fences

Models like to put a reply between two lines of three backticks, the first of which may name a
language. `unfence` gives what stands between them.
-/

namespace PriorArt.Text

/-- The mark that opens and closes a fence. -/
def fenceMark : List Char := ['\x60', '\x60', '\x60']

def dropMarks : List Char → List Char
  | '\x60' :: '\x60' :: '\x60' :: rest => dropMarks rest
  | cs => cs

def dropLanguage : List Char → List Char
  | 'j' :: 's' :: 'o' :: 'n' :: rest => dropLanguage rest
  | cs => cs

def dropEndMarks (cs : List Char) : List Char :=
  (dropMarks cs.reverse).reverse

/-- What follows the line of the opening mark. If there is no other line, the mark and the name of
the language are removed. -/
def afterOpening (cs : List Char) : List Char :=
  match cs.dropWhile fun c => c ≠ '\n' with
  | [] => dropLanguage (dropMarks cs)
  | _ :: rest => rest

def unfenceList (cs : List Char) : List Char :=
  let trimmed := trimList cs
  if fenceMark.isPrefixOf trimmed then
    trimList (dropEndMarks (trimList (afterOpening trimmed)))
  else trimmed

/-- The trimmed text, without a fence if it starts with one. -/
def unfence (s : String) : String :=
  String.ofList (unfenceList s.toList)

end PriorArt.Text
