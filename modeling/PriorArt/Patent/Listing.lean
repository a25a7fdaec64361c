import PriorArt.Json.Decode
import PriorArt.Patent.Record

/-!
# Patent listings

The answer of the patent-search service: rows as the service gives them, in which any field may be
missing or `null`, and the record that is made of a row.
-/

namespace PriorArt

structure Inventor where
  first : String
  last : String
  deriving DecidableEq, Inhabited

/-- A row of the answer. The form of the part on the application differs between versions of the
service, so it is kept as it is. -/
structure Listing where
  id : String
  title : String
  abstractText : String
  date : String
  application : Json
  assignees : List String
  cpcSubclasses : List String
  inventors : List Inventor
  deriving Inhabited

structure SearchResponse where
  error : Bool
  count : Nat
  totalHits : Nat
  listings : List Listing
  deriving Inhabited

namespace Listing

def mostInventors : Nat := 10

/-- The filing date, from the part on the application or from its first item, unless it is
blank. -/
def filingDate? (row : Listing) : Option String := do
  let application ← match row.application with
    | .array items => items.head?
    | application => some application
  let date ← (← application.member? "filing_date").string?
  let date := Text.trim date
  if date.isEmpty then none else some date

def fullName (inventor : Inventor) : String :=
  Text.trim (Text.trim inventor.first ++ " " ++ Text.trim inventor.last)

/-- Puts a code that is not blank at the end of a list that does not hold it yet. -/
def keepCode (kept : List String) (raw : String) : List String :=
  let code := Text.trim raw
  if code.isEmpty || kept.contains code then kept else kept ++ [code]

/-- The record of a patent that no query has been noted for. -/
def record (row : Listing) : PatentRecord :=
  { id := Text.trim row.id
    title := Text.trim row.title
    abstractText := Text.trim row.abstractText
    grantDate := Text.trim row.date
    filingDate := row.filingDate?
    assignees := (row.assignees.map Text.collapse).filter fun name => !name.isEmpty
    cpcSubclasses := row.cpcSubclasses.foldl keepCode []
    inventors :=
      ((row.inventors.map fullName).filter fun name => !name.isEmpty).take mostInventors
    matchedQueries := []
    strategyCount := 0 }

end Listing

/-! ## JSON form -/

open Json

namespace Listing

def text? (r : Record) (name : String) : Option String :=
  r.getD? name "" (nullAs? "" string?)

def rows? {α : Type} (r : Record) (name : String) (item : Json → Option α) : Option (List α) :=
  r.getD? name [] (nullAs? [] (list? item))

/-- An object or array of one text, named as given. -/
def single? (name : String) (j : Json) : Option String := do
  text? (← record? [(name, [])] j) name

def inventor? (j : Json) : Option Inventor := do
  let r ← record? [("inventor_name_first", []), ("inventor_name_last", [])] j
  return {
    first := ← text? r "inventor_name_first"
    last := ← text? r "inventor_name_last" }

def fields : Fields :=
  [("patent_id", []), ("patent_title", []), ("patent_abstract", []), ("patent_date", []),
    ("application", []), ("assignees", []), ("cpc_at_issue", []), ("inventors", [])]

def ofJson? (j : Json) : Option Listing := do
  let r ← record? fields j
  return {
    id := ← text? r "patent_id"
    title := ← text? r "patent_title"
    abstractText := ← text? r "patent_abstract"
    date := ← text? r "patent_date"
    application := ← r.getD? "application" .null tree?
    assignees := ← rows? r "assignees" (single? "assignee_organization")
    cpcSubclasses := ← rows? r "cpc_at_issue" (single? "cpc_subclass_id")
    inventors := ← rows? r "inventors" inventor? }

def inventorJson (i : Inventor) : Json :=
  .object [("inventor_name_first", .string i.first), ("inventor_name_last", .string i.last)]

def toJson (row : Listing) : Json :=
  .object [("patent_id", .string row.id), ("patent_title", .string row.title),
    ("patent_abstract", .string row.abstractText), ("patent_date", .string row.date),
    ("application", row.application),
    ("assignees", .array (row.assignees.map fun s =>
      .object [("assignee_organization", .string s)])),
    ("cpc_at_issue", .array (row.cpcSubclasses.map fun s =>
      .object [("cpc_subclass_id", .string s)])),
    ("inventors", .array (row.inventors.map inventorJson))]

end Listing

namespace SearchResponse

def fields : Fields :=
  [("error", []), ("count", []), ("total_hits", []), ("patents", [])]

def ofJson? (j : Json) : Option SearchResponse := do
  let r ← record? fields j
  return {
    error := ← r.getD? "error" false bool?
    count := ← r.getD? "count" 0 nat64?
    totalHits := ← r.getD? "total_hits" 0 nat64?
    listings := ← Listing.rows? r "patents" Listing.ofJson? }

def toJson (response : SearchResponse) : Json :=
  .object [("error", .bool response.error), ("count", nat response.count),
    ("total_hits", nat response.totalHits),
    ("patents", .array (response.listings.map (·.toJson)))]

end SearchResponse

end PriorArt
