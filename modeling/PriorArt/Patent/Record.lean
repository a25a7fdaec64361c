import PriorArt.Json.Decode
import PriorArt.Text.Blank

/-!
# Patents

A patent as the search finds it, merged over every query that returned it.
-/

namespace PriorArt

/-- A retrieved patent. Dates have the form year, month, day, so that the order of their texts is
the order in time. -/
structure PatentRecord where
  id : String
  title : String
  abstractText : String
  grantDate : String
  filingDate : Option String
  assignees : List String
  cpcSubclasses : List String
  inventors : List String
  matchedQueries : List String
  strategyCount : Nat
  deriving DecidableEq, Inhabited

namespace PatentRecord

def unknownAssignee : String := "Unknown"

/-- The first assignee, or a stand-in if there is none or its name is blank. -/
def primaryAssignee (patent : PatentRecord) : String :=
  match patent.assignees with
  | [] => unknownAssignee
  | name :: _ => if (Text.trim name).isEmpty then unknownAssignee else Text.trim name

def hasAbstract (patent : PatentRecord) : Bool :=
  !(Text.trim patent.abstractText).isEmpty

/-! ## JSON form -/

open Json

def fields : Fields :=
  [("patent_id", []), ("title", []), ("abstract", []), ("grant_date", []), ("filing_date", []),
    ("assignees", []), ("cpc_subclasses", []), ("inventors", []), ("matched_query_ids", []),
    ("strategy_count", [])]

def toJson (p : PatentRecord) : Json :=
  .object [("patent_id", .string p.id), ("title", .string p.title),
    ("abstract", .string p.abstractText), ("grant_date", .string p.grantDate),
    ("filing_date", orNull .string p.filingDate), ("assignees", strings p.assignees),
    ("cpc_subclasses", strings p.cpcSubclasses), ("inventors", strings p.inventors),
    ("matched_query_ids", strings p.matchedQueries), ("strategy_count", nat p.strategyCount)]

def ofJson? (j : Json) : Option PatentRecord := do
  let r ← record? fields j
  return {
    id := ← r.get? "patent_id" string?
    title := ← r.get? "title" string?
    abstractText := ← r.get? "abstract" string?
    grantDate := ← r.get? "grant_date" string?
    filingDate := ← r.getD? "filing_date" none (orNull? string?)
    assignees := ← r.get? "assignees" strings?
    cpcSubclasses := ← r.get? "cpc_subclasses" strings?
    inventors := ← r.get? "inventors" strings?
    matchedQueries := ← r.get? "matched_query_ids" strings?
    strategyCount := ← r.get? "strategy_count" nat32? }

end PatentRecord

end PriorArt
