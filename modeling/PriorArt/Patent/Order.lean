import PriorArt.Order
import PriorArt.Patent.Assessment
import PriorArt.Patent.Record

/-!
# Orders of patents and assessments

Three orders, each made of keys that are compared one after the other. Texts compare by code
points. Sorting keeps the order of what compares equal.
-/

namespace PriorArt

namespace PatentRecord

/-- Later grants first; those of one day by ascending identifier. -/
def byGrantDate : PatentRecord → PatentRecord → Ordering :=
  compareLex (descendingOn (·.grantDate)) (compareOn (·.id))

instance : Std.TransCmp byGrantDate :=
  inferInstanceAs (Std.TransCmp (compareLex _ _))

/-- Patents that more strategies found first, then as by grant date. -/
def forAssessment : PatentRecord → PatentRecord → Ordering :=
  compareLex (descendingOn (·.strategyCount)) byGrantDate

instance : Std.TransCmp forAssessment :=
  inferInstanceAs (Std.TransCmp (compareLex _ _))

def sortByGrantDate (patents : List PatentRecord) : List PatentRecord :=
  sortBy byGrantDate patents

def sortForAssessment (patents : List PatentRecord) : List PatentRecord :=
  sortBy forAssessment patents

end PatentRecord

namespace Assessment

/-- The more relevant first, then what covers more elements, then the later grant, then ascending
identifiers. -/
def inOutput (grantDate : String → String) : Assessment → Assessment → Ordering :=
  compareLex (compareOn (·.relevance.rank)) <|
    compareLex (descendingOn (·.covered.length)) <|
      compareLex (descendingOn fun a => grantDate a.patentId) (compareOn (·.patentId))

instance (grantDate : String → String) : Std.TransCmp (inOutput grantDate) :=
  inferInstanceAs (Std.TransCmp (compareLex _ _))

def sortForOutput (grantDate : String → String) (assessments : List Assessment) :
    List Assessment :=
  sortBy (inOutput grantDate) assessments

end Assessment

end PriorArt
