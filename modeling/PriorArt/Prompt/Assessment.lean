import PriorArt.Patent.Record
import PriorArt.Prompt.Text
import PriorArt.Strategy.Document

/-!
# The assessment prompt

Asks for the assessments of a batch of patents.
-/

namespace PriorArt.Prompt

/-- What the model is asked to do, and the form of the reply. -/
def assessmentInstructions : String :=
  block [
    "For each patent, provide:",
    "1. RELEVANCE:",
    "   - HIGH: Same problem, same or very similar approach. Potential anticipation or obviousness.",
    "   - MEDIUM: Related problem or overlapping techniques. Possibly obvious when combined.",
    "     Worth reviewing.",
    "   - LOW: Same domain, different problem or approach. Unlikely to be cited.",
    "   - NONE: Not relevant.",
    "   Default to MEDIUM if unsure between HIGH and MEDIUM. Default to LOW if unsure between",
    "   MEDIUM and LOW.",
    "",
    "2. OVERLAP DESCRIPTION: 1-3 sentences on what overlaps (or does not).",
    "",
    "3. NOVEL ELEMENTS COVERED: Which elements does this patent address? Use IDs (NE1, NE2, ...).",
    "   Empty array if none.",
    "",
    "4. CONFIDENCE: float between 0.0 and 1.0.",
    "",
    "Required output schema:",
    "\x7b",
    "  \"assessments\": [",
    "    \x7b",
    "      \"patent_id\": \"string\",",
    "      \"relevance\": \"HIGH | MEDIUM | LOW | NONE\",",
    "      \"overlap_description\": \"string\",",
    "      \"novel_elements_covered\": [\"NE1\"],",
    "      \"confidence\": 0.0",
    "    \x7d",
    "  ]",
    "\x7d",
    "",
    "Return one assessment per patent, in the same order as input."]

def mostAbstract : Nat := 600

def elementLines (elements : List NovelElement) : String :=
  concat (elements.map fun e => concat [e.id, ": ", e.description, "\n"])

def patentLines (position : Nat) (patent : PatentRecord) : String :=
  concat
    ["INDEX: ", toString position, "\nPATENT_ID: ", patent.id, "\nTITLE: ", patent.title,
      "\nABSTRACT: ", Text.clamp mostAbstract patent.abstractText, "\nGRANT_DATE: ",
      patent.grantDate, "\nASSIGNEE: ", patent.primaryAssignee, "\n\n"]

def assessment (document : StrategyDocument) (batch : List PatentRecord) : String :=
  concat
    [opening, "You are a patent analyst assessing prior art relevance.\n\n",
      "INVENTION SUMMARY:\n", document.summary, "\n\nNOVEL ELEMENTS:\n",
      elementLines document.elements, "\nPATENTS TO ASSESS (assess each one):\n",
      concat (batch.mapIdx patentLines), assessmentInstructions]

end PriorArt.Prompt
