import PriorArt.Landscape.Statistics
import PriorArt.Prompt.Assessment

/-!
# The landscape prompt

Asks for the narrative of a landscape, given its statistics.
-/

namespace PriorArt.Prompt

def landscapeInstructions : String :=
  block [
    "Analyze:",
    "",
    "1. LANDSCAPE DENSITY: DENSE, MODERATE, or SPARSE?",
    "",
    "2. KEY PLAYERS: Using the assignee frequency above, identify the top 3-5 and explain why they",
    "   matter. Do NOT invent patent counts; use the numbers provided above. Copy each name EXACTLY",
    "   as it appears in ASSIGNEE FREQUENCY.",
    "",
    "3. BLOCKING RISK: Are there patents that directly anticipate or render obvious the core",
    "   invention? Cite specific patent IDs from the TOP PRIOR ART list above. Only cite patents",
    "   that appear in that list.",
    "",
    "4. DESIGN-AROUND POTENTIAL: Are existing patents narrow or broad?",
    "",
    "5. WHITE SPACE: Using novel element coverage, which aspects have the least coverage? These",
    "   are the strongest claim candidates. Provide 1-5 entries.",
    "",
    "6. DETERMINATION: CLEAR_FIELD, CROWDED_FIELD, BLOCKING_ART_FOUND, or INCONCLUSIVE.",
    "",
    "Required output schema:",
    "\x7b",
    "  \"density\": \"DENSE | MODERATE | SPARSE\",",
    "  \"density_reasoning\": \"string\",",
    "  \"key_players\": [",
    "    \x7b \"name\": \"string\", \"patent_count\": 0, \"relevance_note\": \"string\" \x7d",
    "  ],",
    "  \"blocking_risk\": \x7b",
    "    \"level\": \"HIGH | MEDIUM | LOW | NONE\",",
    "    \"blocking_patent_ids\": [\"string\"],",
    "    \"reasoning\": \"string\"",
    "  \x7d,",
    "  \"design_around\": \x7b \"level\": \"EASY | MODERATE | DIFFICULT\", \"reasoning\": \"string\" \x7d,",
    "  \"white_space\": [\"string\"],",
    "  \"determination\": \"CLEAR_FIELD | CROWDED_FIELD | BLOCKING_ART_FOUND | INCONCLUSIVE\",",
    "  \"determination_reasoning\": \"string\",",
    "  \"confidence\": 0.0,",
    "  \"confidence_reason\": \"string (min 10 chars)\"",
    "\x7d"]

def mostPriorArtAbstract : Nat := 200

def frequencyLines (rows : List (String × Nat)) : String :=
  concat (rows.map fun row => concat [row.1, ": ", toString row.2, " patents\n"])

def coverageLine (row : ElementCoverage) : String :=
  concat
    [row.id, ": ", toString row.total, " patents (", toString row.high, " HIGH, ",
      toString row.medium, " MEDIUM)\n"]

def entryLines (entry : PriorArtEntry) : String :=
  concat
    ["PATENT_ID: ", entry.patentId, "\nTITLE: ", entry.title, "\nABSTRACT: ",
      Text.clamp mostPriorArtAbstract entry.abstractText, "\nGRANT_DATE: ", entry.grantDate,
      "\nASSIGNEE: ", entry.primaryAssignee, "\nRELEVANCE: ", entry.relevance.name, "\nOVERLAP: ",
      entry.overlap, "\nELEMENTS COVERED: ", ", ".intercalate entry.covered, "\n\n"]

def landscape (document : StrategyDocument) (stats : Statistics) : String :=
  concat
    [opening,
      "You are a patent landscape analyst preparing a summary for a technology transfer officer.",
      "\n\nINVENTION SUMMARY:\n", document.summary, "\n\nNOVEL ELEMENTS:\n",
      elementLines document.elements, "\nASSIGNEE FREQUENCY (computed, accurate):\n",
      frequencyLines stats.assigneeFrequency, "\nCPC DISTRIBUTION (computed, accurate):\n",
      frequencyLines stats.cpcHistogram, "\nNOVEL ELEMENT COVERAGE (computed, accurate):\n",
      concat (stats.elementCoverage.map coverageLine), "\nSEARCH STATISTICS:\n",
      "Total patents retrieved: ", toString stats.totalRetrieved, "\nTotal assessed: ",
      toString stats.totalAssessed, "\nHIGH relevance: ", toString stats.highCount,
      "\nMEDIUM relevance: ", toString stats.mediumCount,
      "\n\nTOP PRIOR ART (up to 20, HIGH and MEDIUM only):\n",
      concat (stats.topPriorArt.map entryLines), landscapeInstructions]

end PriorArt.Prompt
