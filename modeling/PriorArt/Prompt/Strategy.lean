import PriorArt.Prompt.Text
import PriorArt.Run.Request

/-!
# The strategy prompt

Asks for the strategy document of a disclosure. The findings of an earlier screen of the same
disclosure are woven in.
-/

namespace PriorArt.Prompt

def strategyInstructions : String :=
  block [
    "You are a patent search strategist. Given an invention disclosure, produce",
    "a search plan for a patent full-text search API and extract key invention",
    "metadata.",
    "",
    "IMPORTANT: Return valid JSON only. No markdown fences, no commentary, no",
    "preamble. Your entire response must be a single JSON object matching the",
    "schema below.",
    "",
    "PART 1: INVENTION EXTRACTION",
    "",
    "Extract from the disclosure:",
    "- A concise title for the invention (10-200 chars)",
    "- A one-paragraph summary (50-500 chars)",
    "- The 3-10 novel elements that distinguish this invention from prior work.",
    "  Assign each a stable ID (NE1, NE2, ... NE10).",
    "- The broad technology domains (1-5)",
    "",
    "PART 2: SEARCH PLAN",
    "",
    "Cover the invention from multiple angles:",
    "1. DIRECT MATCH: Terms describing the core mechanism or method.",
    "2. COMPONENT MATCH: Terms for individual components or subsystems.",
    "3. PROBLEM-SOLUTION MATCH: Terms for the problem and general solution category.",
    "",
    "For each query strategy, provide TERM FAMILIES. Patent literature uses",
    "different vocabulary than disclosures. For each core concept, provide the",
    "canonical term, single-word synonyms, abbreviations and acronyms, and common",
    "patent-language variants.",
    "",
    "Multi-word terms belong in PHRASES, not in the synonyms list. The search",
    "system tokenizes synonyms on whitespace.",
    "",
    "For CPC codes provide SUBCLASS-level codes only (4 characters, e.g. \"G06N\",",
    "\"A61K\", \"H04L\"). Do NOT provide group-level codes such as \"G06N3/08\".",
    "",
    "List items most-important-first within all arrays.",
    "",
    "Generate between 3 and 5 query strategies."]

def strategySchema : String :=
  block [
    "\x7b",
    "  \"invention_title\": \"string (10-200 chars)\",",
    "  \"invention_summary\": \"string (50-500 chars)\",",
    "  \"novel_elements\": [",
    "    \x7b \"id\": \"string (NE1, NE2, ... NE10)\", \"description\": \"string (20-300 chars)\" \x7d",
    "  ],",
    "  \"technology_domains\": [\"string (1-5 entries)\"],",
    "  \"query_strategies\": [",
    "    \x7b",
    "      \"id\": \"string (Q1, Q2, ...)\",",
    "      \"description\": \"string (20-200 chars)\",",
    "      \"term_families\": [",
    "        \x7b",
    "          \"canonical\": \"string\",",
    "          \"synonyms\": [\"string (0-8 entries)\"],",
    "          \"acronyms\": [\"string (0-4 entries)\"],",
    "          \"patent_variants\": [\"string (0-4 entries)\"]",
    "        \x7d",
    "      ],",
    "      \"phrases\": [\"string (multi-word exact phrases, 0-5 entries)\"],",
    "      \"cpc_subclasses\": [\"string (0-5 entries)\"],",
    "      \"priority\": \"PRIMARY | SECONDARY | TERTIARY\"",
    "    \x7d",
    "  ],",
    "  \"confidence_score\": \"float (0.0-1.0)\",",
    "  \"confidence_reason\": \"string (min 10 chars)\"",
    "\x7d"]

/-- What an earlier screen objected to. -/
def concerns (c : ScreenConcerns) : String :=
  concat
    ["\n\nAn earlier eligibility screen identified these concerns:\n\nNovelty concerns: [",
      "; ".intercalate c.novelty, "]\nNon-obviousness concerns: [",
      "; ".intercalate c.nonObviousness, "]\nSearch priority: [", c.searchPriority,
      "]\n\nUse these to sharpen your search. Novelty concerns indicate where prior art is most ",
      "likely.\n"]

def extraction (e : ScreenExtraction) : String :=
  concat
    ["\nAn earlier eligibility screen extracted:\n\nTitle: [", e.title,
      "]\nTechnology area: [", e.technologyArea, "]\nNovel elements: [",
      "; ".intercalate e.elements, "]\nDescription: [", e.description,
      "]\n\nUse this to inform your term families and CPC classification. You may adopt the title ",
      "and novel elements directly or refine them.\n"]

def strategy (request : Request) : String :=
  concat
    [opening, strategyInstructions,
      ((request.priorContext.bind (·.concerns)).map concerns).getD "",
      ((request.priorContext.bind (·.extraction)).map extraction).getD "",
      "\nRequired output schema:\n", strategySchema, "\n\nDISCLOSURE:\n", request.disclosure]

end PriorArt.Prompt
