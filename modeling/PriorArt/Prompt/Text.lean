/-!
# Parts of prompts

Prompts are put together from blocks of lines and from lists of lines about the invention.
-/

namespace PriorArt.Prompt

def block (lines : List String) : String :=
  "\n".intercalate lines

def concat (texts : List String) : String :=
  String.join texts

/-- How every prompt begins. -/
def opening : String :=
  "Return valid JSON only. No markdown fences, no commentary.\n\n"

end PriorArt.Prompt
