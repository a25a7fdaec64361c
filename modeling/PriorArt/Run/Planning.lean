import PriorArt.Prompt.Strategy
import PriorArt.Run.Stage
import PriorArt.Strategy.Normalize

/-!
# Strategy extraction

The reasoning service is asked for the strategy document of a disclosure until one can be brought
into normal form.
-/

namespace PriorArt.Planning

def accept (reply : Json) : Option (Except Violation StrategyDocument) :=
  (StrategyDocument.ofJson? reply).map (·.normalize)

def run (budget : RetryBudget) (request : Request) (reasoner : Reasoner) :
    StageRun StrategyDocument × Reasoner :=
  Stage.run .strategy budget (Prompt.strategy request) accept reasoner

end PriorArt.Planning
