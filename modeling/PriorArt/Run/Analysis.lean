import PriorArt.Landscape.Reconcile
import PriorArt.Prompt.Landscape
import PriorArt.Run.Stage

/-!
# Landscape analysis

The reasoning service is asked for the narrative of a landscape until one can be reconciled with
the statistics and the assessments.
-/

namespace PriorArt

/-- A reconciled narrative with the corrections made to it. -/
structure LandscapeAnalysis where
  narrative : Narrative
  corrections : List Correction
  deriving DecidableEq

namespace Analysis

def accept (stats : Statistics) (assessments : List Assessment) (reply : Json) :
    Option (Except Violation LandscapeAnalysis) :=
  (DraftNarrative.ofJson? reply).map fun draft =>
    (Narrative.reconcile draft stats assessments).map fun (narrative, corrections) =>
      ⟨narrative, corrections⟩

def run (budget : RetryBudget) (document : StrategyDocument) (stats : Statistics)
    (assessments : List Assessment) (reasoner : Reasoner) :
    StageRun LandscapeAnalysis × Reasoner :=
  Stage.run .landscape budget (Prompt.landscape document stats) (accept stats assessments) reasoner

end Analysis

/-! ## JSON form -/

open Json

def LandscapeAnalysis.toJson (a : LandscapeAnalysis) : Json :=
  .object [("narrative", a.narrative.toJson),
    ("corrections", .array (a.corrections.map (·.toJson)))]

end PriorArt
