import CivicReport.Intent.Action
import CivicReport.Intent.Filters

/-! The structured reading of a question. -/
namespace CivicReport

structure Intent where
  domain : String
  action : Action
  filters : Filters := .empty
  fields : List String := []
  confidence : Float
  explanation : String := ""
  source : Source

namespace Intent

def withFilter (i : Intent) (key : String) (value : Scalar) : Intent :=
  { i with filters := i.filters.insert key value }

def filter? (i : Intent) (key : String) : Option Scalar := i.filters.get? key

end Intent

end CivicReport
