import CivicReport.Query.Plan

/-!
How the domains of the municipal registry lie in tables: names of tables in queries, joins,
columns that are computed, and what reports are grouped and sorted by. Child tables are joined
after they have been summed up, so that a row of the base table stays one row.
-/
namespace CivicReport

structure Layout where
  shortName : String
  joins : List Join := []
  /-- Fields whose column is not named after them, with its expression. -/
  columns : List (String × String) := []
  /-- Text fields on which a filter asks for a part and not for the whole. -/
  contains : List String := []
  /-- The fields that a search looks at; none stands for those the domain marks. -/
  search : List String := []
  groupBy : Option String := none
  /-- The order of a list: fields, and whether each descends. -/
  orderBy : List (String × Bool) := []
  distinct : Bool := false
  deriving Repr, DecidableEq

namespace Layout

def column? (l : Layout) (key : String) : Option String :=
  (l.columns.find? (·.1 == key)).map (·.2)

def matchesParts (l : Layout) (key : String) : Bool := l.contains.contains key

/-- For domains that the catalogue does not know. -/
def generic : Layout where
  shortName := "t"

def projects : Layout where
  shortName := "t"
  columns :=
    [("utilization", "ROUND(100.0 * t.total_spent / NULLIF(t.total_authorized, 0), 1)")]
  contains := ["name", "department", "ministry"]
  groupBy := some "department"
  orderBy := [("tabar_number", false)]

def transactions : Layout where
  shortName := "tr"
  contains := ["supplier", "description", "department"]
  search := ["supplier", "description", "order_number", "tabar_number"]
  groupBy := some "supplier"
  orderBy := [("transaction_date", true)]

def budgetItems : Layout where
  shortName := "b"
  columns := [("year", "b.fiscal_year")]
  contains := ["name", "department"]
  groupBy := some "tabar_number"
  orderBy := [("tabar_number", false), ("item_code", false)]

def permissions : Layout where
  shortName := "p"
  contains := ["ministry"]
  groupBy := some "ministry"
  orderBy := [("valid_until", false)]

def comprehensive : Layout where
  shortName := "t"
  joins :=
    [⟨.left,
      "(SELECT tabar_number, SUM(amount) AS transactions_total, " ++
        "STRING_AGG(DISTINCT supplier, ', ') AS suppliers " ++
        "FROM transactions GROUP BY tabar_number)",
      "tx", "tx.tabar_number = t.tabar_number"⟩,
     ⟨.left,
      "(SELECT tabar_number, COUNT(*) AS items_count FROM budget_items GROUP BY tabar_number)",
      "bi", "bi.tabar_number = t.tabar_number"⟩,
     ⟨.left,
      "(SELECT tabar_number, STRING_AGG(DISTINCT ministry, ', ') AS ministries " ++
        "FROM permissions GROUP BY tabar_number)",
      "pm", "pm.tabar_number = t.tabar_number"⟩]
  columns :=
    [("transactions_total", "COALESCE(tx.transactions_total, 0)"), ("suppliers", "tx.suppliers"),
     ("budget_items_count", "COALESCE(bi.items_count, 0)"), ("ministries", "pm.ministries")]
  contains := ["name", "department", "suppliers", "ministries"]
  search := ["tabar_number", "name", "department", "suppliers", "ministries"]
  groupBy := some "department"
  orderBy := [("tabar_number", false)]

def catalogue : List (String × Layout) :=
  [("tabarim", projects), ("transactions", transactions), ("budget_items", budgetItems),
   ("permissions", permissions), ("comprehensive", comprehensive)]

def known? (domain : String) : Option Layout := (catalogue.find? (·.1 == domain)).map (·.2)

def of (domain : String) : Layout := (known? domain).getD generic

end Layout

end CivicReport
