import CivicReport.Intent.Scalar
import CivicReport.Text.Search

/-!
Query plans and the statements they are written as. A statement is text with numbered
placeholders, and the values that belong to them; the text is made from the shapes of the
conditions alone.
-/
namespace CivicReport

inductive Comparison where
  | equal
  | greater
  | less
  deriving Repr, DecidableEq

namespace Comparison

def symbol : Comparison → String
  | equal => "="
  | greater => ">"
  | less => "<"

def name : Comparison → String
  | equal => "eq"
  | greater => "gt"
  | less => "lt"

def all : List Comparison := [equal, greater, less]

def named? (s : String) : Option Comparison := all.find? (·.name == s)

end Comparison

/-- A condition without the value it compares with. -/
inductive ConditionShape where
  | compare (column : String) (op : Comparison) (cast : Option String)
  | contains (column : String)
  | anyContains (columns : List String)
  deriving Repr, DecidableEq

structure Condition where
  shape : ConditionShape
  value : Scalar
  deriving Repr, DecidableEq

namespace ConditionShape

def matchText (placeholder column : String) : String := column ++ " ILIKE " ++ placeholder

def write (placeholder : String) : ConditionShape → String
  | compare column op none => column ++ " " ++ op.symbol ++ " " ++ placeholder
  | compare column op (some cast) =>
    column ++ " " ++ op.symbol ++ " " ++ placeholder ++ "::" ++ cast
  | contains column => matchText placeholder column
  | anyContains columns => "(" ++ Text.joinWith " OR " (columns.map (matchText placeholder)) ++ ")"

end ConditionShape

/-- Between wildcards, with wildcards and escapes of the text itself escaped. -/
def containsPattern (s : String) : String :=
  let escape (c : Char) : List Char :=
    if c = '%' ∨ c = '_' ∨ c = '\\' then ['\\', c] else [c]
  String.ofList ('%' :: s.toList.flatMap escape ++ ['%'])

inductive JoinKind where
  | inner
  | left
  deriving Repr, DecidableEq

namespace JoinKind

def keyword : JoinKind → String
  | inner => "JOIN"
  | left => "LEFT JOIN"

def name : JoinKind → String
  | inner => "Inner"
  | left => "Left"

end JoinKind

structure Join where
  kind : JoinKind
  source : String
  /-- The name that the query has for the source. -/
  shortName : String
  on : String
  deriving Repr, DecidableEq

structure Projection where
  expr : String
  name : String
  deriving Repr, DecidableEq

structure SortTerm where
  expr : String
  descending : Bool
  deriving Repr, DecidableEq

structure Plan where
  table : String
  shortName : String
  joins : List Join
  projection : List Projection
  conditions : List Condition
  groupBy : List String
  orderBy : List SortTerm
  rowCap : Option Nat
  distinct : Bool
  deriving Repr, DecidableEq

structure Statement where
  text : String
  parameters : List Scalar
  deriving Repr, DecidableEq

namespace Plan

/-- The parts of a clause after its keyword; without parts there is no clause. -/
def clause (keyword separator : String) (parts : List String) : String :=
  if parts.isEmpty then "" else " " ++ keyword ++ " " ++ Text.joinWith separator parts

def placeholder (i : Nat) : String := "$" ++ natText i

/-- Conditions with placeholders numbered from `i` on. -/
def conditionTexts (i : Nat) : List ConditionShape → List String
  | [] => []
  | shape :: rest => shape.write (placeholder i) :: conditionTexts (i + 1) rest

def joinText (j : Join) : String :=
  " " ++ j.kind.keyword ++ " " ++ j.source ++ " AS " ++ j.shortName ++ " ON " ++ j.on

def orderText (o : SortTerm) : String := o.expr ++ if o.descending then " DESC" else " ASC"

def text (p : Plan) : String :=
  "SELECT " ++ (if p.distinct then "DISTINCT " else "") ++
    Text.joinWith ", " (p.projection.map fun x => x.expr ++ " AS " ++ x.name) ++
    " FROM " ++ p.table ++ " AS " ++ p.shortName ++ Text.joinWith "" (p.joins.map joinText) ++
    clause "WHERE" " AND " (conditionTexts 1 (p.conditions.map (·.shape))) ++
    clause "GROUP BY" ", " p.groupBy ++
    clause "ORDER BY" ", " (p.orderBy.map orderText) ++
    (match p.rowCap with
      | some cap => " LIMIT " ++ natText cap
      | none => "")

def parameters (p : Plan) : List Scalar := p.conditions.map (·.value)

def statement (p : Plan) : Statement := ⟨p.text, p.parameters⟩

/-! The plan as a JSON document. -/

def conditionToJson (c : Condition) : Json :=
  match c.shape with
  | .compare column op cast =>
    .object <|
      [("kind", .text "compare"), ("column", .text column), ("op", .text op.name),
       ("value", c.value.toJson)] ++ (cast.toList.map fun type => ("cast", .text type))
  | .contains column =>
    .object [("kind", .text "contains"), ("column", .text column), ("value", c.value.toJson)]
  | .anyContains columns =>
    .object
      [("kind", .text "any_contains"), ("columns", Json.texts columns), ("value", c.value.toJson)]

def joinToJson (j : Join) : Json :=
  .object
    [("kind", .text j.kind.name), ("source", .text j.source), ("alias", .text j.shortName),
     ("on", .text j.on)]

def toJson (p : Plan) : Json :=
  .object
    [("table", .object
       [("table", .text p.table), ("alias", .text p.shortName),
        ("joins", .array (p.joins.map joinToJson))]),
     ("projection", .array (p.projection.map fun x =>
       .object [("expr", .text x.expr), ("alias", .text x.name)])),
     ("predicates", .array (p.conditions.map conditionToJson)),
     ("group_by", Json.texts p.groupBy),
     ("order_by", .array (p.orderBy.map fun o =>
       .object [("expr", .text o.expr), ("descending", .bool o.descending)])),
     ("row_cap", match p.rowCap with
       | some cap => Json.ofInt cap
       | none => .null),
     ("distinct", .bool p.distinct)]

end Plan

end CivicReport
