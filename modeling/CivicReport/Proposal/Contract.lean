import CivicReport.Registry
import CivicReport.Intent.Action
import CivicReport.Json

/-!
What a language model may answer with: the domains of a registry, the filter keys that each
accepts, and the actions.
-/
namespace CivicReport

structure FilterHint where
  key : String
  kind : FieldKind
  enumValues : Option (List String) := none
  deriving Repr, DecidableEq

structure DomainContract where
  key : String
  label : String
  description : String
  filters : List FilterHint
  deriving Repr, DecidableEq

structure Contract where
  domains : List DomainContract
  actions : List Action
  deriving Repr, DecidableEq

namespace Contract

/-- The keys that speak of a field. -/
def hintsFor (f : Field) : List FilterHint :=
  if f.filterable then
    ⟨f.key, f.kind, f.enumValues⟩ ::
      if f.kind.isOrdered then
        [⟨(FilterKey.above f.key).write, f.kind, none⟩,
         ⟨(FilterKey.below f.key).write, f.kind, none⟩]
      else []
  else []

def ofDomain (d : Domain) : DomainContract where
  key := d.key
  label := d.label
  description := d.description
  filters := d.fields.flatMap hintsFor ++ [⟨FilterKey.searchKey, .text, none⟩]

def ofRegistry (r : Registry) : Contract := ⟨r.domains.map ofDomain, Action.all⟩

def hintToJson (h : FilterHint) : Json :=
  .object <|
    [("key", .text h.key), ("type", .text h.kind.name)] ++
    (h.enumValues.toList.map fun values => ("enum_values", Json.texts values))

def domainToJson (d : DomainContract) : Json :=
  .object
    [("key", .text d.key), ("label", .text d.label), ("description", .text d.description),
     ("filters", .array (d.filters.map hintToJson))]

def toJson (c : Contract) : Json :=
  .object
    [("domains", .array (c.domains.map domainToJson)),
     ("actions", Json.texts (c.actions.map (·.name)))]

end Contract

end CivicReport
