import CivicReport.Registry.Domain
import CivicReport.Fault
import CivicReport.Text.Search

/-!
The registry of domains. It is built from a list of domains in which names are unique, references
lead somewhere and exactly one domain is the fallback.
-/
namespace CivicReport

structure Registry where
  domains : List Domain
  fallback : Domain
  deriving Repr

namespace Registry

def domain? (r : Registry) (key : String) : Option Domain := r.domains.find? (·.key == key)

def keys (r : Registry) : List String := r.domains.map (·.key)

/-- `seen` holds the keys of the fields before. -/
def checkFields (domain : String) (seen : List String) : List Field → Except SetupFault Unit
  | [] => .ok ()
  | f :: rest =>
    if seen.contains f.key then
      .error (.invalid ("duplicate field " ++ f.key ++ " in domain " ++ domain))
    else if f.kind = .enumeration ∧ (f.enumValues.getD []).isEmpty then
      .error (.missingField (domain ++ "." ++ f.key ++ ".enumValues"))
    else checkFields domain (f.key :: seen) rest

/-- Every key names a field of the domain. -/
def checkReferences (d : Domain) : List String → Except SetupFault Unit
  | [] => .ok ()
  | key :: rest =>
    if (d.field? key).isSome then checkReferences d rest else .error (.unknownField d.key key)

/-- `seen` holds the keys of the domains before. -/
def checkDomains (seen : List String) : List Domain → Except SetupFault Unit
  | [] => .ok ()
  | d :: rest =>
    if d.key.isEmpty then .error (.missingField "domain.key")
    else if d.table.isEmpty then .error (.missingField (d.key ++ ".table"))
    else if seen.contains d.key then .error (.invalid ("duplicate domain key: " ++ d.key))
    else do
      checkFields d.key [] d.fields
      checkReferences d (d.fields.filterMap (·.derivedFrom))
      checkReferences d d.defaultFields
      checkDomains (d.key :: seen) rest

def checkForeignKey (domains : List Domain) (d : Domain) (f : Field) (reference : String) :
    Except SetupFault Unit :=
  match Text.cutAt? '.' reference.toList with
  | none =>
    .error (.invalid ("foreign key " ++ reference ++ " on " ++ d.key ++ "." ++ f.key ++
      " must be <domain>.<field>"))
  | some (target, field) =>
    let target := String.ofList target
    let field := String.ofList field
    match domains.find? (·.key == target) with
    | none => .error (.unknownDomain target)
    | some t => if (t.field? field).isSome then .ok () else .error (.unknownField target field)

def checkForeignKeys (domains : List Domain) (d : Domain) : List Field → Except SetupFault Unit
  | [] => .ok ()
  | f :: rest => do
    match f.foreignKey with
    | none => pure ()
    | some reference => checkForeignKey domains d f reference
    checkForeignKeys domains d rest

/-- Checks the foreign keys of every domain against all of them. -/
def checkLinks (all : List Domain) : List Domain → Except SetupFault Unit
  | [] => .ok ()
  | d :: rest => do
    checkForeignKeys all d d.fields
    checkLinks all rest

def soleFallback (domains : List Domain) : Except SetupFault Domain :=
  match domains.filter (·.isFallback) with
  | [] => .error (.missingField "fallback domain")
  | [d] => .ok d
  | _ => .error (.invalid "more than one fallback domain")

def ofDomains (domains : List Domain) : Except SetupFault Registry := do
  checkDomains [] domains
  checkLinks domains domains
  let fallback ← soleFallback domains
  pure ⟨domains, fallback⟩

end Registry

end CivicReport
