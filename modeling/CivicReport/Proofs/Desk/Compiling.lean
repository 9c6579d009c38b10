import CivicReport.Desk
import CivicReport.Proofs.Query.Shape
import CivicReport.Proofs.Vetting.Acceptance

/-!
When intents are compiled. Vetting comes first, and an intent that passes it is about a domain that
is there and has the name that the intent has for it. Main statement: compiling then fails exactly
if the domain lacks the field that the action is about, and what it gives has the shape of the
action.
-/
namespace CivicReport.Desk

variable {desk : Desk} {i : Intent} {d : Domain} {warnings : List String}

theorem compile_of_check_error {fault : RequestFault}
    (h : Vetting.check .lenient desk.registry i = .error fault) :
    desk.compile i = .error (.request fault) := by
  simp only [compile, h]

/-- A domain that is found by the name in the intent has this name, so only the projection is left
to fail. -/
theorem compile_of_domain? (hcheck : Vetting.check .lenient desk.registry i = .ok warnings)
    (hd : desk.registry.domain? i.domain = some d) :
    desk.compile i = match Compilation.projection d i with
      | .error fault => .error (.setup fault)
      | .ok shown => .ok (d, d.planWith desk.rowCap i shown, warnings) := by
  have hkey : d.key = i.domain := by simpa using List.find?_some hd
  simp only [compile, hcheck, hd, Domain.plan_eq_map hkey.symm]
  cases Compilation.projection d i with
  | error fault => rfl
  | ok shown => rfl

/-- Compiling fails as vetting does, or for want of a field, and otherwise gives a plan in shape. -/
theorem compile_cases (desk : Desk) (i : Intent) :
    (∀ fault, desk.compile i = .error (.request fault) ↔
      Vetting.check .lenient desk.registry i = .error fault) ∧
    ((∃ fault, desk.compile i = .error (.setup fault)) ↔
      ∃ warnings d, Vetting.check .lenient desk.registry i = .ok warnings ∧
        desk.registry.domain? i.domain = some d ∧ d.Lacks i.action) ∧
    ((∃ result, desk.compile i = .ok result) ↔
      ∃ warnings d, Vetting.check .lenient desk.registry i = .ok warnings ∧
        desk.registry.domain? i.domain = some d ∧ ¬ d.Lacks i.action) ∧
    (∀ d p warnings, desk.compile i = .ok (d, p, warnings) →
      Vetting.check .lenient desk.registry i = .ok warnings ∧
        desk.registry.domain? i.domain = some d ∧ p.HasShape d desk.rowCap i.action) := by
  cases hcheck : Vetting.check .lenient desk.registry i with
  | error fault => simp [compile_of_check_error hcheck]
  | ok warnings =>
    obtain ⟨-, d, hd, -⟩ := Vetting.check_eq_ok_iff.1 hcheck
    have hcompile := compile_of_domain? hcheck hd
    have hlacks := Domain.exists_projection_iff (d := d) (i := i)
    cases hshown : Compilation.projection d i with
    | error fault =>
      have hmissing : d.Lacks i.action := by simpa [hshown] using hlacks
      simp [hcompile, hshown, hd, hmissing]
    | ok shown =>
      have hthere : ¬ d.Lacks i.action := by simpa [hshown] using hlacks
      have hshape := Domain.hasShape_planWith desk.rowCap hshown
      simpa [hcompile, hshown, hd, hthere] using hshape

end CivicReport.Desk
