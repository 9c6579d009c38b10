import CivicReport.Desk
import CivicReport.Registry.Municipal
import CivicReport.Proofs.Store.Fetch

/-!
What a desk does to its store, over whole runs of operations. An operation either leaves the store
as it was or fetches the statement of its own intent; the way it ends tells which. Main statement:
this holds of every operation of every run, and a fetch is made exactly for what can be compiled and
is certain, structured or confirmed.
-/
namespace CivicReport

/-- What a desk is asked to do. -/
inductive Operation where
  | run (request : Request)
  | confirm (document : Json) (confirmed : Bool)

/-- An operation at a time, with a token that may be cancelled already. -/
structure Errand where
  operation : Operation
  now : Timestamp
  cancelled : Bool

def Errand.patience (e : Errand) : Patience := if e.cancelled then some 0 else none

/-- What came of an errand, with the store before and after it. -/
structure Visit where
  errand : Errand
  before : Option Store
  result : Except Fault Outcome
  after : Option Store

/-! How operations end. -/

/-- Ends of operations that are held back or refused. -/
def isWithheld : Except Fault Outcome → Bool
  | .ok (.needsConfirmation _ _) | .ok .declined => true
  | .error (.request _) | .error (.interpretation _) | .error (.setup _) | .error .cancelled => true
  | _ => false

/-- Ends of operations that the store has answered or failed. -/
def isExecuted : Except Fault Outcome → Bool
  | .ok (.completed _) | .error (.store _) => true
  | _ => false

theorem not_isExecuted_of_isWithheld {result : Except Fault Outcome} (h : isWithheld result) :
    ¬ isExecuted result := by
  unfold isWithheld at h
  split at h
  all_goals simp_all [isExecuted]

namespace Desk

variable {desk : Desk} {i : Intent} {store : Store}

def perform (desk : Desk) (e : Errand) (store : Option Store) :
    Except Fault Outcome × Option Store :=
  match e.operation with
  | .run request => desk.answer e.now e.patience request store
  | .confirm document confirmed => desk.confirm e.now e.patience document confirmed store

/-- One errand after the other, with the same store. -/
def visits (desk : Desk) : Option Store → List Errand → List Visit
  | _, [] => []
  | store, e :: rest =>
    let (result, after) := desk.perform e store
    ⟨e, store, result, after⟩ :: visits desk after rest

theorem visits_cons (desk : Desk) (store : Option Store) (e : Errand) (rest : List Errand) :
    desk.visits store (e :: rest) =
      ⟨e, store, (desk.perform e store).1, (desk.perform e store).2⟩ ::
        desk.visits (desk.perform e store).2 rest := rfl

/-- The intent that an operation is about. -/
def intentOf (desk : Desk) : Operation → Except Fault Intent
  | .run (.question text) => desk.parse text
  | .run (.structured domain action fields filters) =>
    .ok (Request.intentOf domain action fields filters)
  | .confirm document _ =>
    match Vetting.read .lenient desk.registry (sourceOf document) document with
    | .ok (i, _) => .ok i
    | .error fault => .error (.request fault)

/-- Whether an intent may run as it is: a question has to be read with confidence, and an intent
that was sent back has to be confirmed. -/
def Admits (desk : Desk) (i : Intent) : Operation → Prop
  | .run (.question _) => ¬ i.confidence < desk.threshold
  | .run (.structured _ _ _ _) => True
  | .confirm _ confirmed => confirmed = true

/-- Nothing was asked of the store. -/
def Withholds (store : Store) (r : Except Fault Outcome × Option Store) : Prop :=
  isWithheld r.1 ∧ r.2 = some store

/-- The store was asked for the statement of an intent. -/
def Executes (desk : Desk) (i : Intent) (store : Store) (r : Except Fault Outcome × Option Store) :
    Prop :=
  isExecuted r.1 ∧ ∃ d plan warnings after, desk.compile i = .ok (d, plan, warnings) ∧
    r.2 = some after ∧ Fetched plan.statement (desk.retry.retries + 1) store after

theorem isWithheld_of_compile {fault : Fault} (h : desk.compile i = .error fault) :
    isWithheld (.error fault) := by
  unfold compile at h
  cases hcheck : Vetting.check .lenient desk.registry i with
  | error refusal =>
    rw [hcheck] at h
    cases h
    rfl
  | ok warnings =>
    cases hdomain : desk.registry.domain? i.domain with
    | none =>
      simp only [hcheck, hdomain] at h
      cases h
      rfl
    | some d =>
      cases hplan : d.plan desk.rowCap i with
      | error refusal =>
        simp only [hcheck, hdomain, hplan] at h
        cases h
        rfl
      | ok plan =>
        simp only [hcheck, hdomain, hplan] at h
        contradiction

/-- An intent either cannot be compiled or is fetched. -/
theorem withholds_or_executes (desk : Desk) (now : Timestamp) (i : Intent) (store : Store) :
    (Withholds store (completed (desk.executeWithin now none i (some store))) ∧
        ∃ fault, desk.compile i = .error fault) ∨
      desk.Executes i store (completed (desk.executeWithin now none i (some store))) := by
  unfold executeWithin
  cases hcompile : desk.compile i with
  | error fault => exact .inl ⟨⟨isWithheld_of_compile hcompile, rfl⟩, fault, rfl⟩
  | ok compiled =>
    obtain ⟨d, plan, warnings⟩ := compiled
    obtain ⟨hfetched, hfault⟩ := Store.fetch_none desk.retry plan.statement desk.retry.retries store
    rcases hfetch : store.fetch desk.retry plan.statement desk.retry.retries none with ⟨rows, after⟩
    rw [hfetch] at hfetched hfault
    cases rows with
    | ok rows =>
      simp only [hfetch]
      exact .inr ⟨rfl, d, plan, warnings, after, hcompile, rfl, hfetched⟩
    | error fault =>
      obtain ⟨f, rfl⟩ := hfault fault rfl
      simp only [hfetch]
      exact .inr ⟨rfl, d, plan, warnings, after, hcompile, rfl, hfetched⟩

theorem isWithheld_of_prepare {longest : Nat} {text : String} {fault : Fault}
    (h : prepare longest text = .error fault) : isWithheld (.error fault) := by
  unfold prepare at h
  split at h
  · cases h
    rfl
  · split at h
    · cases h
      rfl
    · contradiction

/-- An operation is about an intent that it may run. -/
def Grants (desk : Desk) (operation : Operation) (i : Intent) : Prop :=
  desk.intentOf operation = .ok i ∧ desk.Admits i operation

/-- Nothing was asked of the store and no intent was there to be run, or an operation ran the
intent that it may run. -/
def Guards (desk : Desk) (operation : Operation) (store : Store)
    (r : Except Fault Outcome × Option Store) : Prop :=
  (Withholds store r ∧
      ∀ i, desk.Grants operation i → ∃ fault, desk.compile i = .error fault) ∨
    ∃ i, desk.Grants operation i ∧ desk.Executes i store r

/-- An operation whose intent is not to be found is held back. -/
theorem guards_of_error {operation : Operation} {fault : Fault}
    {r : Except Fault Outcome × Option Store} (h : desk.intentOf operation = .error fault)
    (hr : Withholds store r) : desk.Guards operation store r := by
  refine .inl ⟨hr, ?_⟩
  rintro i ⟨hi, -⟩
  rw [h] at hi
  contradiction

/-- An operation runs its intent if it may. -/
theorem guards_of_grants {operation : Operation} (now : Timestamp)
    (h : desk.Grants operation i) : desk.Guards operation store
      (completed (desk.executeWithin now none i (some store))) := by
  rcases withholds_or_executes desk now i store with ⟨hwithheld, hfault⟩ | hexecuted
  · refine .inl ⟨hwithheld, ?_⟩
    rintro j ⟨hj, -⟩
    obtain rfl : i = j := Except.ok.inj (h.1.symm.trans hj)
    exact hfault
  · exact .inr ⟨i, h, hexecuted⟩

theorem guards_question (desk : Desk) (now : Timestamp) (text : String) (store : Store) :
    desk.Guards (.run (.question text)) store
      (desk.answer now none (.question text) (some store)) := by
  have hparse : desk.intentOf (.run (.question text)) =
      (prepare desk.longestQuestion text).map desk.readQuestion := desk.parse_eq text
  cases hprepare : prepare desk.longestQuestion text with
  | error fault =>
    have hanswer : desk.answer now none (.question text) (some store) =
        (.error fault, some store) := by
      simp only [answer, hprepare]
      rfl
    rw [hprepare] at hparse
    rw [hanswer]
    exact guards_of_error hparse ⟨isWithheld_of_prepare hprepare, rfl⟩
  | ok q =>
    have hanswer : desk.answer now none (.question text) (some store) =
        desk.answerIntent now none (desk.readQuestion q) (some store) := by
      simp only [answer, hprepare]
      rfl
    rw [hprepare] at hparse
    rw [hanswer]
    unfold answerIntent
    split
    · next huncertain =>
      refine .inl ⟨⟨rfl, rfl⟩, ?_⟩
      rintro i ⟨hi, hcertain⟩
      obtain rfl : desk.readQuestion q = i := Except.ok.inj (hparse.symm.trans hi)
      exact absurd huncertain hcertain
    · next hcertain => exact guards_of_grants now ⟨hparse, hcertain⟩

theorem guards_confirm (desk : Desk) (now : Timestamp) (document : Json) (confirmed : Bool)
    (store : Store) :
    desk.Guards (.confirm document confirmed) store
      (desk.confirm now none document confirmed (some store)) := by
  cases confirmed with
  | false =>
    refine .inl ⟨⟨rfl, rfl⟩, ?_⟩
    rintro i ⟨-, hconfirmed⟩
    contradiction
  | true =>
    cases hread : Vetting.read .lenient desk.registry (sourceOf document) document with
    | error fault =>
      have hconfirm : desk.confirm now none document true (some store) =
          (.error (.request fault), some store) := by
        simp only [confirm, hread]
        rfl
      have hintent : desk.intentOf (.confirm document true) = .error (.request fault) := by
        simp only [intentOf, hread]
      rw [hconfirm]
      exact guards_of_error hintent ⟨rfl, rfl⟩
    | ok found =>
      obtain ⟨i, warnings⟩ := found
      have hconfirm : desk.confirm now none document true (some store) =
          completed (desk.executeWithin now none i (some store)) := by
        simp only [confirm, hread]
        rfl
      have hintent : desk.intentOf (.confirm document true) = .ok i := by
        simp only [intentOf, hread]
      rw [hconfirm]
      exact guards_of_grants now ⟨hintent, rfl⟩

theorem guards_perform (desk : Desk) (operation : Operation) (now : Timestamp) (store : Store) :
    desk.Guards operation store (desk.perform ⟨operation, now, false⟩ (some store)) := by
  cases operation with
  | run request =>
    cases request with
    | question text => exact guards_question desk now text store
    | structured domain action fields filters => exact guards_of_grants now ⟨rfl, trivial⟩
  | confirm document confirmed => exact guards_confirm desk now document confirmed store

/-- A cancelled token is looked at before anything else. -/
theorem perform_cancelled (desk : Desk) (operation : Operation) (now : Timestamp)
    (store : Option Store) :
    desk.perform ⟨operation, now, true⟩ store = (.error .cancelled, store) := by
  cases operation with
  | run request => rfl
  | confirm document confirmed => rfl

/-- An errand gets as far as the store: its token is live, and an intent that it may run can be
compiled. -/
def Reaches (desk : Desk) (e : Errand) : Prop :=
  e.cancelled = false ∧
    ∃ i compiled, desk.Grants e.operation i ∧ desk.compile i = .ok compiled

/-- Every errand either leaves the store alone or runs its own intent. -/
theorem perform_cases (desk : Desk) (e : Errand) (store : Store) :
    (Withholds store (desk.perform e (some store)) ∧ ¬ desk.Reaches e) ∨
      (desk.Reaches e ∧ ∃ i, desk.intentOf e.operation = .ok i ∧
        desk.Executes i store (desk.perform e (some store))) := by
  obtain ⟨operation, now, cancelled⟩ := e
  cases cancelled with
  | true =>
    rw [perform_cancelled]
    refine .inl ⟨⟨rfl, rfl⟩, ?_⟩
    rintro ⟨hlive, -⟩
    contradiction
  | false =>
    rcases guards_perform desk operation now store with
      ⟨hwithheld, hfault⟩ | ⟨i, hgrants, hexecuted⟩
    · refine .inl ⟨hwithheld, ?_⟩
      rintro ⟨-, i, compiled, hgrants, hcompile⟩
      obtain ⟨fault, hrefused⟩ := hfault i hgrants
      rw [hcompile] at hrefused
      contradiction
    · have hreaches : desk.Reaches ⟨operation, now, false⟩ := by
        obtain ⟨-, d, plan, warnings, -, hcompile, -, -⟩ := hexecuted
        exact ⟨rfl, i, (d, plan, warnings), hgrants, hcompile⟩
      exact .inr ⟨hreaches, i, hgrants.1, hexecuted⟩

/-- How an errand ends tells what it did to the store. -/
structure Gate (desk : Desk) (v : Visit) : Prop where
  ends : isWithheld v.result ∨ isExecuted v.result
  withheld : isWithheld v.result → v.after = v.before
  executed : isExecuted v.result → ∃ before after i d plan warnings,
    v.before = some before ∧ v.after = some after ∧
      desk.intentOf v.errand.operation = .ok i ∧ desk.compile i = .ok (d, plan, warnings) ∧
      Fetched plan.statement (desk.retry.retries + 1) before after
  reaches : v.after ≠ v.before ↔ desk.Reaches v.errand

theorem gate_perform (desk : Desk) (e : Errand) (store : Store) :
    desk.Gate ⟨e, some store, (desk.perform e (some store)).1, (desk.perform e (some store)).2⟩ := by
  rcases perform_cases desk e store with ⟨⟨hresult, hstore⟩, hshort⟩ |
    ⟨hreaches, i, hintent, hresult, d, plan, warnings, after, hcompile, hstore, hfetched⟩
  · refine ⟨.inl hresult, fun _ => hstore, fun h => ?_, fun h => absurd hstore h, fun h => ?_⟩
    · exact absurd h (not_isExecuted_of_isWithheld hresult)
    · exact absurd h hshort
  · refine ⟨.inr hresult, fun h => ?_, fun _ => ?_, fun _ => hreaches, fun _ hsame => ?_⟩
    · exact absurd hresult (not_isExecuted_of_isWithheld h)
    · exact ⟨store, after, i, d, plan, warnings, rfl, hstore, hintent, hcompile, hfetched⟩
    · obtain rfl : after = store := Option.some.inj (hstore.symm.trans hsame)
      exact absurd hfetched.asked (Nat.lt_irrefl _)

/-- An errand leaves a store behind where it found one. -/
theorem perform_some (desk : Desk) (e : Errand) (store : Store) :
    ∃ after, (desk.perform e (some store)).2 = some after := by
  rcases perform_cases desk e store with ⟨⟨-, hstore⟩, -⟩ |
    ⟨-, i, -, -, d, plan, warnings, after, -, hstore, -⟩
  · exact ⟨store, hstore⟩
  · exact ⟨after, hstore⟩

/-- Every operation of every run leaves the store as it was when it is held back or refused, and has
fetched the statement of its intent when it is answered or the store has failed. Nothing is fetched
for a reading that is not certain enough, an intent that is not confirmed or a cancelled token. -/
theorem gate_of_mem_visits {store : Store} {errands : List Errand} {v : Visit}
    (h : v ∈ desk.visits (some store) errands) : desk.Gate v := by
  induction errands generalizing store with
  | nil => contradiction
  | cons e rest ih =>
    rw [visits_cons] at h
    rcases List.mem_cons.1 h with rfl | hrest
    · exact gate_perform desk e store
    · obtain ⟨after, hafter⟩ := perform_some desk e store
      rw [hafter] at hrest
      exact ih hrest

/-- A request that is given up, an empty question and an intent that is declined, before a request
that the store answers the second time. -/
def errands : List Errand :=
  let now : Timestamp := ⟨⟨2024, 5, 20⟩, 0, 0⟩
  let request := Request.structured "transactions" .count [] .empty
  [⟨.run request, now, true⟩, ⟨.run (.question ""), now, false⟩,
    ⟨.confirm .null false, now, false⟩, ⟨.run request, now, false⟩]

theorem gate_of_mem_visits_errands :
    let desk : Desk := { registry := Registry.municipal }
    let store : Store := { rows := [], failures := [.connection "lost"] }
    (desk.visits (some store) errands).map (fun v => (isWithheld v.result, isExecuted v.result)) =
        [(true, false), (true, false), (true, false), (false, true)] ∧
      ∃ v ∈ desk.visits (some store) errands, v.after.map (·.calls) = some 2 ∧ desk.Gate v := by
  intro desk store
  have hends : (desk.visits (some store) errands).map
      (fun v => (isWithheld v.result, isExecuted v.result)) =
        [(true, false), (true, false), (true, false), (false, true)] := by
    decide
  have htwice : (desk.visits (some store) errands).any
      (fun v => v.after.map (·.calls) == some 2) = true := by
    decide
  obtain ⟨v, hmem, hcalls⟩ := List.any_eq_true.1 htwice
  exact ⟨hends, v, hmem, beq_iff_eq.1 hcalls, gate_of_mem_visits hmem⟩

end Desk

end CivicReport
