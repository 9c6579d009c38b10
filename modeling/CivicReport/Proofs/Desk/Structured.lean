import CivicReport.Desk
import CivicReport.Registry.Municipal
import CivicReport.Proofs.Desk.Compiling
import CivicReport.Proofs.Json.Records
import CivicReport.Proofs.Store.Fetch
import CivicReport.Proofs.Vetting.Grammar

/-!
Structured requests. A request is read as the intent that it becomes with full confidence, and what
it says of confidence does not count. Main statement: running a structured request and confirming
its completion are the same, up to the source that the report names.
-/
namespace CivicReport

namespace Vetting

variable {s : Strictness} {r : Registry} {source : Source} {i : Intent}
variable {members others : List (String × Json)}

/-- Only the first member with a key counts, and the order does not. -/
theorem readMembers_congr (h : ∀ key, Json.lookup key others = Json.lookup key members) :
    readMembers s r source others = readMembers s r source members := by
  have hpresent (key : String) : present? others key = present? members key := by
    rw [present?, h, present?]
  have hcheck (keys : List String) : checkPresent others keys = checkPresent members keys := by
    induction keys with
    | nil => rfl
    | cons key rest ih => rw [checkPresent, checkPresent, hpresent, ih]
  simp only [readMembers, h, hpresent, hcheck]

theorem readMembers_withSource (h : readMembers s r source members = .ok i) (other : Source) :
    readMembers s r other members = .ok { i with source := other } := by
  obtain ⟨hrequired, hdomain, haction, hconfidence, hfilters, hfields, hexplanation, -⟩ :=
    readMembers_eq_ok_iff.1 h
  exact readMembers_eq_ok_iff.2 ⟨hrequired, hdomain, haction, hconfidence, hfilters, hfields,
    hexplanation, rfl⟩

end Vetting

namespace Request

variable {r : Registry} {members others b : List (String × Json)} {request : Request} {i : Intent}

/-- The same members with full confidence, and a list for an action if there is none. -/
def Completes (members b : List (String × Json)) : Prop :=
  ∀ key, Json.lookup key b =
    if key = "confidence" then some (.number (.real 1.0))
    else if key = "action" then (Json.lookup "action" members).or (some (.text "list"))
    else Json.lookup key members

theorem completes_asIntentMembers (members : List (String × Json)) :
    Completes members (asIntentMembers members) := by
  intro key
  unfold asIntentMembers
  rw [Json.lookup_putMember]
  by_cases hconfidence : key = "confidence"
  · simp [hconfidence]
  rw [if_neg (Ne.symm hconfidence), if_neg hconfidence]
  by_cases haction : key = "action"
  · subst haction
    cases hgiven : Json.lookup "action" members with
    | none => simp [Json.lookup_putMember, Action.name]
    | some j => simp [hgiven]
  · rw [if_neg haction]
    cases Json.lookup "action" members with
    | none => simp [Json.lookup_putMember, Ne.symm haction]
    | some j => rfl

/-- Requests that differ in their confidence only have the same completions. -/
theorem Completes.congr (hb : Completes members b)
    (h : ∀ key, key ≠ "confidence" → Json.lookup key others = Json.lookup key members) :
    Completes others b := by
  intro key
  rw [hb, h "action" (by decide)]
  by_cases hkey : key = "confidence"
  · rw [if_pos hkey, if_pos hkey]
  · rw [if_neg hkey, if_neg hkey, h key hkey]

theorem Completes.readMembers_eq {source : Source} (hb : Completes members b) :
    Vetting.readMembers .lenient r source (asIntentMembers members) =
      Vetting.readMembers .lenient r source b :=
  Vetting.readMembers_congr fun key => (completes_asIntentMembers members key).trans (hb key).symm

/-- A request without a question is read as the intent that its completion describes. -/
theorem Completes.exists_readMembers (hb : Completes members b)
    (hquery : Json.lookup "query" members = none)
    (h : read r (.object members) = .ok request) :
    ∃ i, Vetting.readMembers .lenient r .caller b = .ok i ∧
      request = .structured i.domain i.action i.fields i.filters := by
  rw [read, hquery] at h
  dsimp only at h
  split at h
  · contradiction
  · obtain ⟨⟨i, warnings⟩, hread, hrequest⟩ := bind_eq_ok.1 h
    rw [← hb.readMembers_eq]
    exact ⟨i, (Vetting.read_object_eq_ok_iff.1 hread).1, (Except.ok.inj hrequest).symm⟩

theorem Completes.confidence_eq {source : Source} (hb : Completes members b)
    (h : Vetting.readMembers .lenient r source b = .ok i) : i.confidence = 1.0 := by
  obtain ⟨-, -, -, hconfidence, -⟩ := Vetting.readMembers_eq_ok_iff.1 h
  rw [hb, if_pos rfl] at hconfidence
  obtain ⟨n, hn, -, hx⟩ := Vetting.readConfidence_eq_ok_iff.1 hconfidence
  obtain rfl := Json.number.inj hn
  exact hx.symm

/-- Requests that differ in their confidence only are the same. -/
theorem read_congr
    (h : ∀ key, key ≠ "confidence" → Json.lookup key others = Json.lookup key members) :
    read r (.object others) = read r (.object members) := by
  have hcompletes := (completes_asIntentMembers members).congr h
  have hread : Vetting.read .lenient r .caller (.object (asIntentMembers others)) =
      Vetting.read .lenient r .caller (.object (asIntentMembers members)) := by
    simp only [Vetting.read, hcompletes.readMembers_eq]
  simp only [read, h "query" (by decide), h "domain" (by decide), hread]

end Request

def Report.withSource (r : Report) (source : Source) : Report := { r with source := source }

/-- The same outcome, with a report that names this source. -/
def Outcome.withSource (source : Source) : Outcome → Outcome
  | completed r => completed (r.withSource source)
  | o => o

namespace Desk

variable {desk : Desk} {i : Intent} {p : Patience}

/-- What is served is this intent, unless the request is over before it begins. -/
def Serves (desk : Desk)
    (serve : Timestamp → Patience → Option Store → Except Fault Outcome × Option Store)
    (i : Intent) : Prop :=
  ∀ now p store, serve now p store =
    if p.isOver then (.error .cancelled, store) else completed (desk.executeWithin now p i store)

theorem serves_structured (desk : Desk) (domain : String) (action : Action) (fields : List String)
    (filters : Filters) :
    desk.Serves (fun now p => desk.answer now p (.structured domain action fields filters))
      (Request.intentOf domain action fields filters) := by
  intro now p store
  rfl

theorem serves_confirm {j : Json} {warnings : List String}
    (h : Vetting.read .lenient desk.registry (sourceOf j) j = .ok (i, warnings)) :
    desk.Serves (fun now p => desk.confirm now p j true) i := by
  intro now p store
  simp only [confirm, h]
  rfl

/-! Neither the explanation nor the source of an intent matters to its query. -/

theorem compile_retold (desk : Desk) (i : Intent) (explanation : String) (source : Source) :
    desk.compile { i with explanation := explanation, source := source } = desk.compile i := rfl

theorem completed_executeWithin_retold (desk : Desk) (now : Timestamp) (p : Patience) (i : Intent)
    (explanation : String) (source : Source) (store : Option Store) :
    completed (desk.executeWithin now p
        { i with explanation := explanation, source := source } store) =
      ((completed (desk.executeWithin now p i store)).1.map (Outcome.withSource source),
        (completed (desk.executeWithin now p i store)).2) := by
  rw [executeWithin, executeWithin, compile_retold]
  cases desk.compile i with
  | error fault => rfl
  | ok compiled =>
    obtain ⟨d, plan, warnings⟩ := compiled
    cases store with
    | none => rfl
    | some store =>
      dsimp only
      rcases store.fetch desk.retry plan.statement desk.retry.retries p with ⟨rows, after⟩
      cases rows with
      | error fault => rfl
      | ok rows => rfl

/-- What goes wrong is wrong with the intent, or else the store fails or is not waited for. -/
theorem executeWithin_eq_error {now : Timestamp} {store : Option Store} {fault : Fault}
    (h : (desk.executeWithin now p i store).1 = .error fault) :
    desk.compile i = .error fault ∨ fault = .cancelled ∨ ∃ f, fault = .store f := by
  rw [executeWithin] at h
  cases hcompile : desk.compile i with
  | error found =>
    rw [hcompile] at h
    obtain rfl : found = fault := Except.error.inj h
    exact .inl rfl
  | ok compiled =>
    obtain ⟨d, plan, warnings⟩ := compiled
    rw [hcompile] at h
    right
    cases store with
    | none => exact .inr ⟨.notConfigured, (Except.error.inj h).symm⟩
    | some store =>
      rcases hfetch : store.fetch desk.retry plan.statement desk.retry.retries p with ⟨rows, after⟩
      simp only [hfetch] at h
      cases rows with
      | ok rows => contradiction
      | error found =>
        obtain rfl : found = fault := Except.error.inj h
        exact Store.fetch_eq_error (congrArg Prod.fst hfetch)

variable {serve other : Timestamp → Patience → Option Store → Except Fault Outcome × Option Store}

/-- An intent that passes the vetting is not refused when it is served. -/
theorem ne_request_of_serves (hserve : desk.Serves serve i) {warnings : List String}
    (hcheck : Vetting.check .lenient desk.registry i = .ok warnings) (now : Timestamp)
    (p : Patience) (store : Option Store) (fault : RequestFault) :
    (serve now p store).1 ≠ .error (.request fault) := by
  rw [hserve]
  split
  · nofun
  · intro h
    have herror : (desk.executeWithin now p i store).1 = .error (.request fault) := by
      rcases hrun : desk.executeWithin now p i store with ⟨result, after⟩
      rw [hrun] at h
      cases result with
      | ok report => contradiction
      | error found => exact congrArg Except.error (Except.error.inj h)
    rcases executeWithin_eq_error herror with hcompile | hcancelled | ⟨f, hfailed⟩
    · have hrefused := ((compile_cases desk i).1 fault).1 hcompile
      rw [hcheck] at hrefused
      contradiction
    · contradiction
    · contradiction

/-- Telling an intent differently changes the source in the report and nothing else. -/
theorem serves_retold {explanation : String} {source : Source} (hserve : desk.Serves serve i)
    (hother : desk.Serves other { i with explanation := explanation, source := source })
    (now : Timestamp) (p : Patience) (store : Option Store) :
    other now p store =
      ((serve now p store).1.map (Outcome.withSource source), (serve now p store).2) := by
  rw [hserve, hother]
  split
  · rfl
  · exact completed_executeWithin_retold desk now p i explanation source store

/-- Running a structured request and confirming its completion make the same query with the same
warnings, or fail to compile in the same way. They end alike, except that the report of what was
confirmed names the source that is named there. The request is never refused once it has been read,
and whatever it says of confidence, it is the same request. -/
theorem confirm_completion {members b : List (String × Json)} {request : Request}
    (hquery : Json.lookup "query" members = none)
    (h : Request.read desk.registry (.object members) = .ok request)
    (hb : Request.Completes members b) :
    (∃ i j, desk.Serves (fun now p => desk.answer now p request) i ∧
      desk.Serves (fun now p => desk.confirm now p (.object b) true) j ∧
        desk.compile i = desk.compile j) ∧
    (∀ now p store, desk.confirm now p (.object b) true store =
      ((desk.answer now p request store).1.map (Outcome.withSource (sourceOf (.object b))),
        (desk.answer now p request store).2)) ∧
    (∀ now p store fault, (desk.answer now p request store).1 ≠ .error (.request fault)) ∧
    ∀ others, (∀ key, key ≠ "confidence" → Json.lookup key others = Json.lookup key members) →
      Request.read desk.registry (.object others) = .ok request := by
  obtain ⟨i, hi, rfl⟩ := hb.exists_readMembers hquery h
  obtain ⟨warnings, hcheck⟩ := Vetting.exists_check_lenient hi
  have hread : Vetting.read .lenient desk.registry (sourceOf (.object b)) (.object b) =
      .ok ({ i with source := sourceOf (.object b) }, warnings) :=
    Vetting.read_object_eq_ok_iff.2 ⟨Vetting.readMembers_withSource hi _, hcheck⟩
  have hretold : Request.intentOf i.domain i.action i.fields i.filters =
      { i with explanation := "בקשה מובנית", source := .caller } := by
    rw [Request.intentOf, hb.confidence_eq hi]
  -- The request forgets what the intent says of itself, and is told anew when it is run.
  have hanswer := serves_structured desk i.domain i.action i.fields i.filters
  rw [hretold] at hanswer
  have hconfirm := serves_confirm hread
  exact ⟨⟨_, _, hanswer, hconfirm, rfl⟩, serves_retold hanswer hconfirm,
    ne_request_of_serves hanswer hcheck,
    fun others hothers => (Request.read_congr hothers).trans h⟩

/-- A request without an action that speaks of its confidence and source, and of a filter that is
not there. -/
def pretentious : List (String × Json) :=
  [("domain", .text "transactions"), ("confidence", .text "none"), ("source", .text "model"),
    ("filters", .object [("amount_gt", .number (.whole 5000)), ("colour", .text "red")])]

theorem confirm_completion_pretentious :
    let desk : Desk := { registry := Registry.municipal }
    let b := Request.asIntentMembers pretentious
    let request := Request.structured "transactions" .list []
      ((Filters.empty.insert "amount_gt" (.integer 5000)).insert "colour" (.text "red"))
    Json.lookup "query" pretentious = none ∧
      Request.read desk.registry (.object pretentious) = .ok request ∧
      Request.Completes pretentious b ∧
      ∀ now p store, desk.confirm now p (.object b) true store =
        ((desk.answer now p request store).1.map (Outcome.withSource .model),
          (desk.answer now p request store).2) := by
  intro desk b request
  have hquery : Json.lookup "query" pretentious = none := rfl
  have hread : Request.read desk.registry (.object pretentious) = .ok request := rfl
  have hcompletes : Request.Completes pretentious b := Request.completes_asIntentMembers _
  have hsource : sourceOf (.object b) = .model := rfl
  refine ⟨hquery, hread, hcompletes, fun now p store => ?_⟩
  rw [← hsource]
  exact (confirm_completion hquery hread hcompletes).2.1 now p store

end Desk

end CivicReport
