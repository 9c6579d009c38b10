import CivicReport.Service
import CivicReport.Registry.Municipal
import CivicReport.Proofs.Store.Alike

/-!
What a client can learn from the replies of a service about the failures behind them. Failures that
differ only in their details take the same way through retries, outcomes and replies. Main
statement: the replies to a message are the same and so are the numbers of queries; at different
times only the times in the replies differ.
-/
namespace CivicReport

/-- Clients are told the variant and the field, and nothing else. -/
theorem Fault.Alike.reply_eq {f g : Fault} (h : f.Alike g) : f.reply = g.reply := by
  cases h with
  | same f => rfl
  | interpretation a b => rfl
  | store hkind => cases hkind <;> rfl
  | @request f g hvariant hfield =>
    have hmessage : (Fault.request f).userMessage = (Fault.request g).userMessage := by
      cases hvariant <;> simp only [Fault.userMessage, hfield]
    simp only [Fault.reply, hmessage]
    rfl

/-! Times in replies. -/

namespace Json

/-- An object without the members under a key. -/
def without (key : String) : Json → Json
  | object members => object (members.filter (·.1 != key))
  | j => j

/-- An object in which a member is without the members under a key. -/
def withoutIn (outer key : String) : Json → Json
  | object members =>
    object (members.map fun m => if m.1 = outer then (m.1, m.2.without key) else m)
  | j => j

/-- Neither the time of a report nor that of an intent is told. -/
def undated (j : Json) : Json :=
  (j.withoutIn "metadata" "executedAt").withoutIn "intent" "timestamp"

end Json

def Reply.undated (r : Reply) : Reply := { r with body := r.body.map Json.undated }

/-- Outcomes that differ only in the times at which they came about. -/
inductive Outcome.SameBut (now later : Timestamp) : Outcome → Outcome → Prop where
  | completed (r : Report) :
      SameBut now later (.completed { r with executedAt := now })
        (.completed { r with executedAt := later })
  | needsConfirmation (i : Intent) (message : String) :
      SameBut now later (.needsConfirmation ⟨i, now⟩ message)
        (.needsConfirmation ⟨i, later⟩ message)
  | declined : SameBut now later .declined .declined

namespace Outcome

variable {now later : Timestamp} {x y : Outcome}

theorem SameBut.undated_eq (h : x.SameBut now later y) : x.toJson.undated = y.toJson.undated := by
  cases h with
  | completed r => rfl
  | needsConfirmation i message =>
    have hundated (time : Timestamp) :
        (Outcome.needsConfirmation ⟨i, time⟩ message).toJson.undated = .object
          [("status", .text "needs_confirmation"),
           ("intent", .object (i.toMembers.filter (·.1 != "timestamp"))),
           ("message", .text message)] := by
      have hintent : (DatedIntent.mk i time).toJson.without "timestamp" =
          .object (i.toMembers.filter (·.1 != "timestamp")) := by
        simp [DatedIntent.toJson, Json.without]
      rw [← hintent]
      rfl
    rw [hundated, hundated]
  | declined => rfl

theorem SameBut.eq (h : x.SameBut now now y) : x = y := by
  cases h <;> rfl

end Outcome

/-- Both stores are there and alike. -/
inductive Store.BothAlike : Option Store → Option Store → Prop where
  | both {a b : Store} (h : a.Alike b) : BothAlike (some a) (some b)

/-- Outcomes that differ only in their times, or faults that are alike, with stores that are. -/
structure AnswersAlike (now later : Timestamp) (x y : Except Fault Outcome × Option Store) :
    Prop where
  ends : EndsAlike (Outcome.SameBut now later) x.1 y.1
  stores : Store.BothAlike x.2 y.2

namespace Desk

variable {a b : Option Store}

theorem alike_executeWithin (h : Store.BothAlike a b) (desk : Desk) (now later : Timestamp)
    (p : Patience) (i : Intent) :
    AnswersAlike now later (completed (desk.executeWithin now p i a))
      (completed (desk.executeWithin later p i b)) := by
  unfold executeWithin
  cases desk.compile i with
  | error fault => exact ⟨.error (.same _), h⟩
  | ok compiled =>
    obtain ⟨d, plan, warnings⟩ := compiled
    cases h with
    | @both a b h =>
      obtain ⟨hends, hstores⟩ := h.fetch desk.retry plan.statement desk.retry.retries p
      dsimp only
      generalize a.fetch desk.retry plan.statement desk.retry.retries p = first at *
      generalize b.fetch desk.retry plan.statement desk.retry.retries p = second at *
      obtain ⟨endA, a'⟩ := first
      obtain ⟨endB, b'⟩ := second
      cases hends with
      | error hfault => exact ⟨.error hfault, .both hstores⟩
      | @ok rows _ hrows =>
        cases hrows
        let report := Report.ofRows desk.rowCap now rows i d
        exact ⟨.ok (.completed { report with warnings := report.warnings ++ warnings }),
          .both hstores⟩

theorem alike_answer (h : Store.BothAlike a b) (desk : Desk) (now later : Timestamp)
    (p : Patience) (request : Request) :
    AnswersAlike now later (desk.answer now p request a) (desk.answer later p request b) := by
  unfold answer
  cases p.isOver with
  | true => exact ⟨.error (.same _), h⟩
  | false =>
    cases request with
    | structured domain action fields filters => exact alike_executeWithin h desk now later p _
    | question text =>
      dsimp only
      cases prepare desk.longestQuestion text with
      | error fault => exact ⟨.error (.same _), h⟩
      | ok q =>
        cases p.after? desk.readingWait with
        | none => exact ⟨.error (.same _), h⟩
        | some left =>
          change AnswersAlike now later (desk.answerIntent now left (desk.readQuestion q) a)
            (desk.answerIntent later left (desk.readQuestion q) b)
          unfold answerIntent
          split
          · exact ⟨.ok (.needsConfirmation _ _), h⟩
          · exact alike_executeWithin h desk now later left _

theorem alike_confirm (h : Store.BothAlike a b) (desk : Desk) (now later : Timestamp)
    (p : Patience) (j : Json) (confirmed : Bool) :
    AnswersAlike now later (desk.confirm now p j confirmed a)
      (desk.confirm later p j confirmed b) := by
  unfold confirm
  cases p.isOver with
  | true => exact ⟨.error (.same _), h⟩
  | false =>
    cases confirmed with
    | false => exact ⟨.ok .declined, h⟩
    | true =>
      cases Vetting.read .lenient desk.registry (sourceOf j) j with
      | error fault => exact ⟨.error (.same _), h⟩
      | ok found => exact alike_executeWithin h desk now later p found.1

end Desk

namespace Service

/-- Replies that differ only in their times, with stores that are alike. -/
structure RepliesAlike (now later : Timestamp) (x y : Reply × Option Store) : Prop where
  undated : x.1.undated = y.1.undated
  same : now = later → x.1 = y.1
  stores : Store.BothAlike x.2 y.2

variable {a b : Option Store} {now later : Timestamp}

theorem alike_outcomeReply {x y : Except Fault Outcome × Option Store}
    (h : AnswersAlike now later x y) :
    RepliesAlike now later (outcomeReply x) (outcomeReply y) := by
  obtain ⟨result, store⟩ := x
  obtain ⟨other, store'⟩ := y
  obtain ⟨hends, hstores⟩ := h
  cases hends with
  | @ok o o' hsame =>
    refine ⟨?_, ?_, hstores⟩
    · exact congrArg (fun j => Reply.json 200 j) hsame.undated_eq
    · rintro rfl
      exact congrArg (fun o => Reply.json 200 o.toJson) hsame.eq
  | error hfault =>
    have hreply := hfault.reply_eq
    exact ⟨congrArg Reply.undated hreply, fun _ => hreply, hstores⟩

/-- A reply that was made without regard to time and store. -/
theorem RepliesAlike.fixed (reply : Reply) (h : Store.BothAlike a b) :
    RepliesAlike now later (reply, a) (reply, b) :=
  ⟨rfl, fun _ => rfl, h⟩

theorem alike_answerQuery (h : Store.BothAlike a b) (s : Service) (p : Patience)
    (body : String) :
    RepliesAlike now later (s.answerQuery now p body a) (s.answerQuery later p body b) := by
  unfold answerQuery
  cases Json.readBody body with
  | error rejection => exact .fixed _ h
  | ok j =>
    dsimp only
    cases Request.read s.desk.registry j with
    | error fault => exact .fixed _ h
    | ok request => exact alike_outcomeReply (Desk.alike_answer h s.desk now later p request)

theorem alike_answerConfirmation (h : Store.BothAlike a b) (s : Service) (p : Patience)
    (body : String) :
    RepliesAlike now later (s.answerConfirmation now p body a)
      (s.answerConfirmation later p body b) := by
  unfold answerConfirmation
  cases Confirmation.read body with
  | error rejection => exact .fixed _ h
  | ok c => exact alike_outcomeReply (Desk.alike_confirm h s.desk now later p c.intent c.confirmed)

theorem health_eq (h : Store.BothAlike a b) (s : Service) : s.health a = s.health b := by
  cases h
  rfl

theorem alike_answerAt (h : Store.BothAlike a b) (s : Service) (p : Patience) (call : Call)
    (e : Endpoint) :
    RepliesAlike now later (s.answerAt now p call a e) (s.answerAt later p call b e) := by
  unfold answerAt
  rw [health_eq h]
  split
  · split
    · exact .fixed _ h
    · split
      · exact .fixed _ h
      · split
        · exact .fixed _ h
        · cases e with
          | query => exact alike_answerQuery h s p call.body
          | confirm | domains | health => exact alike_answerConfirmation h s p call.body
  · dsimp only
    split
    · exact .fixed _ h
    · split
      all_goals exact .fixed _ h

/-- The answer to a message, before it says which pages may read it. -/
def answerRouted (s : Service) (now : Timestamp) (p : Patience) (call : Call)
    (store : Option Store) : Reply × Option Store :=
  if s.permitsOrigins && call.method == "OPTIONS" then (Reply.bare 200, store)
  else match s.endpoint? call.target with
    | some e => s.answerAt now p call store e
    | none => (.bare 404, store)

def opened (s : Service) (r : Reply) : Reply :=
  if s.permitsOrigins then { r with allowedOrigins := some "*" } else r

theorem answer_eq (s : Service) (now : Timestamp) (p : Patience) (call : Call)
    (store : Option Store) : s.answer now p call store =
      (s.opened (s.answerRouted now p call store).1, (s.answerRouted now p call store).2) := by
  have hrouted : s.answer now p call store =
      if s.permitsOrigins then
        ({ (s.answerRouted now p call store).1 with allowedOrigins := some "*" },
          (s.answerRouted now p call store).2)
      else s.answerRouted now p call store := rfl
  rw [hrouted, opened]
  split
  · rfl
  · rfl

theorem undated_opened (s : Service) (r : Reply) : (s.opened r).undated = s.opened r.undated := by
  unfold opened
  split
  · rfl
  · rfl

theorem alike_answerRouted (h : Store.BothAlike a b) (s : Service) (p : Patience) (call : Call) :
    RepliesAlike now later (s.answerRouted now p call a) (s.answerRouted later p call b) := by
  unfold answerRouted
  split
  · exact .fixed _ h
  · cases s.endpoint? call.target with
    | none => exact .fixed _ h
    | some e => exact alike_answerAt h s p call e

theorem alike_answer (h : Store.BothAlike a b) (s : Service) (p : Patience) (call : Call) :
    RepliesAlike now later (s.answer now p call a) (s.answer later p call b) := by
  have hrouted : RepliesAlike now later (s.answerRouted now p call a)
      (s.answerRouted later p call b) := alike_answerRouted h s p call
  rw [answer_eq, answer_eq]
  refine ⟨?_, fun htimes => congrArg s.opened (hrouted.same htimes), hrouted.stores⟩
  rw [undated_opened, undated_opened, hrouted.undated]

/-- The details of failures do not reach clients. Whatever failures of the same kinds a store is
told to give, a message has the same reply after equally many queries, and at another time nothing
but the times in it differ. All faults of a variant that are about one field have the same reply. -/
theorem reply_eq_of_sameKind :
    (∀ (store : Store) (failures others : List StoreFault),
      List.Forall₂ StoreFault.SameKind failures others →
      ∀ (s : Service) (p : Patience) (call : Call) (now later : Timestamp),
        let first := s.answer now p call (some { store with failures := failures })
        let second := s.answer later p call (some { store with failures := others })
        first.1.undated = second.1.undated ∧ (now = later → first.1 = second.1) ∧
          ∃ calls, first.2.map (·.calls) = some calls ∧ second.2.map (·.calls) = some calls) ∧
    (∀ f g : RequestFault, f.SameVariant g → f.field = g.field →
      (Fault.request f).reply = (Fault.request g).reply) ∧
    ∀ detail other, (Fault.interpretation detail).reply = (Fault.interpretation other).reply := by
  refine ⟨fun store failures others hkinds s p call now later => ?_, fun f g hvariant hfield => ?_,
    fun detail other => ?_⟩
  · have halike :
        Store.Alike { store with failures := failures } { store with failures := others } :=
      ⟨rfl, hkinds, rfl, rfl, rfl⟩
    intro first second
    have hreplies : RepliesAlike now later first second := alike_answer (.both halike) s p call
    obtain ⟨hundated, hsame, hstores⟩ := hreplies
    refine ⟨hundated, hsame, ?_⟩
    generalize first.2 = x at hstores
    generalize second.2 = y at hstores
    cases hstores with
    | both h => exact ⟨_, rfl, congrArg some h.calls.symm⟩
  · exact Fault.Alike.reply_eq (.request hvariant hfield)
  · exact Fault.Alike.reply_eq (.interpretation detail other)

/-- A service for the municipal registry is asked for a list of transactions. -/
def listReply (failures : List StoreFault) : Reply × Option Store :=
  answer { desk := { registry := Registry.municipal } } ⟨⟨2024, 5, 20⟩, 0, 0⟩ none
    { method := "POST", target := "/api/v1/reports/query", contentType := some "application/json"
      body := "\x7b\"domain\":\"transactions\"\x7d" }
    (some { rows := [], failures := failures })

/-- Two ways to fail twice. What the first says is for whoever runs the program. -/
theorem reply_eq_of_sameKind_connection :
    List.Forall₂ StoreFault.SameKind [.connection "no route to 10.0.0.5:5432", .timeout 20]
        [.connection "", .timeout 15000] ∧
      (listReply [.connection "no route to 10.0.0.5:5432", .timeout 20]).1.status = 502 ∧
      (listReply [.connection "no route to 10.0.0.5:5432", .timeout 20]).1 =
        (listReply [.connection "", .timeout 15000]).1 ∧
      (listReply [.connection "", .timeout 15000]).2.map (·.calls) = some 2 ∧
      RequestFault.SameVariant (.unknownDomain "' OR 1=1 --") (.unknownDomain "") ∧
      (Fault.request (.unknownDomain "' OR 1=1 --")).reply =
        (Fault.request (.unknownDomain "")).reply := by
  have hkinds : List.Forall₂ StoreFault.SameKind
      [.connection "no route to 10.0.0.5:5432", .timeout 20] [.connection "", .timeout 15000] :=
    .cons (.connection _ _) (.cons (.timeout _ _) .nil)
  have hvariant : RequestFault.SameVariant (.unknownDomain "' OR 1=1 --") (.unknownDomain "") :=
    .unknownDomain _ _
  have hstatus : (listReply [.connection "no route to 10.0.0.5:5432", .timeout 20]).1.status =
      502 := by decide +kernel
  have hcalls : (listReply [.connection "no route to 10.0.0.5:5432", .timeout 20]).2.map (·.calls) =
      some 2 := by decide +kernel
  obtain ⟨hreplies, hfields, -⟩ := reply_eq_of_sameKind
  obtain ⟨-, hsame, calls, hfirst, hsecond⟩ :=
    hreplies { rows := [] } _ _ hkinds { desk := { registry := Registry.municipal } } none _ _ _
  obtain rfl : calls = 2 := Option.some.inj (hfirst.symm.trans hcalls)
  exact ⟨hkinds, hstatus, hsame rfl, hsecond, hvariant, hfields _ _ hvariant rfl⟩

end Service

end CivicReport
