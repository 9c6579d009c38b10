import CivicReport.Proofs.Store.Fetch
import Mathlib.Order.Bounds.Basic

/-!
Which failures a call uses up. While the store is in time, each fetch takes the next failure there
is; when it is too late, none does. Main statement: over any run of calls each one ends at the first
fetch that is not tried again, hands the failures that are left on to the next call, and no failure
is lost or met twice.
-/
namespace CivicReport

/-- Ends of fetches that no other fetch follows, however many retries are left. -/
def isFinal : Except StoreFault (List Row) → Bool
  | .ok _ => true
  | .error failure => !failure.isTransient

namespace Store

variable {store : Store} {s : Statement} {policy : RetryPolicy} {timeout retries n k : Nat}

/-- How a fetch ends, counted from 1: with the failure at its place, or with the rows once the
failures are used up. -/
def endAt (store : Store) (n : Nat) : Except StoreFault (List Row) :=
  match store.failures[n - 1]? with
  | some failure => .error failure
  | none => .ok store.rows

/-- The store after so many fetches in time. -/
def served (store : Store) (s : Statement) (n : Nat) : Store :=
  { store with
    calls := store.calls + n
    last := some s
    failures := store.failures.drop n }

/-- A call may end with the fetch: it is not tried again, or it is the last one permitted. -/
def MayEnd (store : Store) (retries n : Nat) : Prop :=
  0 < n ∧ (isFinal (store.endAt n) = true ∨ n = retries + 1)

theorem served_served (store : Store) (s : Statement) (m n : Nat) :
    (store.served s m).served s n = store.served s (m + n) := by
  simp only [served, List.drop_drop, Nat.add_assoc]

/-- After the first fetch the failures are met one place earlier. -/
theorem endAt_served (store : Store) (s : Statement) (hn : 0 < n) :
    (store.served s 1).endAt n = store.endAt (n + 1) := by
  have hplace : 1 + (n - 1) = n + 1 - 1 := by omega
  simp only [endAt, served, List.getElem?_drop, hplace]

/-! Fetches in time. -/

theorem attempt_of_le (h : store.delay ≤ timeout) :
    store.attempt timeout s none =
      (match store.endAt 1 with
        | .ok rows => .answered rows
        | .error failure => .failed failure, store.served s 1, none) := by
  have hdelay : (store.receive s).delay ≤ timeout := h
  unfold attempt
  simp only [Patience.after?, if_pos hdelay]
  unfold finish receive endAt served
  cases store.failures with
  | nil => rfl
  | cons failure rest => rfl

/-- A call that may end with its first fetch does so. -/
theorem fetch_of_mayEnd (h : store.delay ≤ policy.timeout) (hend : store.MayEnd retries 1) :
    store.fetch policy s retries none =
      ((store.endAt 1).mapError Fault.store, store.served s 1) := by
  rw [fetch, attempt_of_le h]
  cases hfirst : store.endAt 1 with
  | ok rows => rfl
  | error failure =>
    obtain ⟨-, hfinal | hlast⟩ := hend
    · have hlasting : failure.isTransient = false := by simpa [isFinal, hfirst] using hfinal
      simp only [hlasting]
      rfl
    · obtain rfl : retries = 0 := by omega
      rfl

/-- Another call leaves all but its first fetch to a call with one retry less. -/
theorem fetch_of_not_mayEnd (h : store.delay ≤ policy.timeout)
    (hgoes : ¬ store.MayEnd (retries + 1) 1) :
    store.fetch policy s (retries + 1) none =
      (store.served s 1).fetch policy s retries none := by
  have hpasses : isFinal (store.endAt 1) ≠ true := fun hfinal => hgoes ⟨Nat.one_pos, .inl hfinal⟩
  rw [fetch, attempt_of_le h]
  cases hfirst : store.endAt 1 with
  | ok rows => simp [isFinal, hfirst] at hpasses
  | error failure =>
    have htransient : failure.isTransient = true := by simpa [isFinal, hfirst] using hpasses
    simp only [htransient, Patience.after?]

theorem mayEnd_served_iff (hn : 0 < n) :
    (store.served s 1).MayEnd retries n ↔ store.MayEnd (retries + 1) (n + 1) := by
  simp only [MayEnd, endAt_served store s hn, hn, Nat.succ_pos, Nat.add_right_cancel_iff]

theorem isLeast_mayEnd_succ (hgoes : ¬ store.MayEnd (retries + 1) 1)
    (hk : IsLeast {n | (store.served s 1).MayEnd retries n} k) :
    IsLeast {n | store.MayEnd (retries + 1) n} (k + 1) := by
  obtain ⟨hend, hleast⟩ := hk
  have hend : (store.served s 1).MayEnd retries k := hend
  refine ⟨(mayEnd_served_iff hend.1).1 hend, ?_⟩
  intro n (hn : store.MayEnd (retries + 1) n)
  have hone : n ≠ 1 := by
    rintro rfl
    exact hgoes hn
  have hpos : 0 < n := hn.1
  obtain ⟨m, rfl⟩ : ∃ m, n = m + 1 := ⟨n - 1, by omega⟩
  have hm : (store.served s 1).MayEnd retries m := (mayEnd_served_iff (by omega)).2 hn
  exact Nat.add_le_add_right (hleast hm) 1

/-- In time, a call ends with the first fetch that it may end with. The induction is on the retries
that are left: each fetch that is tried again has taken one failure and one retry. -/
theorem fetch_inTime (h : store.delay ≤ policy.timeout) (s : Statement) (retries : Nat) :
    ∃ k, IsLeast {n | store.MayEnd retries n} k ∧ store.fetch policy s retries none =
      ((store.endAt k).mapError Fault.store, store.served s k) := by
  induction retries generalizing store with
  | zero =>
    have hone : store.MayEnd 0 1 := ⟨Nat.one_pos, .inr rfl⟩
    exact ⟨1, ⟨hone, fun n hn => hn.1⟩, fetch_of_mayEnd h hone⟩
  | succ retries ih =>
    by_cases hone : store.MayEnd (retries + 1) 1
    · exact ⟨1, ⟨hone, fun n hn => hn.1⟩, fetch_of_mayEnd h hone⟩
    · obtain ⟨k, hk, hfetch⟩ := @ih (store.served s 1) h
      have hpos : 0 < k := hk.1.1
      refine ⟨k + 1, isLeast_mayEnd_succ hone hk, ?_⟩
      rw [fetch_of_not_mayEnd h hone, hfetch, endAt_served store s hpos, served_served,
        Nat.add_comm 1 k]

/-! Fetches that are too late. -/

theorem attempt_of_lt (h : timeout < store.delay) :
    store.attempt timeout s none = (.failed (.timeout timeout), store.receive s, none) := by
  have hdelay : ¬ (store.receive s).delay ≤ timeout := Nat.not_le.2 h
  unfold attempt
  simp only [Patience.after?, if_neg hdelay]

/-- A store that is too late is asked as often as is permitted, and keeps its failures. -/
theorem fetch_late (h : policy.timeout < store.delay) (s : Statement) (retries : Nat) :
    store.fetch policy s retries none = (.error (.store (.timeout policy.timeout)),
      { store with calls := store.calls + (retries + 1), last := some s }) := by
  induction retries generalizing store with
  | zero =>
    rw [fetch, attempt_of_lt h]
    rfl
  | succ retries ih =>
    have hrest := @ih (store.receive s) h
    have hcalls : store.calls + 1 + (retries + 1) = store.calls + (retries + 1 + 1) := by omega
    rw [fetch, attempt_of_lt h]
    simp only [StoreFault.isTransient, Patience.after?, hrest]
    simp only [receive, hcalls]

end Store

/-! Runs of calls. -/

/-- A call for a statement, with the store before and after it. -/
structure Exchange where
  statement : Statement
  before : Store
  result : Except Fault (List Row)
  after : Store

namespace Exchange

variable {policy : RetryPolicy} {store : Store} {e : Exchange} {s : Statement} {k : Nat}

/-- The failures that are there before and gone after. -/
def used (e : Exchange) : List StoreFault :=
  e.before.failures.take (e.before.failures.length - e.after.failures.length)

/-- The call ends at its first fetch that succeeds or fails for good, or at the last one permitted.
Each fetch has taken one failure, except one that succeeds. -/
structure EndsAt (policy : RetryPolicy) (k : Nat) (e : Exchange) : Prop where
  least : IsLeast {n | e.before.MayEnd policy.retries n} k
  result : e.result = (e.before.endAt k).mapError Fault.store
  after : e.after = e.before.served e.statement k
  used : e.used = e.before.failures.take (min k e.before.failures.length)
  spared : ∀ rows, e.result = .ok rows → e.used.length + 1 = k

/-- Every fetch permitted was too late, and none has taken a failure. -/
structure TimesOut (policy : RetryPolicy) (e : Exchange) : Prop where
  result : e.result = .error (.store (.timeout policy.timeout))
  after : e.after = { e.before with
    calls := e.before.calls + (policy.retries + 1)
    last := some e.statement }
  used : e.used = []

theorem used_of_after (h : e.after = e.before.served s k) :
    e.used = e.before.failures.take (min k e.before.failures.length) := by
  rw [used, h, Store.served, List.length_drop]
  congr 1
  omega

/-- A fetch beyond the last failure succeeds, so a call never needs more than one. -/
theorem le_of_isLeast (h : IsLeast {n | store.MayEnd policy.retries n} k) :
    k ≤ store.failures.length + 1 := by
  apply h.2
  refine ⟨Nat.succ_pos _, .inl ?_⟩
  simp [Store.endAt, isFinal]

/-- Rows are found only where no failure is left. -/
theorem length_lt_of_endAt {rows : List Row} (hk : 0 < k) (h : store.endAt k = .ok rows) :
    store.failures.length < k := by
  unfold Store.endAt at h
  split at h
  · contradiction
  · next hnone =>
    have hplace := List.getElem?_eq_none_iff.1 hnone
    omega

end Exchange

namespace Store

variable {policy : RetryPolicy} {store : Store} {statements : List Statement}

def exchange (policy : RetryPolicy) (store : Store) (s : Statement) : Exchange :=
  let (result, after) := store.fetch policy s policy.retries none
  ⟨s, store, result, after⟩

/-- One call after the other, with the same store. -/
def exchanges (policy : RetryPolicy) : Store → List Statement → List Exchange
  | _, [] => []
  | store, s :: rest =>
    let first := store.exchange policy s
    first :: exchanges policy first.after rest

/-- The store that a run of calls leaves. -/
def leftBy : Store → List Exchange → Store
  | store, [] => store
  | _, e :: rest => leftBy e.after rest

/-- Each call starts from what the one before it has left. -/
def Linked : Store → List Exchange → Prop
  | _, [] => True
  | store, e :: rest => e.before = store ∧ Linked e.after rest

theorem fetched_exchange (policy : RetryPolicy) (store : Store) (s : Statement) :
    Fetched s (policy.retries + 1) store (store.exchange policy s).after :=
  (fetch_none policy s policy.retries store).1

theorem exists_endsAt_exchange (h : store.delay ≤ policy.timeout) (s : Statement) :
    ∃ k, (store.exchange policy s).EndsAt policy k := by
  obtain ⟨k, hk, hfetch⟩ := fetch_inTime h s policy.retries
  have hexchange : store.exchange policy s =
      ⟨s, store, (store.endAt k).mapError Fault.store, store.served s k⟩ := by
    rw [exchange, hfetch]
  have hpos : 0 < k := hk.1.1
  have hused := Exchange.used_of_after (e := store.exchange policy s) (s := s) (k := k)
    (by rw [hexchange])
  refine ⟨k, ?_⟩
  rw [hexchange] at hused ⊢
  refine ⟨hk, rfl, rfl, hused, ?_⟩
  intro rows hrows
  have hend : store.endAt k = .ok rows := by
    cases hend : store.endAt k with
    | ok found => simpa [hend, Except.mapError] using hrows
    | error failure => simp [hend, Except.mapError] at hrows
  have hmost := Exchange.le_of_isLeast hk
  have hleast := Exchange.length_lt_of_endAt hpos hend
  rw [hused, List.length_take]
  dsimp only
  omega

theorem timesOut_exchange (h : policy.timeout < store.delay) (s : Statement) :
    (store.exchange policy s).TimesOut policy := by
  have hexchange : store.exchange policy s =
      ⟨s, store, .error (.store (.timeout policy.timeout)),
        { store with calls := store.calls + (policy.retries + 1), last := some s }⟩ := by
    rw [exchange, fetch_late h]
  rw [hexchange]
  exact ⟨rfl, rfl, by simp [Exchange.used]⟩

/-- What a call keeps true of the store holds at every call of a run. -/
theorem of_mem_exchanges (Holds : Store → Prop) (Keeps : Exchange → Prop)
    (hstep : ∀ store s, Holds store → Keeps (store.exchange policy s) ∧
      Holds (store.exchange policy s).after)
    (hstore : Holds store) {e : Exchange} (he : e ∈ exchanges policy store statements) :
    Keeps e := by
  induction statements generalizing store with
  | nil => contradiction
  | cons s rest ih =>
    obtain ⟨hfirst, hafter⟩ := hstep store s hstore
    rcases List.mem_cons.1 he with rfl | hrest
    · exact hfirst
    · exact ih hafter hrest

theorem map_statement_exchanges (policy : RetryPolicy) (store : Store)
    (statements : List Statement) :
    (exchanges policy store statements).map (·.statement) = statements := by
  induction statements generalizing store with
  | nil => rfl
  | cons s rest ih =>
    rw [exchanges, List.map_cons, ih]
    rfl

theorem linked_exchanges (policy : RetryPolicy) (store : Store) (statements : List Statement) :
    store.Linked (exchanges policy store statements) := by
  induction statements generalizing store with
  | nil => trivial
  | cons s rest ih => exact ⟨rfl, ih _⟩

/-- The failures that a call has used up stood before those that it leaves. -/
theorem used_append_exchange (policy : RetryPolicy) (store : Store) (s : Statement) :
    (store.exchange policy s).used ++ (store.exchange policy s).after.failures =
      store.failures := by
  have hleft := List.suffix_iff_eq_drop.1 (fetched_exchange policy store s).failures
  have hsplit := List.take_append_drop
    (store.failures.length - (store.exchange policy s).after.failures.length) store.failures
  rwa [← hleft] at hsplit

theorem used_append_leftBy (policy : RetryPolicy) (store : Store) (statements : List Statement) :
    (exchanges policy store statements).flatMap (·.used) ++
      (store.leftBy (exchanges policy store statements)).failures = store.failures := by
  induction statements generalizing store with
  | nil => rfl
  | cons s rest ih =>
    rw [exchanges, List.flatMap_cons, leftBy, List.append_assoc, ih]
    exact used_append_exchange policy store s

/-- What a run of calls has done, call by call and as a whole. -/
structure Accounts (policy : RetryPolicy) (store : Store) (calls : List Exchange) : Prop where
  linked : store.Linked calls
  rows : ∀ e ∈ calls, e.before.rows = store.rows
  inTime : store.delay ≤ policy.timeout → ∀ e ∈ calls, ∃ k, e.EndsAt policy k
  late : policy.timeout < store.delay → ∀ e ∈ calls, e.TimesOut policy
  failures : calls.flatMap (·.used) ++ (store.leftBy calls).failures = store.failures

/-- Calls that follow each other take their failures from one queue, in order. A store in time is
asked until it succeeds, fails for good or has been asked once more than there are retries; one that
is too late is asked as often as is permitted and keeps its failures. -/
theorem accounts_exchanges (policy : RetryPolicy) (store : Store) (statements : List Statement) :
    (exchanges policy store statements).map (·.statement) = statements ∧
      Accounts policy store (exchanges policy store statements) := by
  refine ⟨map_statement_exchanges policy store statements,
    linked_exchanges policy store statements, ?_, ?_, ?_,
    used_append_leftBy policy store statements⟩
  · intro e he
    refine of_mem_exchanges (·.rows = store.rows) (·.before.rows = store.rows) ?_ rfl he
    intro now s hrows
    exact ⟨hrows, (fetched_exchange policy now s).rows.trans hrows⟩
  · intro hdelay e he
    refine of_mem_exchanges (·.delay ≤ policy.timeout) (fun e => ∃ k, e.EndsAt policy k) ?_ hdelay he
    intro now s hnow
    exact ⟨exists_endsAt_exchange hnow s, (fetched_exchange policy now s).delay.trans_le hnow⟩
  · intro hdelay e he
    refine of_mem_exchanges (policy.timeout < ·.delay) (·.TimesOut policy) ?_ hdelay he
    intro now s hnow
    exact ⟨timesOut_exchange hnow s, hnow.trans_eq (fetched_exchange policy now s).delay.symm⟩

/-- Three calls with one retry each. The first one is out of retries at its second failure, the
second one fails for good, and the third one succeeds after one failure. -/
theorem accounts_exchanges_failing :
    let store : Store := {
      rows := []
      failures := [.connection "lost", .timeout 5, .query "syntax", .connection "lost"]
      delay := 3 }
    let calls := exchanges {} store (List.replicate 3 ⟨"SELECT 1", []⟩)
    calls.map (fun e => (e.after.calls, e.used)) =
        [(2, [.connection "lost", .timeout 5]), (3, [.query "syntax"]),
          (5, [.connection "lost"])] ∧
      store.delay ≤ RetryPolicy.timeout {} ∧ ∀ e ∈ calls, ∃ k, e.EndsAt {} k := by
  intro store calls
  exact ⟨by decide, by decide, (accounts_exchanges {} store _).2.inTime (by decide)⟩

end Store

end CivicReport
