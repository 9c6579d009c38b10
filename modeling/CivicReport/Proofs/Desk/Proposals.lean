import CivicReport.Desk
import CivicReport.Registry.Municipal
import CivicReport.Proofs.Vetting.Grammar

/-!
What a model can do to the reading of a question. It is asked only about questions that the rules
can read, and it has a say only if it answers in time with what a strict vetting accepts. Main
statement: parsing with a model fails as parsing by rules does, gives the vetted proposal if there
is one, and is parsing by rules in every other case.
-/
namespace CivicReport

namespace Vetting

variable {s : Strictness} {r : Registry} {source : Source} {i : Intent}

/-- An intent that has been read has the source that it was read under. -/
theorem source_of_readMembers {members : List (String × Json)}
    (h : readMembers s r source members = .ok i) : i.source = source := by
  obtain ⟨-, h⟩ := check_bind_eq_ok.1 h
  obtain ⟨domain, -, h⟩ := bind_eq_ok.1 h
  obtain ⟨action, -, h⟩ := bind_eq_ok.1 h
  obtain ⟨confidence, -, h⟩ := bind_eq_ok.1 h
  obtain ⟨filters, -, h⟩ := bind_eq_ok.1 h
  obtain ⟨fields, -, h⟩ := bind_eq_ok.1 h
  obtain ⟨explanation, -, h⟩ := bind_eq_ok.1 h
  cases h
  rfl

end Vetting

namespace Desk

variable {desk : Desk} {p : Proposer} {i : Intent} {q : Question} {text : String}

def withProposer (desk : Desk) (p : Proposer) : Desk := { desk with proposer := some p }

/-! Proposals that count. -/

/-- A model answers in time with what a strict vetting reads as an intent. -/
def Conforms (desk : Desk) (p : Proposer) (i : Intent) : Prop :=
  p.delay ≤ desk.proposerTimeout ∧ ∃ j warnings, p.answer = .ok j ∧
    Vetting.read .strict desk.registry .model j = .ok (i, warnings)

theorem proposal_eq_ok_iff : desk.proposal p = .ok i ↔ desk.Conforms p i := by
  unfold proposal Conforms
  split
  · next hlate =>
    simp only [reduceCtorEq, false_iff]
    exact fun h => Nat.not_le.2 hlate h.1
  · next hintime =>
    rw [bind_eq_ok]
    constructor
    · rintro ⟨j, hanswer, h⟩
      refine ⟨Nat.not_lt.1 hintime, j, ?_⟩
      split at h
      · next found warnings hread =>
        cases h
        exact ⟨warnings, hanswer, hread⟩
      · contradiction
    · rintro ⟨-, j, warnings, hanswer, hread⟩
      exact ⟨j, hanswer, by rw [hread]; rfl⟩

theorem readQuestion_of_conforms (h : desk.Conforms p i) :
    (desk.withProposer p).readQuestion q = i := by
  have hproposal : (desk.withProposer p).proposal p = .ok i := proposal_eq_ok_iff.2 h
  change (desk.withProposer p).readProposed p q = i
  rw [readProposed, hproposal]

theorem readQuestion_of_not_conforms (h : ¬ ∃ i, desk.Conforms p i) :
    (desk.withProposer p).readQuestion q = readByRules desk.registry q := by
  change (desk.withProposer p).readProposed p q = _
  unfold readProposed
  split
  · next i hproposal => exact absurd ⟨i, proposal_eq_ok_iff.1 hproposal⟩ h
  · rfl

/-- Whether parsing fails depends on the question alone. -/
theorem parse_eq_error_iff {fault : Fault} :
    desk.parse text = .error fault ↔ prepare desk.longestQuestion text = .error fault := by
  rw [parse_eq]
  cases prepare desk.longestQuestion text <;> simp [Except.map]

theorem parseByRules_eq_error_iff {r : Registry} {longest : Nat} {fault : Fault} :
    parseByRules r longest text = .error fault ↔ prepare longest text = .error fault := by
  unfold parseByRules
  cases prepare longest text <;> simp [bind, Except.bind, pure, Except.pure]

/-- A model is not asked where parsing by rules fails, whatever asking it would do, and can neither
cause a failure nor avoid one. It replaces the reading by rules with a proposal that conforms, or not
at all. -/
theorem parse_withProposer (desk : Desk) (p : Proposer) (text : String) :
    (∀ fault, (desk.withProposer p).parse text = .error fault ↔
      parseByRules desk.registry desk.longestQuestion text = .error fault) ∧
    (∀ fault, parseByRules desk.registry desk.longestQuestion text = .error fault →
      ∀ {m : Type → Type} [Monad m] (ask : Option (Inquiry → m Proposer)),
        desk.parseAsking ask text = pure (.error fault)) ∧
    (∀ i byRules, parseByRules desk.registry desk.longestQuestion text = .ok byRules →
      desk.Conforms p i →
        (desk.withProposer p).parse text = .ok i ∧ i.source = .model ∧
          ∃ warnings, Vetting.check .strict desk.registry i = .ok warnings) ∧
    ((¬ ∃ i, desk.Conforms p i) →
      (desk.withProposer p).parse text =
        parseByRules desk.registry desk.longestQuestion text) := by
  refine ⟨fun fault => ?_, fun fault h m _ ask => ?_, fun i byRules h hconforms => ?_, fun h => ?_⟩
  · rw [parse_eq_error_iff, parseByRules_eq_error_iff]
    rfl
  · rw [parseAsking, parseByRules_eq_error_iff.1 h]
  · -- The question is prepared in the same way for both.
    obtain ⟨q, hq, -⟩ := bind_eq_ok.1 h
    have hparse : (desk.withProposer p).parse text = .ok i := by
      rw [parse_eq, withProposer, hq]
      exact congrArg Except.ok (readQuestion_of_conforms hconforms)
    refine ⟨hparse, ?_⟩
    obtain ⟨-, j, warnings, -, hread⟩ := hconforms
    obtain ⟨members, -, hmembers, hcheck⟩ := Vetting.read_eq_ok_iff.1 hread
    exact ⟨Vetting.source_of_readMembers hmembers, warnings, hcheck⟩
  · have hsame (q : Question) : (desk.withProposer p).readQuestion q =
        readByRules desk.registry q := readQuestion_of_not_conforms h
    rw [parse_eq, parseByRules, funext hsame]
    rfl

/-- A proposal for the sum of large transactions. -/
def proposedSum : Json :=
  .object
    [("domain", .text "transactions"), ("action", .text "sum"),
     ("confidence", .number (.real 0.9)),
     ("filters", .object [("amount_gt", .number (.whole 5000))]), ("explanation", .text "")]

def intentOfProposedSum : Intent where
  domain := "transactions"
  action := .sum
  filters := Filters.empty.insert "amount_gt" (.integer 5000)
  confidence := 0.9
  source := .model

/-- In time the proposal is taken, and a millisecond too late it is not. -/
theorem parse_withProposer_sum :
    let desk : Desk := { registry := Registry.municipal }
    desk.Conforms ⟨8000, .ok proposedSum⟩ intentOfProposedSum ∧
      (desk.withProposer ⟨8000, .ok proposedSum⟩).parse "כמה שולם?" = .ok intentOfProposedSum ∧
      (desk.withProposer ⟨8001, .ok proposedSum⟩).parse "כמה שולם?" =
        parseByRules Registry.municipal 500 "כמה שולם?" := by
  intro desk
  have hconforms : desk.Conforms ⟨8000, .ok proposedSum⟩ intentOfProposedSum :=
    ⟨Nat.le_refl 8000, proposedSum, [], rfl, rfl⟩
  have hlate : ¬ ∃ i, desk.Conforms ⟨8001, .ok proposedSum⟩ i :=
    fun ⟨i, h⟩ => absurd h.1 (by decide)
  have hquestion : prepare 500 "כמה שולם?" = .ok (Question.ofText "כמה שולם?") := rfl
  have hrules : parseByRules desk.registry desk.longestQuestion "כמה שולם?" =
      .ok (readByRules Registry.municipal (Question.ofText "כמה שולם?")) :=
    bind_eq_ok.2 ⟨_, hquestion, rfl⟩
  exact ⟨hconforms, ((parse_withProposer desk _ _).2.2.1 _ _ hrules hconforms).1,
    (parse_withProposer desk _ _).2.2.2 hlate⟩

end Desk

end CivicReport
