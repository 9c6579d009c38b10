import CivicReport.Json.Writing
import CivicReport.Proofs.Text.Offsets
import CivicReport.Proposal.Answer
import Mathlib

/-!
The JSON object in the answer of a model. Main statement: an object is read out of any text around
it, as long as no opening brace stands before it and no closing one behind it; any other answer
breaks the contract, and no answer is ever cut inside a character.
-/
namespace CivicReport.Answer

def noObject : ModelFault := .badAnswer "no JSON object in response"

def unterminated : ModelFault := .badAnswer "unterminated JSON object"

/-- The outermost braces and what is between them, by offsets in bytes. It is nothing where a text
would be cut inside a character. -/
def cutByOffsets? (content : List Char) : Option (Except ModelFault (List Char)) :=
  match Text.firstOffset? opening content with
  | none => some (.error noObject)
  | some start =>
    match (Text.lastOffset? closing content).filter (start < ·) with
    | none => some (.error unterminated)
    | some last => (Text.slice? start (last + 1) content).map .ok

variable {content before inside after : List Char}

/-- Where the braces stand in a text. -/
inductive Braces : List Char → Prop where
  | none {content : List Char} (h : opening ∉ content) : Braces content
  | unclosed {before after : List Char} (hbefore : opening ∉ before) (hafter : closing ∉ after) :
      Braces (before ++ opening :: after)
  | object {before after : List Char} (hbefore : opening ∉ before) (inside : List Char)
      (hafter : closing ∉ after) : Braces (before ++ (opening :: inside ++ [closing] ++ after))

theorem exists_last_append {mark : Char} {s : List Char} (h : mark ∈ s) :
    ∃ before after, s = before ++ mark :: after ∧ mark ∉ after := by
  obtain ⟨back, front, hreverse, hback⟩ := List.eq_append_cons_of_mem (List.mem_reverse.2 h)
  refine ⟨front.reverse, back.reverse, ?_, mt List.mem_reverse.1 hback⟩
  rw [← List.reverse_reverse s, hreverse]
  simp

theorem braces (content : List Char) : Braces content := by
  by_cases hopening : opening ∈ content
  · obtain ⟨before, rest, rfl, hbefore⟩ := List.eq_append_cons_of_mem hopening
    by_cases hclosing : closing ∈ rest
    · obtain ⟨inside, after, rfl, hafter⟩ := exists_last_append hclosing
      have htext : opening :: (inside ++ closing :: after) =
          opening :: inside ++ [closing] ++ after := by simp
      rw [htext]
      exact .object hbefore inside hafter
    · exact .unclosed hbefore hclosing
  · exact .none hopening

/-! Cutting. -/

theorem fromOpening_append (h : opening ∉ before) (after : List Char) :
    fromOpening (before ++ opening :: after) = opening :: after := by
  have hbefore : ∀ c ∈ before, (c != opening) = true :=
    fun c hc => bne_iff_ne.2 fun heq => h (heq ▸ hc)
  rw [fromOpening, List.dropWhile_append_of_pos hbefore]
  exact List.dropWhile_cons_of_neg (by simp)

theorem toClosing_append (h : closing ∉ after) (before : List Char) :
    toClosing (before ++ closing :: after) = before ++ [closing] := by
  have hafter : ∀ c ∈ after.reverse, (c != closing) = true :=
    fun c hc => bne_iff_ne.2 fun heq => h (heq ▸ List.mem_reverse.1 hc)
  have hreverse : (before ++ closing :: after).reverse =
      after.reverse ++ (closing :: before.reverse) := by simp
  rw [toClosing, hreverse, List.dropWhile_append_of_pos hafter,
    List.dropWhile_cons_of_neg (by simp), List.reverse_cons, List.reverse_reverse]

theorem cut_of_notMem (h : opening ∉ content) : cut content = .error noObject := by
  have hempty : fromOpening content = [] :=
    List.dropWhile_eq_nil_iff.2 fun c hc => bne_iff_ne.2 fun heq => h (heq ▸ hc)
  rw [cut, hempty]
  rfl

theorem cut_unclosed (hbefore : opening ∉ before) (hafter : closing ∉ after) :
    cut (before ++ opening :: after) = .error unterminated := by
  have hclosing : closing ∉ opening :: after :=
    fun h => (List.mem_cons.1 h).elim (by decide) hafter
  have hempty : toClosing (opening :: after) = [] := by
    rw [toClosing, List.reverse_eq_nil_iff]
    exact List.dropWhile_eq_nil_iff.2 fun c hc =>
      bne_iff_ne.2 fun heq => hclosing (heq ▸ List.mem_reverse.1 hc)
  simp only [cut, fromOpening_append hbefore, hempty]
  rfl

theorem cut_object (hbefore : opening ∉ before) (inside : List Char) (hafter : closing ∉ after) :
    cut (before ++ (opening :: inside ++ [closing] ++ after)) =
      .ok (opening :: inside ++ [closing]) := by
  have hfrom : fromOpening (before ++ (opening :: inside ++ [closing] ++ after)) =
      opening :: (inside ++ closing :: after) := by
    simpa using fromOpening_append hbefore (inside ++ closing :: after)
  have hto : toClosing (opening :: (inside ++ closing :: after)) =
      opening :: inside ++ [closing] := toClosing_append hafter (opening :: inside)
  rw [cut, hfrom]
  simp only [hto]
  rfl

/-- Both braces are cut at boundaries of characters. -/
theorem cutByOffsets?_eq (content : List Char) : cutByOffsets? content = some (cut content) := by
  cases braces content with
  | none h => rw [cut_of_notMem h, cutByOffsets?, Text.firstOffset?_of_notMem h]
  | @unclosed before after hbefore hafter =>
    have hlast : (Text.lastOffset? closing (before ++ opening :: after)).filter
        (Text.utf8Length before < ·) = none := by
      have hclosing : closing ∉ opening :: after :=
        fun h => (List.mem_cons.1 h).elim (by decide) hafter
      rw [Text.lastOffset?_append_of_notMem hclosing, Option.filter_eq_none_iff]
      intro last hlast
      simpa using Nat.le_of_lt (Text.lastOffset?_lt hlast)
    rw [cut_unclosed hbefore hafter, cutByOffsets?, Text.firstOffset?_append hbefore]
    simp only [hlast]
  | @object before after hbefore inside hafter =>
    have hfirst : Text.firstOffset? opening (before ++ (opening :: inside ++ [closing] ++ after)) =
        some (Text.utf8Length before) := by
      simpa using Text.firstOffset?_append hbefore (inside ++ closing :: after)
    have hlast : Text.lastOffset? closing (before ++ (opening :: inside ++ [closing] ++ after)) =
        some (Text.utf8Length (before ++ opening :: inside)) := by
      simpa using Text.lastOffset?_append hafter (before ++ opening :: inside)
    have hlt : Text.utf8Length before < Text.utf8Length (before ++ opening :: inside) := by
      have hopening : 0 < opening.utf8Size := opening.utf8Size_pos
      rw [Text.utf8Length_append, Text.utf8Length_cons]
      omega
    -- A closing brace takes one byte, so what ends with it ends at the next offset.
    have hstop : Text.utf8Length (before ++ opening :: inside) + 1 =
        Text.utf8Length (before ++ (opening :: inside ++ [closing])) := by
      rw [← List.append_assoc, Text.utf8Length_append _ [closing]]
      rfl
    rw [cut_object hbefore inside hafter, cutByOffsets?, hfirst]
    simp only [hlast, Option.filter_some, decide_eq_true_eq, if_pos hlt, hstop, Text.slice?_append,
      Option.map_some]

/-! Reading. -/

theorem read_of_cut_error {content : String} {fault : ModelFault}
    (h : cut content.toList = .error fault) : read content = .error fault := by
  rw [read, h]
  rfl

theorem read_of_cut_ok {content : String} {object : List Char} (h : cut content.toList = .ok object) :
    read content = (Json.read? (String.ofList object)).elim
      (.error (.badAnswer "not a JSON value")) .ok := by
  simp only [read, h, bind, Except.bind]
  cases Json.read? (String.ofList object) <;> rfl

theorem exists_cut (content : List Char) :
    (∃ object, cut content = .ok object) ∨ ∃ reason, cut content = .error (.badAnswer reason) := by
  cases braces content with
  | none h => exact .inr ⟨_, cut_of_notMem h⟩
  | unclosed hbefore hafter => exact .inr ⟨_, cut_unclosed hbefore hafter⟩
  | object hbefore inside hafter => exact .inl ⟨_, cut_object hbefore inside hafter⟩

theorem exists_read (content : String) :
    (∃ j, read content = .ok j) ∨ ∃ reason, read content = .error (.badAnswer reason) := by
  obtain ⟨object, hobject⟩ | ⟨reason, hreason⟩ := exists_cut content.toList
  · rw [read_of_cut_ok hobject]
    cases Json.read? (String.ofList object) with
    | none => exact .inr ⟨_, rfl⟩
    | some j => exact .inl ⟨j, rfl⟩
  · exact .inr ⟨reason, read_of_cut_error hreason⟩

/-- The texts of an object, on one line or on several. -/
inductive Prints (members : List (String × Json)) : String → Prop where
  | compact : Prints members (Json.object members).compact
  | pretty : Prints members (Json.object members).pretty

theorem Prints.exists_inside {members : List (String × Json)} {printed : String}
    (h : Prints members printed) : ∃ inside, printed.toList = opening :: inside ++ [closing] := by
  have hbraces (inside : String) : ∃ letters,
      ("\x7b" ++ inside ++ "\x7d").toList = opening :: letters ++ [closing] :=
    ⟨inside.toList, by rw [String.toList_append, String.toList_append]; rfl⟩
  cases h with
  | compact => exact hbraces _
  | pretty =>
    rw [Json.pretty, Json.prettyAt, Json.bracketed]
    split
    · exact hbraces ""
    · simp only [String.append_assoc]
      simpa only [String.append_assoc] using hbraces ("\n" ++ (Text.joinWith ",\n"
        ((Json.prettyMembers 1 members).map (Json.indentation 1 ++ ·)) ++
          ("\n" ++ Json.indentation 0)))

/-- An answer is read without cutting it inside a character. It is an object or breaks the contract:
it has no opening brace, or no closing one behind the first of them, or what it has is no JSON. An
object that is read back from its own text is read back from any text without such braces around
it. -/
theorem read_answer (content : String) :
    cutByOffsets? content.toList = some (cut content.toList) ∧
      ((∃ j, read content = .ok j) ∨ ∃ reason, read content = .error (.badAnswer reason)) ∧
      (opening ∉ content.toList → read content = .error noObject) ∧
      (∀ before after, content.toList = before ++ opening :: after → opening ∉ before →
        closing ∉ after → read content = .error unterminated) ∧
      ∀ before printed after members, content = before ++ printed ++ after →
        Prints members printed → Json.read? printed = some (.object members) →
        opening ∉ before.toList → closing ∉ after.toList →
        read content = .ok (.object members) := by
  refine ⟨cutByOffsets?_eq _, exists_read content, fun h => ?_, ?_, ?_⟩
  · exact read_of_cut_error (cut_of_notMem h)
  · intro before after hcontent hbefore hafter
    exact read_of_cut_error (hcontent ▸ cut_unclosed hbefore hafter)
  · intro before printed after members hcontent hprints hread hbefore hafter
    obtain ⟨inside, hinside⟩ := hprints.exists_inside
    have hcut : cut content.toList = .ok printed.toList := by
      rw [hcontent, String.toList_append, String.toList_append, List.append_assoc, hinside]
      exact cut_object hbefore inside hafter
    rw [read_of_cut_ok hcut, String.ofList_toList, hread]
    rfl

/-- Braces in a string, a nested object and a number. -/
def proposal : List (String × Json) :=
  [("search", .text "\x7dגן\x7b"), ("of", .object [("year", .number (.whole 2024))])]

theorem read_answer_fenced :
    let content := "כל \x7d הנתונים:\n\x60\x60\x60json\n" ++ (Json.object proposal).pretty ++
      "\n\x60\x60\x60 \x7b"
    read content = .ok (.object proposal) ∧ read "\x7d\x7b" = .error unterminated ∧
      read "אין תשובה" = .error noObject := by
  intro content
  have hread : Json.read? (Json.object proposal).pretty = some (.object proposal) := by cbv
  obtain ⟨-, -, -, -, hobject⟩ := read_answer content
  obtain ⟨-, -, -, hunterminated, -⟩ := read_answer "\x7d\x7b"
  obtain ⟨-, -, hnone, -⟩ := read_answer "אין תשובה"
  exact ⟨hobject _ _ _ proposal rfl .pretty hread (by decide) (by decide),
    hunterminated [closing] [] rfl (by decide) (by decide), hnone (by decide)⟩

end CivicReport.Answer
