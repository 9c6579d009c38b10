import CivicReport.Json.Reading
import CivicReport.Json.Writing
import CivicReport.Proofs.Json.Records
import CivicReport.Proofs.Query.Scan
import Mathlib.Tactic.Common

/-!
Texts of JSON values, read back one character at a time. The invariant is what the reader holds
between two tokens: where a value may come next, its text takes the reader to where the value has
been accepted, whatever follows. Main statement: a value without numbers, all of whose parts count
and which is not nested too deeply, is read from its text as it was.
-/
namespace CivicReport.Json

/-- The scope of what is read next inside of the open arrays and objects. -/
def Scope.at? (scope : Scope) (stack : List Frame) : Option Scope :=
  stack.foldr (fun frame s => s.bind (·.within? frame)) (some scope)

theorem Scope.at?_cons (scope : Scope) (frame : Frame) (stack : List Frame) :
    scope.at? (frame :: stack) = (scope.at? stack).bind (·.within? frame) := rfl

/-- A value may come next, perhaps the first one of an array. -/
inductive Expected.IsValue : Expected → Prop where
  | value : IsValue .value
  | valueOrEnd : IsValue .valueOrEnd

/-- A key may come next, perhaps the first one of an object. -/
inductive Expected.IsKey : Expected → Prop where
  | key : IsKey .key
  | keyOrEnd : IsKey .keyOrEnd

open Reader

variable {scope s : Scope} {expected : Expected} {stack : List Frame}

/-! Parts that count. -/

theorem covers_of_isValue (he : expected.IsValue) (hs : scope.at? stack = some s)
    (lexeme : Lexeme) : scope.covers ⟨lexeme, expected, stack⟩ = true := by
  have hcovers : scope.covers ⟨lexeme, expected, stack⟩ = (scope.at? stack).isSome := by
    cases he <;> rfl
  rw [hcovers, hs]
  rfl

theorem covers_of_isKey (he : expected.IsKey) (hs : scope.at? stack = some s) (lexeme : Lexeme)
    (frame : Frame) : scope.covers ⟨lexeme, expected, frame :: stack⟩ = true := by
  have hcovers : scope.covers ⟨lexeme, expected, frame :: stack⟩ = (scope.at? stack).isSome := by
    cases he <;> rfl
  rw [hcovers, hs]
  rfl

theorem readFrom_cons {r : Reader} (h : scope.covers r = true) (c : Char) (rest : List Char) :
    readFrom scope r (c :: rest) = (r.step false c).bind fun r => readFrom scope r rest := by
  rw [readFrom, Reader.next, h]
  rfl

/-- What is left behind by a value counts if the value does. -/
theorem exists_accept (he : expected.IsValue) (hs : scope.at? stack = some s) (j : Json) :
    ∃ after later, accept ⟨.none, expected, stack⟩ j = some ⟨.none, after, later⟩ ∧
      ∀ lexeme, scope.covers ⟨lexeme, after, later⟩ = true := by
  cases stack with
  | nil => exact ⟨.nothing j, [], by cases he <;> rfl, fun _ => rfl⟩
  | cons frame rest =>
    obtain ⟨outer, houter, -⟩ := Option.bind_eq_some_iff.1 hs
    have hcovers (frame : Frame) (lexeme : Lexeme) :
        scope.covers ⟨lexeme, .separator, frame :: rest⟩ = true := by
      change (scope.at? rest).isSome = true
      exact Option.isSome_of_eq_some houter
    cases frame with
    | array done => exact ⟨_, _, by cases he <;> rfl, hcovers _⟩
    | object done key => exact ⟨_, _, by cases he <;> rfl, hcovers _⟩

/-! Texts between quotes. -/

theorem map_hexValue?_hexDigits :
    ∀ n < 32, (hexDigits n).map hexValue? = [some (n / 16), some (n % 16)] := by
  decide

section Quoted

variable (hcovers : ∀ lexeme, scope.covers ⟨lexeme, expected, stack⟩ = true)
include hcovers

theorem readFrom_hexDigit {c : Char} {digit : Nat} (hc : hexValue? c = some digit)
    (done rest : List Char) (left value : Nat) :
    readFrom scope ⟨.hex done none (left + 2) value, expected, stack⟩ (c :: rest) =
      readFrom scope ⟨.hex done none (left + 1) (16 * value + digit), expected, stack⟩ rest := by
  rw [readFrom_cons (hcovers _)]
  simp [step, hc]

/-- Control characters are written by their number. -/
theorem readFrom_control {c : Char} (hc : c.toNat < 32) (done rest : List Char) :
    readFrom scope ⟨.string done, expected, stack⟩
        ('\\' :: 'u' :: '0' :: '0' :: hexDigits c.toNat ++ rest) =
      readFrom scope ⟨.string (c :: done), expected, stack⟩ rest := by
  obtain ⟨high, digits, hhigh, hhighValue, htail⟩ :=
    List.map_eq_cons_iff.1 (map_hexValue?_hexDigits c.toNat hc)
  obtain ⟨low, digits, rfl, hlowValue, hnil⟩ := List.map_eq_cons_iff.1 htail
  obtain rfl := List.map_eq_nil_iff.1 hnil
  have hopening (text : List Char) :
      readFrom scope ⟨.string done, expected, stack⟩ ('\\' :: 'u' :: text) =
        readFrom scope ⟨.hex done none 4 0, expected, stack⟩ text := rfl
  have hvalue : 16 * (c.toNat / 16) + c.toNat % 16 = c.toNat := Nat.div_add_mod _ _
  have hunit : unit? false done none c.toNat = some (.string (c :: done)) := by
    have hhalf : ¬ 0xD800 ≤ c.toNat ∧ ¬ 0xDC00 ≤ c.toNat := by omega
    simp [unit?, hhalf]
  have hlast : step false ⟨.hex done none 1 (c.toNat / 16), expected, stack⟩ low =
      some ⟨.string (c :: done), expected, stack⟩ := by
    simp [step, hlowValue, hvalue, hunit]
  simp only [hhigh, List.cons_append, List.nil_append]
  have hzero : hexValue? '0' = some 0 := rfl
  rw [hopening, readFrom_hexDigit hcovers hzero, readFrom_hexDigit hcovers hzero,
    readFrom_hexDigit hcovers hhighValue, readFrom_cons (hcovers _)]
  simp only [Nat.mul_zero, Nat.zero_add, hlast, Option.bind_some]

theorem readFrom_escapeChar (c : Char) (done rest : List Char) :
    readFrom scope ⟨.string done, expected, stack⟩ (escapeChar c ++ rest) =
      readFrom scope ⟨.string (c :: done), expected, stack⟩ rest := by
  by_cases hshort : c ∈ ['"', '\\', '\n', '\r', '\t', '\x08', '\x0c']
  · -- These have an escape of two characters each.
    simp only [List.mem_cons, List.not_mem_nil, or_false] at hshort
    rcases hshort with rfl | rfl | rfl | rfl | rfl | rfl | rfl
    all_goals rfl
  simp only [List.mem_cons, List.not_mem_nil, or_false, not_or] at hshort
  obtain ⟨hquote, hbackslash, hnewline, hreturn, htab, hbackspace, hfeed⟩ := hshort
  have hescape : escapeChar c = if c.toNat < 0x20 then
      '\\' :: 'u' :: '0' :: '0' :: hexDigits c.toNat else [c] := by
    rw [escapeChar, if_neg hquote, if_neg hbackslash, if_neg hnewline, if_neg hreturn, if_neg htab,
      if_neg hbackspace, if_neg hfeed]
  by_cases hcontrol : c.toNat < 0x20
  · rw [hescape, if_pos hcontrol, readFrom_control hcovers hcontrol]
  · have hstep : step false ⟨.string done, expected, stack⟩ c =
        some ⟨.string (c :: done), expected, stack⟩ := by
      simp [step, hquote, hbackslash, hcontrol]
    rw [hescape, if_neg hcontrol, List.singleton_append, readFrom_cons (hcovers _), hstep]
    rfl

theorem readFrom_letters (letters done rest : List Char) :
    readFrom scope ⟨.string done, expected, stack⟩ (letters.flatMap escapeChar ++ rest) =
      readFrom scope ⟨.string (letters.reverse ++ done), expected, stack⟩ rest := by
  induction letters generalizing done with
  | nil => rfl
  | cons c letters ih =>
    rw [List.flatMap_cons, List.append_assoc, readFrom_escapeChar hcovers, ih]
    simp

/-- A quoted text is taken as a key or as a value, as is expected. -/
theorem readFrom_quote (hopen : step false ⟨.none, expected, stack⟩ '"' =
      some ⟨.string [], expected, stack⟩) (text : String) (rest : List Char) :
    readFrom scope ⟨.none, expected, stack⟩ ((quote text).toList ++ rest) =
      (acceptText ⟨.none, expected, stack⟩ text).bind fun r => readFrom scope r rest := by
  have htext : (quote text).toList ++ rest =
      '"' :: (text.toList.flatMap escapeChar ++ '"' :: rest) := by
    simp [quote]
  have hclose : step false ⟨.string text.toList.reverse, expected, stack⟩ '"' =
      acceptText ⟨.none, expected, stack⟩ (String.ofList text.toList.reverse.reverse) := rfl
  rw [htext, readFrom_cons (hcovers _), hopen, Option.bind_some, readFrom_letters hcovers,
    List.append_nil, readFrom_cons (hcovers _), hclose, List.reverse_reverse, String.ofList_toList]

end Quoted

theorem readFrom_key (he : expected.IsKey) (hs : scope.at? stack = some s) (frame : Frame)
    (key : String) (rest : List Char) :
    readFrom scope ⟨.none, expected, frame :: stack⟩ ((quote key).toList ++ rest) =
      readFrom scope ⟨.none, .colon key, frame :: stack⟩ rest := by
  rw [readFrom_quote (fun lexeme => covers_of_isKey he hs lexeme frame) (by cases he <;> rfl)]
  cases he <;> rfl

/-! Values. -/

/-- Where it comes next, this value is read from its text, whatever comes after it. -/
def ReadsBack (scope s : Scope) (room : Nat) (j : Json) : Prop :=
  ∀ {expected : Expected} {stack : List Frame}, expected.IsValue → scope.at? stack = some s →
    stack.length + room ≤ mostOpen → ∀ rest : List Char,
      readFrom scope ⟨.none, expected, stack⟩ (j.compact.toList ++ rest) =
        (accept ⟨.none, expected, stack⟩ j).bind fun r => readFrom scope r rest

variable {room : Nat}

/-- Only what follows a word shows that it has ended, so the word waits for it. -/
theorem readFrom_word (he : expected.IsValue) (hs : scope.at? stack = some s)
    (letters : List Char) {j : Json} (hword : wordValue? letters.reverse = some j)
    (rest : List Char) : readFrom scope ⟨.word letters, expected, stack⟩ rest =
      (accept ⟨.none, expected, stack⟩ j).bind fun r => readFrom scope r rest := by
  obtain ⟨after, later, haccept, hcovers⟩ := exists_accept he hs j
  -- The next character is read as if the value had been accepted before it.
  have hflush : flush false ⟨.word letters, expected, stack⟩ = some ⟨.none, after, later⟩ := by
    have hvalue : flush false ⟨.word letters, expected, stack⟩ =
        (wordValue? letters.reverse).bind (accept ⟨.none, expected, stack⟩) := by
      cases he <;> rfl
    rw [hvalue, hword, Option.bind_some, haccept]
  rw [haccept, Option.bind_some]
  cases rest with
  | nil =>
    change result? _ = result? _
    rw [result?, hflush]
    rfl
  | cons c rest =>
    have hends : extendsWord letters c = false := by simp [extendsWord, hword]
    have hstep : step false ⟨.word letters, expected, stack⟩ c =
        step false ⟨.none, after, later⟩ c := by
      simp [step, hends, hflush]
    rw [readFrom_cons (covers_of_isValue he hs _), readFrom_cons (hcovers _), hstep]

theorem readsBack_null : ReadsBack scope s room .null := by
  intro expected stack he hs hroom rest
  rw [← readFrom_word he hs "null".toList.reverse rfl]
  cases he <;> rfl

theorem readsBack_bool (b : Bool) : ReadsBack scope s room (.bool b) := by
  intro expected stack he hs hroom rest
  cases b with
  | true =>
    rw [← readFrom_word he hs "true".toList.reverse rfl]
    cases he <;> rfl
  | false =>
    rw [← readFrom_word he hs "false".toList.reverse rfl]
    cases he <;> rfl

theorem readsBack_text (text : String) : ReadsBack scope s room (.text text) := by
  intro expected stack he hs hroom rest
  rw [compact, readFrom_quote (covers_of_isValue he hs) (by cases he <;> rfl)]
  cases he <;> rfl

section Parts

variable {each : Scope}

theorem readFrom_item (he : expected.IsValue) {done : List Json}
    (hs : scope.at? (.array done :: stack) = some each) (hroom : stack.length + 1 + room ≤ mostOpen)
    {j : Json} (hj : ReadsBack scope each room j) (rest : List Char) :
    readFrom scope ⟨.none, expected, .array done :: stack⟩ (j.compact.toList ++ rest) =
      readFrom scope ⟨.none, .separator, .array (j :: done) :: stack⟩ rest := by
  rw [hj he hs hroom]
  cases he <;> rfl

/-- The items that are left of an array, at least one, and its end. -/
theorem readFrom_items (hs : ∀ done, scope.at? (.array done :: stack) = some each)
    (hroom : stack.length + 1 + room ≤ mostOpen) (items : List Json) (he : expected.IsValue)
    {j : Json} (hitems : ∀ i ∈ j :: items, ReadsBack scope each room i) (done : List Json)
    (rest : List Char) :
    readFrom scope ⟨.none, expected, .array done :: stack⟩
        ((Text.joinWith "," (compactItems (j :: items))).toList ++ ']' :: rest) =
      (close (.array (done.reverse ++ j :: items)) stack).bind fun r => readFrom scope r rest := by
  have hj : ReadsBack scope each room j := hitems j List.mem_cons_self
  -- The frame holds the items before, so the induction is on those after the one that comes next.
  induction items generalizing j done expected with
  | nil =>
    have hclose : readFrom scope ⟨.none, .separator, .array (j :: done) :: stack⟩ (']' :: rest) =
        (close (.array (j :: done).reverse) stack).bind fun r => readFrom scope r rest := rfl
    change readFrom scope _ (j.compact.toList ++ ']' :: rest) = _
    rw [readFrom_item he (hs done) hroom hj, hclose, List.reverse_cons]
  | cons next items ih =>
    have htext : (Text.joinWith "," (compactItems (j :: next :: items))).toList ++ ']' :: rest =
        j.compact.toList ++
          ',' :: ((Text.joinWith "," (compactItems (next :: items))).toList ++ ']' :: rest) := by
      simp [compactItems, Text.joinWith_cons_cons]
    have hcomma (text : List Char) :
        readFrom scope ⟨.none, .separator, .array (j :: done) :: stack⟩ (',' :: text) =
          readFrom scope ⟨.none, .value, .array (j :: done) :: stack⟩ text := rfl
    have hnext : ∀ i ∈ next :: items, ReadsBack scope each room i :=
      fun i hi => hitems i (List.mem_cons_of_mem _ hi)
    rw [htext, readFrom_item he (hs done) hroom hj, hcomma,
      ih .value hnext (j :: done) (hnext next List.mem_cons_self)]
    simp

theorem readFrom_member (he : expected.IsKey) (hs : scope.at? stack = some s)
    {done : List (String × Json)} {m : String × Json}
    (hwithin : s.within? (.object done m.1) = some each)
    (hroom : stack.length + 1 + room ≤ mostOpen) (hm : ReadsBack scope each room m.2)
    (before : String) (rest : List Char) :
    readFrom scope ⟨.none, expected, .object done before :: stack⟩
        ((quote m.1 ++ ":" ++ m.2.compact).toList ++ rest) =
      readFrom scope ⟨.none, .separator, .object (m :: done) m.1 :: stack⟩ rest := by
  have htext : (quote m.1 ++ ":" ++ m.2.compact).toList ++ rest =
      (quote m.1).toList ++ ':' :: (m.2.compact.toList ++ rest) := by
    simp
  have hcolon (text : List Char) :
      readFrom scope ⟨.none, .colon m.1, .object done before :: stack⟩ (':' :: text) =
        readFrom scope ⟨.none, .value, .object done m.1 :: stack⟩ text := rfl
  have hat : scope.at? (.object done m.1 :: stack) = some each := by
    rw [Scope.at?_cons, hs, Option.bind_some, hwithin]
  rw [htext, readFrom_key he hs, hcolon, hm .value hat hroom]
  rfl

/-- The members that are left of an object, at least one, and its end. -/
theorem readFrom_members {part : String → Scope} (hs : scope.at? stack = some s)
    (hroom : stack.length + 1 + room ≤ mostOpen) (members : List (String × Json))
    (he : expected.IsKey) {m : String × Json}
    (hwithin : ∀ n ∈ m :: members, ∀ done, s.within? (.object done n.1) = some (part n.1))
    (hmembers : ∀ n ∈ m :: members, ReadsBack scope (part n.1) room n.2)
    (done : List (String × Json)) (before : String) (rest : List Char) :
    readFrom scope ⟨.none, expected, .object done before :: stack⟩
        ((Text.joinWith "," (compactMembers (m :: members))).toList ++ '}' :: rest) =
      (close (.object (done.reverse ++ m :: members)) stack).bind fun r =>
        readFrom scope r rest := by
  have hwithinHead := hwithin m List.mem_cons_self done
  have hm : ReadsBack scope (part m.1) room m.2 := hmembers m List.mem_cons_self
  induction members generalizing m done before expected with
  | nil =>
    have hclose :
        readFrom scope ⟨.none, .separator, .object (m :: done) m.1 :: stack⟩ ('}' :: rest) =
          (close (.object (m :: done).reverse) stack).bind fun r => readFrom scope r rest := rfl
    change readFrom scope _ ((quote m.1 ++ ":" ++ m.2.compact).toList ++ '}' :: rest) = _
    rw [readFrom_member he hs hwithinHead hroom hm, hclose, List.reverse_cons]
  | cons next members ih =>
    have htext :
        (Text.joinWith "," (compactMembers (m :: next :: members))).toList ++ '}' :: rest =
          (quote m.1 ++ ":" ++ m.2.compact).toList ++
            ',' :: ((Text.joinWith "," (compactMembers (next :: members))).toList ++
              '}' :: rest) := by
      simp [compactMembers, Text.joinWith_cons_cons]
    have hcomma (text : List Char) :
        readFrom scope ⟨.none, .separator, .object (m :: done) m.1 :: stack⟩ (',' :: text) =
          readFrom scope ⟨.none, .key, .object (m :: done) m.1 :: stack⟩ text := rfl
    have hwithinRest : ∀ n ∈ next :: members, ∀ done, s.within? (.object done n.1) =
        some (part n.1) := fun n hn => hwithin n (List.mem_cons_of_mem _ hn)
    have hrest : ∀ n ∈ next :: members, ReadsBack scope (part n.1) room n.2 :=
      fun n hn => hmembers n (List.mem_cons_of_mem _ hn)
    rw [htext, readFrom_member he hs hwithinHead hroom hm, hcomma,
      ih .key hwithinRest hrest (m :: done) m.1 (hwithinRest next List.mem_cons_self _)
        (hrest next List.mem_cons_self)]
    simp

end Parts

/-- A value without numbers whose parts all count, with arrays and objects nested no deeper than
there is room for. -/
inductive Plain : Nat → Scope → Json → Prop where
  | null {room : Nat} {s : Scope} : Plain room s .null
  | bool {room : Nat} {s : Scope} (b : Bool) : Plain room s (.bool b)
  | text {room : Nat} {s : Scope} (text : String) : Plain room s (.text text)
  | array {room : Nat} {s each : Scope} {items : List Json}
      (hwithin : ∀ done, s.within? (.array done) = some each)
      (hitems : ∀ j ∈ items, Plain room each j) : Plain (room + 1) s (.array items)
  | object {room : Nat} {s : Scope} {members : List (String × Json)} (part : String → Scope)
      (hwithin : ∀ m ∈ members, ∀ done, s.within? (.object done m.1) = some (part m.1))
      (hmembers : ∀ m ∈ members, Plain room (part m.1) m.2) : Plain (room + 1) s (.object members)

theorem plain_texts {texts : List String} : Plain (room + 1) .whole (Json.texts texts) := by
  refine .array (fun _ => rfl) fun j hj => ?_
  obtain ⟨t, -, rfl⟩ := List.mem_map.1 hj
  exact .text t

/-- Of the members of a record, those with its names count. -/
theorem plain_written {names : List String} {values : List (Option Json)} (part : String → Scope)
    (h : ∀ m ∈ written names values, Plain room (part m.1) m.2) :
    Plain (room + 1) (.members (names.map fun name => (name, part name)))
      (.object (written names values)) := by
  refine .object part (fun m hm done => ?_) h
  have hfind : (names.map fun name => (name, part name)).find? (·.1 == m.1) =
      some (m.1, part m.1) := by
    have hmem : (m.1, part m.1) ∈ names.map fun name => (name, part name) :=
      List.mem_map_of_mem (some_mem_of_mem_written hm).1
    have hsome : ((names.map fun name => (name, part name)).find? (·.1 == m.1)).isSome :=
      List.find?_isSome.2 ⟨_, hmem, beq_self_eq_true m.1⟩
    obtain ⟨found, hfound⟩ := Option.isSome_iff_exists.1 hsome
    obtain ⟨name, -, rfl⟩ := List.mem_map.1 (List.mem_of_find?_eq_some hfound)
    have hname : (name == m.1) = true := by simpa using List.find?_some hfound
    obtain rfl : name = m.1 := eq_of_beq hname
    exact hfound
  change Option.map _ _ = _
  rw [hfind]
  rfl

theorem readsBack_array {each : Scope} {items : List Json}
    (hwithin : ∀ done, s.within? (.array done) = some each)
    (hitems : ∀ j ∈ items, ReadsBack scope each room j) :
    ReadsBack scope s (room + 1) (.array items) := by
  intro expected stack he hs hroom rest
  have hopen (text : List Char) : readFrom scope ⟨.none, expected, stack⟩ ('[' :: text) =
      readFrom scope ⟨.none, .valueOrEnd, .array [] :: stack⟩ text := by
    have hfits : stack.length < mostOpen := by omega
    rw [readFrom_cons (covers_of_isValue he hs _)]
    cases he <;> simp [step, begin, isSpace, push, hfits]
  have haccept : accept ⟨.none, expected, stack⟩ (.array items) = close (.array items) stack := by
    cases he <;> rfl
  have htext : (array items).compact.toList ++ rest =
      '[' :: ((Text.joinWith "," (compactItems items)).toList ++ ']' :: rest) := by
    simp [compact]
  rw [htext, hopen, haccept]
  cases items with
  | nil => rfl
  | cons j items =>
    have hat (done : List Json) : scope.at? (.array done :: stack) = some each := by
      rw [Scope.at?_cons, hs, Option.bind_some, hwithin]
    exact readFrom_items hat (by omega) items .valueOrEnd hitems [] rest

theorem readsBack_object {part : String → Scope} {members : List (String × Json)}
    (hwithin : ∀ m ∈ members, ∀ done, s.within? (.object done m.1) = some (part m.1))
    (hmembers : ∀ m ∈ members, ReadsBack scope (part m.1) room m.2) :
    ReadsBack scope s (room + 1) (.object members) := by
  intro expected stack he hs hroom rest
  have hopen (text : List Char) : readFrom scope ⟨.none, expected, stack⟩ ('{' :: text) =
      readFrom scope ⟨.none, .keyOrEnd, .object [] "" :: stack⟩ text := by
    have hfits : stack.length < mostOpen := by omega
    rw [readFrom_cons (covers_of_isValue he hs _)]
    cases he <;> simp [step, begin, isSpace, push, hfits]
  have haccept :
      accept ⟨.none, expected, stack⟩ (.object members) = close (.object members) stack := by
    cases he <;> rfl
  have htext : (object members).compact.toList ++ rest =
      '{' :: ((Text.joinWith "," (compactMembers members)).toList ++ '}' :: rest) := by
    simp [compact]
  rw [htext, hopen, haccept]
  cases members with
  | nil => rfl
  | cons m members =>
    exact readFrom_members hs (by omega) members .keyOrEnd hwithin hmembers [] "" rest

theorem readsBack_of_plain {j : Json} (h : Plain room s j) : ReadsBack scope s room j := by
  induction h with
  | null => exact readsBack_null
  | bool b => exact readsBack_bool b
  | text text => exact readsBack_text text
  | array hwithin _ ih => exact readsBack_array hwithin ih
  | object part hwithin _ ih => exact readsBack_object hwithin ih

theorem readRaw?_compact {j : Json} (h : Plain mostOpen scope j) :
    readRaw? scope j.compact = some j := by
  have hat : scope.at? [] = some scope := rfl
  have hread : readFrom scope .initial (j.compact.toList ++ []) =
      (accept .initial j).bind fun r => readFrom scope r [] :=
    readsBack_of_plain h .value hat (Nat.zero_add mostOpen).le []
  rw [readRaw?, ← List.append_nil j.compact.toList, hread]
  rfl

end CivicReport.Json
