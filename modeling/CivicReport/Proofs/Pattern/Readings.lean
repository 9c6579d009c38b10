import CivicReport.Pattern

/-!
What a pattern matches, apart from how it is searched for. The readings of a pattern at a place
are the texts it can take there, most preferred first, and `Takes` says which texts these are.
Main statements: matching tries the readings one after another, and the match at a place is the first
of the texts that can be taken there.
-/
namespace CivicReport

/-- The place in a text between the characters passed and those left. -/
def Cursor.between (passed rest : List Char) : Cursor := ⟨passed.getLast?, rest, passed.length⟩

namespace Pattern

variable {Label : Type}

/-- A number of repetitions is within its bounds. -/
def Within (least : Nat) (most : Option Nat) (n : Nat) : Prop := least ≤ n ∧ ∀ m ∈ most, n ≤ m

/-- A pattern takes a text that stands between two others. -/
def Takes : Pattern Label → (before text after : List Char) → List (Capture Label) → Prop
  | empty, _, w, _, caps => w = [] ∧ caps = []
  | .class test, _, w, _, caps => ∃ x, test x = true ∧ w = [x] ∧ caps = []
  | seq p q, a, w, b, caps => ∃ w₁ w₂ caps₁ caps₂, w = w₁ ++ w₂ ∧ caps = caps₁ ++ caps₂ ∧
      p.Takes a w₁ (w₂ ++ b) caps₁ ∧ q.Takes (a ++ w₁) w₂ b caps₂
  | either p q, a, w, b, caps => p.Takes a w b caps ∨ q.Takes a w b caps
  | maybe p, a, w, b, caps => p.Takes a w b caps ∨ w = [] ∧ caps = []
  | run test least most, _, w, _, caps =>
    (∀ x ∈ w, test x = true) ∧ Within least most w.length ∧ caps = []
  | group label p, a, w, b, caps =>
    ∃ inner, caps = inner ++ [⟨label, a.length, w⟩] ∧ p.Takes a w b inner
  | start, a, w, _, caps => a = [] ∧ w = [] ∧ caps = []
  | finish, _, w, b, caps => b = [] ∧ w = [] ∧ caps = []
  | wordEdge, a, w, b, caps => (Cursor.between a b).atWordEdge = true ∧ w = [] ∧ caps = []

/-- The runs at the front of a text that a repetition can take, longest first. -/
def runReadings (test : Char → Bool) (least : Nat) (most : Option Nat) :
    List Char → List (List Char)
  | [] => if least = 0 then [[]] else []
  | x :: rest =>
    (if most != some 0 && test x then
      (runReadings test (least - 1) (most.map (· - 1)) rest).map (x :: ·)
    else []) ++ (if least = 0 then [[]] else [])

/-- The texts that a pattern can take at a place, with their captures, in the order of
preference. -/
def readings : Pattern Label → (passed rest : List Char) →
    List (List Char × List (Capture Label))
  | empty, _, _ => [([], [])]
  | .class test, _, rest => (rest.head?.filter test).toList.map fun x => ([x], [])
  | seq p q, passed, rest =>
    (p.readings passed rest).flatMap fun r =>
      (q.readings (passed ++ r.1) (rest.drop r.1.length)).map fun r' =>
        (r.1 ++ r'.1, r.2 ++ r'.2)
  | either p q, passed, rest => p.readings passed rest ++ q.readings passed rest
  | maybe p, passed, rest => p.readings passed rest ++ [([], [])]
  | run test least most, _, rest => (runReadings test least most rest).map fun w => (w, [])
  | group label p, passed, rest =>
    (p.readings passed rest).map fun r => (r.1, r.2 ++ [⟨label, passed.length, r.1⟩])
  | start, passed, _ => if passed = [] then [([], [])] else []
  | finish, _, rest => if rest = [] then [([], [])] else []
  | wordEdge, passed, rest =>
    if (Cursor.between passed rest).atWordEdge then [([], [])] else []

section Membership

variable {p : Pattern Label} {a b rest w : List Char} {caps : List (Capture Label)}

theorem within_succ {least : Nat} {most : Option Nat} {n : Nat} :
    Within least most (n + 1) ↔ most ≠ some 0 ∧ Within (least - 1) (most.map (· - 1)) n := by
  cases most with
  | none => simp [Within]
  | some m =>
    simp only [Within, Option.map_some, Option.mem_some_iff, forall_eq', ne_eq, Option.some.injEq]
    omega

theorem mem_runReadings_iff {test : Char → Bool} {least : Nat} {most : Option Nat} :
    w ∈ runReadings test least most rest ↔
      w <+: rest ∧ (∀ x ∈ w, test x = true) ∧ Within least most w.length := by
  -- A run that takes a first character leaves one less to be taken under either bound.
  induction rest generalizing least most w with
  | nil => cases w <;> simp [runReadings, Within]
  | cons x rest ih =>
    cases w with
    | nil => simp [runReadings, Within]
    | cons y w =>
      have hcons : y :: w ∈ runReadings test least most (x :: rest) ↔
          y = x ∧ test x = true ∧ most ≠ some 0 ∧
            w ∈ runReadings test (least - 1) (most.map (· - 1)) rest := by
        simp only [runReadings, List.mem_append, List.mem_ite_nil_right, List.mem_singleton,
          Bool.and_eq_true, bne_iff_ne, List.mem_map, List.cons.injEq]
        grind
      rw [hcons, ih, List.length_cons, within_succ, List.cons_prefix_cons, List.forall_mem_cons]
      constructor
      · rintro ⟨rfl, hy, hmost, hbegins, hw, hwithin⟩
        exact ⟨⟨rfl, hbegins⟩, ⟨hy, hw⟩, hmost, hwithin⟩
      · rintro ⟨⟨rfl, hbegins⟩, ⟨hy, hw⟩, hmost, hwithin⟩
        exact ⟨rfl, hy, hmost, hbegins, hw, hwithin⟩

theorem exists_nil_append_iff {P : List Char → Prop} :
    (∃ b, rest = w ++ b ∧ P b ∧ w = [] ∧ caps = []) ↔ P rest ∧ w = [] ∧ caps = [] := by
  constructor
  · rintro ⟨b, rfl, hb, rfl, rfl⟩
    exact ⟨hb, rfl, rfl⟩
  · rintro ⟨hrest, rfl, rfl⟩
    exact ⟨rest, rfl, hrest, rfl, rfl⟩

/-- The readings of a pattern are what it takes from the front of the text that is left. -/
theorem mem_readings_iff :
    (w, caps) ∈ p.readings a rest ↔ ∃ b, rest = w ++ b ∧ p.Takes a w b caps := by
  induction p generalizing a rest w caps with
  | empty => simpa [readings, Takes] using (exists_nil_append_iff (P := fun _ => True)).symm
  | «class» test =>
    simp only [readings, Takes, List.mem_map, Option.mem_toList, Option.filter_eq_some_iff,
      Prod.mk.injEq]
    constructor
    · rintro ⟨x, ⟨hx, htest⟩, rfl, rfl⟩
      obtain ⟨b, rfl⟩ := List.head?_eq_some_iff.1 hx
      exact ⟨b, rfl, x, htest, rfl, rfl⟩
    · rintro ⟨b, rfl, x, htest, rfl, rfl⟩
      exact ⟨x, ⟨rfl, htest⟩, rfl, rfl⟩
  | seq p q ihp ihq =>
    simp only [readings, Takes, List.mem_flatMap, List.mem_map, Prod.exists, Prod.mk.injEq, ihp,
      ihq]
    constructor
    · rintro ⟨w₁, caps₁, ⟨b₁, rfl, hp⟩, w₂, caps₂, ⟨b, hb, hq⟩, rfl, rfl⟩
      rw [List.drop_left] at hb
      subst hb
      exact ⟨b, (List.append_assoc ..).symm, w₁, w₂, caps₁, caps₂, rfl, rfl, hp, hq⟩
    · rintro ⟨b, rfl, w₁, w₂, caps₁, caps₂, rfl, rfl, hp, hq⟩
      refine ⟨w₁, caps₁, ⟨w₂ ++ b, List.append_assoc .., hp⟩, w₂, caps₂, ⟨b, ?_, hq⟩, rfl, rfl⟩
      rw [List.append_assoc, List.drop_left]
  | either p q ihp ihq =>
    simp only [readings, Takes, List.mem_append, ihp, ihq, and_or_left, exists_or]
  | maybe p ih =>
    have hnothing := @exists_nil_append_iff Label rest w caps fun _ => True
    simp only [true_and] at hnothing
    simp only [readings, Takes, List.mem_append, ih, and_or_left, exists_or, hnothing,
      List.mem_singleton, Prod.mk.injEq]
  | run test least most =>
    simp only [readings, Takes, List.mem_map, Prod.mk.injEq, mem_runReadings_iff]
    constructor
    · rintro ⟨w, ⟨⟨b, rfl⟩, hall, hwithin⟩, rfl, rfl⟩
      exact ⟨b, rfl, hall, hwithin, rfl⟩
    · rintro ⟨b, rfl, hall, hwithin, rfl⟩
      exact ⟨w, ⟨List.prefix_append .., hall, hwithin⟩, rfl, rfl⟩
  | group label p ih =>
    simp only [readings, Takes, List.mem_map, Prod.exists, Prod.mk.injEq, ih]
    constructor
    · rintro ⟨w, inner, ⟨b, rfl, htakes⟩, rfl, rfl⟩
      exact ⟨b, rfl, inner, rfl, htakes⟩
    · rintro ⟨b, rfl, inner, rfl, htakes⟩
      exact ⟨w, inner, ⟨b, rfl, htakes⟩, rfl, rfl⟩
  | start =>
    simp only [readings, Takes, List.mem_ite_nil_right, List.mem_singleton, Prod.mk.injEq]
    exact (exists_nil_append_iff (P := fun _ => a = [])).symm
  | finish =>
    simp only [readings, Takes, List.mem_ite_nil_right, List.mem_singleton, Prod.mk.injEq]
    exact (exists_nil_append_iff (P := fun b => b = [])).symm
  | wordEdge =>
    simp only [readings, Takes, List.mem_ite_nil_right, List.mem_singleton, Prod.mk.injEq]
    exact (exists_nil_append_iff (P := fun b => (Cursor.between a b).atWordEdge = true)).symm

theorem prefix_of_mem_readings (h : (w, caps) ∈ p.readings a rest) : w <+: rest := by
  obtain ⟨b, rfl, -⟩ := mem_readings_iff.1 h
  exact List.prefix_append ..

end Membership

section Matching

variable {p : Pattern Label} {a rest : List Char} {caps : List (Capture Label)} {β : Type}

theorem findSome?_flatMap {α γ : Type} {f : α → List β} {k : β → Option γ} {l : List α} :
    (l.flatMap f).findSome? k = l.findSome? fun x => (f x).findSome? k := by
  induction l with
  | nil => rfl
  | cons x l ih =>
    rw [List.flatMap_cons, List.findSome?_append, ih, List.findSome?_cons]
    cases (f x).findSome? k <;> rfl

theorem findSome?_congr {α : Type} {k k' : α → Option β} {l : List α}
    (h : ∀ x ∈ l, k x = k' x) : l.findSome? k = l.findSome? k' := by
  induction l with
  | nil => rfl
  | cons x l ih =>
    rw [List.findSome?_cons, List.findSome?_cons, h x List.mem_cons_self,
      ih fun y hy => h y (List.mem_cons_of_mem x hy)]

/-- The place behind a text that has been taken. -/
def placeAfter (a w rest : List Char) : Cursor := .between (a ++ w) (rest.drop w.length)

theorem matchRun_eq {test : Char → Bool} {least : Nat} {most : Option Nat} {k : Cursor → Option β} :
    matchRun test least most a.getLast? a.length k rest =
      (runReadings test least most rest).findSome? fun w => k (placeAfter a w rest) := by
  induction rest generalizing a least most with
  | nil =>
    rw [matchRun, runReadings]
    split <;> simp [placeAfter, Cursor.between]
  | cons x rest ih =>
    have hnext := @ih (a ++ [x]) (least - 1) (most.map (· - 1))
    rw [List.getLast?_concat, List.length_append, List.length_singleton] at hnext
    rw [matchRun, runReadings, List.findSome?_append, hnext]
    congr 1
    · split
      · simp [List.findSome?_map, Function.comp_def, placeAfter]
      · rfl
    · split <;> simp [placeAfter, Cursor.between]

/-- Matching goes on from the first reading from which it can. -/
theorem matchThen_eq {k : Cursor → List (Capture Label) → Option β} :
    p.matchThen (.between a rest) caps k =
      (p.readings a rest).findSome? fun r => k (placeAfter a r.1 rest) (r.2.reverse ++ caps) := by
  induction p generalizing a rest caps k with
  | empty => simp [matchThen, readings, placeAfter]
  | «class» test =>
    cases rest with
    | nil => simp [matchThen, readings, Cursor.next?, Cursor.between]
    | cons x rest =>
      simp only [matchThen, readings, Cursor.next?, Cursor.between, List.head?_cons,
        Option.filter_some]
      split <;> simp [placeAfter, Cursor.between]
  | seq p q ihp ihq =>
    simp only [matchThen, readings, ihp, placeAfter, ihq, findSome?_flatMap, List.findSome?_map,
      Function.comp_def, List.append_assoc, List.drop_drop, List.length_append,
      List.reverse_append]
  | either p q ihp ihq => simp only [matchThen, readings, List.findSome?_append, ihp, ihq]
  | maybe p ih =>
    simp only [matchThen, readings, List.findSome?_append, ih]
    simp [placeAfter]
  | run test least most =>
    rw [matchThen, readings, List.findSome?_map]
    exact matchRun_eq
  | group label p ih =>
    simp only [matchThen, readings, ih, List.findSome?_map]
    refine findSome?_congr fun r hr => ?_
    have htake : rest.take r.1.length = r.1 :=
      List.prefix_iff_eq_take.1 (prefix_of_mem_readings hr) |>.symm
    simp [placeAfter, Cursor.between, htake]
  | start =>
    simp only [matchThen, readings, Cursor.between, List.length_eq_zero_iff]
    split <;> simp_all [placeAfter, Cursor.between]
  | finish =>
    simp only [matchThen, readings, Cursor.between, List.isEmpty_iff]
    split <;> simp_all [placeAfter, Cursor.between]
  | wordEdge =>
    simp only [matchThen, readings]
    split <;> simp_all [placeAfter]

/-- The match at a place is the first reading there. -/
theorem matchAt?_eq : p.matchAt? (.between a rest) =
    (p.readings a rest).head?.map fun r => ⟨a.length, (a ++ r.1).length, r.2⟩ := by
  rw [matchAt?, matchThen_eq]
  cases p.readings a rest <;> simp [placeAfter, Cursor.between]

theorem matchAt?_eq_some_iff {m : PatternMatch Label} : p.matchAt? (.between a rest) = some m ↔
    ∃ w caps, (p.readings a rest).head? = some (w, caps) ∧
      m = ⟨a.length, (a ++ w).length, caps⟩ := by
  simp only [matchAt?_eq, Option.map_eq_some_iff, Prod.exists]
  grind

end Matching

section Labels

variable {p : Pattern Label} {a w b : List Char} {caps : List (Capture Label)}

/-- The labels of the groups in a pattern. -/
def labels : Pattern Label → List Label
  | empty | .class _ | run _ _ _ | start | finish | wordEdge => []
  | seq p q | either p q => p.labels ++ q.labels
  | maybe p => p.labels
  | group label p => p.labels ++ [label]

/-- What a pattern captures has one of its labels. -/
theorem Takes.label_mem (h : p.Takes a w b caps) : ∀ c ∈ caps, c.label ∈ p.labels := by
  induction p generalizing a w b caps with
  | empty =>
    obtain ⟨-, rfl⟩ := h
    exact nofun
  | «class» test =>
    obtain ⟨x, -, -, rfl⟩ := h
    exact nofun
  | seq p q ihp ihq =>
    obtain ⟨w₁, w₂, caps₁, caps₂, -, rfl, hp, hq⟩ := h
    intro c hc
    exact List.mem_append.2 ((List.mem_append.1 hc).imp (ihp hp c) (ihq hq c))
  | either p q ihp ihq =>
    intro c hc
    exact List.mem_append.2 (h.imp (ihp · c hc) (ihq · c hc))
  | maybe p ih =>
    rcases h with h | ⟨-, rfl⟩
    · exact ih h
    · exact nofun
  | run test least most =>
    obtain ⟨-, -, rfl⟩ := h
    exact nofun
  | group label p ih =>
    obtain ⟨inner, rfl, h⟩ := h
    intro c hc
    refine List.mem_append.2 ((List.mem_append.1 hc).imp (ih h c) fun hlast => ?_)
    obtain rfl := List.mem_singleton.1 hlast
    exact List.mem_singleton_self _
  | start | finish | wordEdge =>
    obtain ⟨-, -, rfl⟩ := h
    exact nofun

end Labels

section Blocks

variable {a w b : List Char} {caps : List (Capture Label)}

@[simp] theorem chain_singleton (p : Pattern Label) : chain [p] = p := rfl

@[simp] theorem chain_cons_cons (p q : Pattern Label) (ps : List (Pattern Label)) :
    chain (p :: q :: ps) = seq p (chain (q :: ps)) := rfl

theorem takes_seq_iff {p q : Pattern Label} : (seq p q).Takes a w b caps ↔
    ∃ w₁ w₂ caps₁ caps₂, w = w₁ ++ w₂ ∧ caps = caps₁ ++ caps₂ ∧
      p.Takes a w₁ (w₂ ++ b) caps₁ ∧ q.Takes (a ++ w₁) w₂ b caps₂ := Iff.rfl

theorem takes_maybe_iff {p : Pattern Label} :
    (maybe p).Takes a w b caps ↔ p.Takes a w b caps ∨ w = [] ∧ caps = [] := Iff.rfl

theorem takes_run_iff {test : Char → Bool} {least : Nat} {most : Option Nat} :
    (run test least most : Pattern Label).Takes a w b caps ↔
      (∀ x ∈ w, test x = true) ∧ Within least most w.length ∧ caps = [] := Iff.rfl

theorem takes_group_iff {label : Label} {p : Pattern Label} :
    (group label p).Takes a w b caps ↔
      ∃ inner, caps = inner ++ [⟨label, a.length, w⟩] ∧ p.Takes a w b inner := Iff.rfl

theorem takes_letters_iff {s : List Char} :
    (letters s : Pattern Label).Takes a w b caps ↔ w = s ∧ caps = [] := by
  induction s generalizing a w caps with
  | nil => rfl
  | cons x s ih =>
    cases s with
    | nil => simp [letters, Takes]
    | cons y s =>
      simp only [letters, Takes, ih, beq_iff_eq]
      constructor
      · rintro ⟨w₁, w₂, caps₁, caps₂, rfl, rfl, ⟨z, rfl, rfl, rfl⟩, rfl, rfl⟩
        exact ⟨rfl, rfl⟩
      · rintro ⟨rfl, rfl⟩
        exact ⟨[x], y :: s, [], [], rfl, rfl, ⟨x, rfl, rfl, rfl⟩, rfl, rfl⟩

theorem takes_text_iff {s : String} :
    (text s : Pattern Label).Takes a w b caps ↔ w = s.toList ∧ caps = [] :=
  takes_letters_iff

theorem takes_oneOf_iff {ps : List (Pattern Label)} :
    (oneOf ps).Takes a w b caps ↔ ∃ p ∈ ps, p.Takes a w b caps := by
  induction ps with
  | nil => simp [oneOf, Takes]
  | cons p ps ih =>
    cases ps with
    | nil => simp [oneOf]
    | cons q ps =>
      simp only [oneOf, Takes, ih, List.mem_cons, exists_eq_or_imp]

theorem takes_anyText_iff {words : List String} :
    (anyText words : Pattern Label).Takes a w b caps ↔
      (∃ t ∈ words, w = t.toList) ∧ caps = [] := by
  rw [anyText, takes_oneOf_iff]
  constructor
  · rintro ⟨q, hq, htakes⟩
    obtain ⟨t, ht, rfl⟩ := List.mem_map.1 hq
    obtain ⟨rfl, rfl⟩ := takes_text_iff.1 htakes
    exact ⟨⟨t, ht, rfl⟩, rfl⟩
  · rintro ⟨⟨t, ht, rfl⟩, rfl⟩
    exact ⟨text t, List.mem_map_of_mem ht, takes_text_iff.2 ⟨rfl, rfl⟩⟩

end Blocks

end Pattern

end CivicReport
