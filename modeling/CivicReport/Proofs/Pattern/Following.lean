import CivicReport.Proofs.Pattern.Search
import Mathlib.Data.List.Basic
import Mathlib.Data.List.Forall2

/-!
Matching in a text with something behind it. A pattern that never asks for the end of the text can
take the same parts of it whatever follows, and then some that reach beyond. Main statements: where
nothing that reaches beyond can be completed, a pattern matches at the same places with like
captures, and so does a search.
-/
namespace CivicReport.Pattern

variable {Label : Type} {p k : Pattern Label} {a r t : List Char}

/-- The pattern never asks whether the text ends. -/
def openEnded : Pattern Label → Bool
  | finish => false
  | seq p q => p.openEnded && q.openEnded
  | either p q => p.openEnded && q.openEnded
  | maybe p => p.openEnded
  | group _ p => p.openEnded
  | _ => true

section Readings

theorem flatMap_filter {α β : Type} {l : List α} {f : α → List β} (test : α → Bool)
    (h : ∀ x ∈ l, test x = false → f x = []) : (l.filter test).flatMap f = l.flatMap f := by
  induction l with
  | nil => rfl
  | cons x l ih =>
    rw [List.filter_cons, List.flatMap_cons, ← ih fun y hy => h y (List.mem_cons_of_mem x hy)]
    split
    · rw [List.flatMap_cons]
    · next hx => rw [h x List.mem_cons_self (by simpa using hx), List.nil_append]

theorem runReadings_append {test : Char → Bool} {least : Nat} {most : Option Nat} :
    (runReadings test least most (r ++ t)).filter (·.length ≤ r.length) =
      runReadings test least most r := by
  induction r generalizing least most with
  | nil =>
    -- Behind the text only the run of no characters is left.
    have hnothing : ∀ l : List (List Char), (l.filter (·.length ≤ 0)) = l.filter (· == []) := by
      intro l
      congr 1
      funext w
      cases w <;> rfl
    rw [List.nil_append, List.length_nil, hnothing]
    cases t with
    | nil => rw [runReadings]; split <;> rfl
    | cons x t =>
      rw [runReadings, runReadings, List.filter_append]
      split <;> split <;> simp [List.filter_map, Function.comp_def]
  | cons x r ih =>
    rw [List.cons_append, runReadings, runReadings, List.filter_append]
    congr 1
    · split
      · rw [List.filter_map, ← ih]
        simp [Function.comp_def]
      · rfl
    · split <;> simp

/-- Of the readings of an open-ended pattern, those that do not reach beyond a text are the ones
that it has without what follows. -/
theorem readings_append (hp : p.openEnded = true) (ht : ∀ c ∈ t.head?, Text.isWordChar c = false) :
    (p.readings a (r ++ t)).filter (·.1.length ≤ r.length) = p.readings a r := by
  induction p generalizing a r with
  | empty => simp [readings]
  | «class» test =>
    cases r with
    | nil =>
      cases t with
      | nil => rfl
      | cons x t => cases hx : test x <;> simp [readings, Option.filter_some, hx]
    | cons x r => cases hx : test x <;> simp [readings, Option.filter_some, hx]
  | seq p q ihp ihq =>
    rw [openEnded, Bool.and_eq_true] at hp
    rw [readings, readings, List.filter_flatMap,
      ← flatMap_filter fun o => decide (o.1.length ≤ r.length), ihp hp.1]
    · refine List.flatMap_congr fun o ho => ?_
      have hle : o.1.length ≤ r.length := (prefix_of_mem_readings ho).length_le
      rw [List.drop_append_of_le_length hle, List.filter_map, ← ihq hp.2 (r := r.drop o.1.length)]
      congr 1
      refine List.filter_congr fun o' _ => ?_
      simp only [Function.comp_apply, List.length_append, List.length_drop, decide_eq_decide]
      omega
    · intro o _ hfar
      rw [List.filter_eq_nil_iff]
      simp only [decide_eq_false_iff_not] at hfar
      simp only [List.mem_map, forall_exists_index, and_imp, forall_apply_eq_imp_iff₂,
        List.length_append, decide_eq_true_eq]
      omega
  | either p q ihp ihq =>
    rw [openEnded, Bool.and_eq_true] at hp
    rw [readings, readings, List.filter_append, ihp hp.1, ihq hp.2]
  | maybe p ih =>
    rw [readings, readings, List.filter_append, ih hp]
    rfl
  | run test least most =>
    rw [readings, readings, List.filter_map]
    exact congrArg _ runReadings_append
  | group label p ih =>
    rw [readings, readings, List.filter_map]
    exact congrArg _ (ih hp)
  | start => rw [readings, readings]; split <;> simp
  | finish => contradiction
  | wordEdge =>
    have hedge : (Cursor.between a (r ++ t)).atWordEdge = (Cursor.between a r).atWordEdge := by
      cases r with
      | nil =>
        cases t with
        | nil => rfl
        | cons x t =>
          have hx := ht x rfl
          simp [Cursor.atWordEdge, Cursor.between, hx]
      | cons x r => rfl
    rw [readings, readings, hedge]
    split <;> simp

end Readings

section FirstReading

variable {C : Capture Label → Capture Label → Prop} {test : Char → Bool}

/-- A reading with something behind the text is like one without: the captures are alike, and it
takes the same, or both take all that is left. -/
def Follows (C : Capture Label → Capture Label → Prop) (r : List Char)
    (o' o : List Char × List (Capture Label)) : Prop :=
  List.Forall₂ C o'.2 o.2 ∧ (o'.1 = o.1 ∨ o.1 = r ∧ r.length ≤ o'.1.length)

/-- The first reading is like the one without what follows. -/
def AlikeBefore (C : Capture Label → Capture Label → Prop) (t : List Char) (p : Pattern Label)
    (a r : List Char) : Prop :=
  Option.Rel (Follows C r) (p.readings a (r ++ t)).head? (p.readings a r).head?

/-- Whatever the pattern takes has a character of a class. -/
def Needs (test : Char → Bool) (p : Pattern Label) : Prop :=
  ∀ a w b caps, p.Takes a w b caps → ∃ x ∈ w, test x = true

theorem rel_findSome? {α β γ : Type} {R : β → γ → Prop} {l : List α} {f : α → Option β}
    {g : α → Option γ} (h : ∀ x ∈ l, Option.Rel R (f x) (g x)) :
    Option.Rel R (l.findSome? f) (l.findSome? g) := by
  induction l with
  | nil => exact .none
  | cons x l ih =>
    have hx := h x List.mem_cons_self
    rw [List.findSome?_cons, List.findSome?_cons]
    generalize f x = fx at hx
    generalize g x = gx at hx
    cases hx with
    | none => exact ih fun y hy => h y (List.mem_cons_of_mem x hy)
    | some hR => exact .some hR

theorem rel_map {α β γ δ : Type} {R : α → β → Prop} {S : γ → δ → Prop} {x : Option α} {y : Option β}
    {f : α → γ} {g : β → δ} (h : Option.Rel R x y) (hfg : ∀ b c, R b c → S (f b) (g c)) :
    Option.Rel S (x.map f) (y.map g) := by
  cases h with
  | none => exact .none
  | some h => exact .some (hfg _ _ h)

theorem cases_of_rel {α β : Type} {R : α → β → Prop} {x : Option α} {y : Option β}
    (h : Option.Rel R x y) : (x = none ∧ y = none) ∨ ∃ b c, x = some b ∧ y = some c ∧ R b c := by
  cases h with
  | none => exact .inl ⟨rfl, rfl⟩
  | some h => exact .inr ⟨_, _, rfl, rfl, h⟩

theorem Needs.seq (hk : Needs test k) : Needs test (.seq p k) := by
  rintro a w b caps ⟨w₁, w₂, caps₁, caps₂, rfl, rfl, -, h₂⟩
  obtain ⟨x, hx, htest⟩ := hk _ _ _ _ h₂
  exact ⟨x, List.mem_append_right w₁ hx, htest⟩

theorem Needs.readings_eq_nil (hk : Needs test k) (hr : ∀ x ∈ r, test x = false) :
    k.readings a r = [] := by
  rw [List.eq_nil_iff_forall_not_mem]
  rintro ⟨w, caps⟩ ho
  obtain ⟨b, rfl, htakes⟩ := mem_readings_iff.1 ho
  obtain ⟨x, hx, htest⟩ := hk _ _ _ _ htakes
  rw [hr x (List.mem_append_left b hx)] at htest
  contradiction

/-- After an open-ended pattern the first readings are alike if those of the next pattern are, and
none reaches what follows. -/
theorem AlikeBefore.seq (hp : p.openEnded = true) (ht : ∀ c ∈ t.head?, Text.isWordChar c = false)
    (hC : ∀ c, C c c)
    (hbeyond : ∀ o ∈ p.readings a (r ++ t), r.length < o.1.length →
      k.readings (a ++ o.1) ((r ++ t).drop o.1.length) = [])
    (hk : ∀ o ∈ p.readings a r, AlikeBefore C t k (a ++ o.1) (r.drop o.1.length)) :
    AlikeBefore C t (seq p k) a r := by
  rw [AlikeBefore, readings, readings,
    ← flatMap_filter fun o => decide (o.1.length ≤ r.length), readings_append hp ht,
    List.head?_flatMap, List.head?_flatMap]
  · refine rel_findSome? fun o ho => ?_
    have hbegins : o.1 <+: r := prefix_of_mem_readings ho
    rw [List.drop_append_of_le_length hbegins.length_le, List.head?_map, List.head?_map]
    refine rel_map (hk o ho) fun o' o'' h => ⟨?_, ?_⟩
    · exact List.rel_append (List.forall₂_same.2 fun c _ => hC c) h.1
    · rcases h.2 with heq | ⟨hall, hle⟩
      · exact .inl (congrArg (o.1 ++ ·) heq)
      · rw [List.length_drop] at hle
        refine .inr ⟨?_, ?_⟩
        · rw [hall, List.prefix_iff_eq_append.1 hbegins]
        · rw [List.length_append]
          omega
  · intro o ho hfar
    simp only [decide_eq_false_iff_not, Nat.not_le] at hfar
    rw [hbeyond o ho hfar, List.map_nil]

theorem chain_cons {ps : List (Pattern Label)} (h : ps ≠ []) :
    chain (p :: ps) = seq p (chain ps) := by
  obtain ⟨q, qs, rfl⟩ := List.exists_cons_of_ne_nil h
  rfl

theorem Needs.chain {ps : List (Pattern Label)} (hk : Needs test k) :
    Needs test (chain (ps ++ [k])) := by
  induction ps with
  | nil => exact hk
  | cons p ps ih =>
    rw [List.cons_append, chain_cons (by simp)]
    exact ih.seq

/-- After open-ended patterns, a pattern that needs a character which does not follow. -/
theorem AlikeBefore.chain {ps : List (Pattern Label)} (hps : ∀ p ∈ ps, p.openEnded = true)
    (ht : ∀ c ∈ t.head?, Text.isWordChar c = false) (hC : ∀ c, C c c) (hneeds : Needs test k)
    (htest : ∀ c ∈ t, test c = false) (hk : ∀ a r, AlikeBefore C t k a r) :
    AlikeBefore C t (chain (ps ++ [k])) a r := by
  induction ps generalizing a r with
  | nil => exact hk a r
  | cons p ps ih =>
    rw [List.cons_append, chain_cons (by simp)]
    refine AlikeBefore.seq (hps p List.mem_cons_self) ht hC (fun o _ hfar => ?_)
      fun o _ => ih fun q hq => hps q (List.mem_cons_of_mem p hq)
    refine hneeds.chain.readings_eq_nil fun c hc => htest c ?_
    rw [List.drop_append, List.drop_eq_nil_of_le (Nat.le_of_lt hfar), List.nil_append] at hc
    exact List.mem_of_mem_drop hc

/-- Whatever the pattern takes ends in a character of a class. -/
def EndsIn (test : Char → Bool) (p : Pattern Label) : Prop :=
  ∀ a w b caps, p.Takes a w b caps → ∃ x ∈ w.getLast?, test x = true

theorem EndsIn.needs (hp : EndsIn test p) : Needs test p := by
  intro a w b caps htakes
  obtain ⟨x, hx, htest⟩ := hp a w b caps htakes
  exact ⟨x, List.mem_of_getLast? hx, htest⟩

theorem EndsIn.seq (hk : EndsIn test k) : EndsIn test (.seq p k) := by
  rintro a w b caps ⟨w₁, w₂, caps₁, caps₂, rfl, rfl, -, h₂⟩
  obtain ⟨x, hx, htest⟩ := hk _ _ _ _ h₂
  exact ⟨x, by rw [List.getLast?_append, hx]; rfl, htest⟩

theorem Needs.seq_left (hp : Needs test p) : Needs test (.seq p k) := by
  rintro a w b caps ⟨w₁, w₂, caps₁, caps₂, rfl, rfl, h₁, -⟩
  obtain ⟨x, hx, htest⟩ := hp _ _ _ _ h₁
  exact ⟨x, List.mem_append_left w₂ hx, htest⟩

theorem Needs.group {label : Label} (hp : Needs test p) : Needs test (.group label p) := by
  rintro a w b caps ⟨inner, rfl, htakes⟩
  exact hp _ _ _ _ htakes

theorem EndsIn.group {label : Label} (hp : EndsIn test p) : EndsIn test (.group label p) := by
  rintro a w b caps ⟨inner, rfl, htakes⟩
  exact hp _ _ _ _ htakes

/-- What ends in a character that does not follow a text lies within it. -/
theorem exists_of_append_eq {w b : List Char} (h : r ++ t = w ++ b)
    (hw : ∃ x ∈ w.getLast?, test x = true) (htest : ∀ c ∈ t, test c = false) :
    ∃ b', r = w ++ b' ∧ b = b' ++ t := by
  obtain ⟨x, hx, hlast⟩ := hw
  rcases List.append_eq_append_iff.1 h with ⟨more, rfl, rfl⟩ | ⟨b', rfl, rfl⟩
  · rcases List.eq_nil_or_concat' more with rfl | ⟨more, y, rfl⟩
    · exact ⟨[], by simp, rfl⟩
    · -- A last character beyond the text would be one of what follows.
      rw [← List.append_assoc, List.getLast?_concat] at hx
      obtain rfl := Option.some.inj hx
      rw [htest y (by simp)] at hlast
      contradiction
  · exact ⟨b', rfl, rfl⟩

theorem EndsIn.length_le (hp : EndsIn test p) (htest : ∀ c ∈ t, test c = false)
    {o : List Char × List (Capture Label)} (ho : o ∈ p.readings a (r ++ t)) :
    o.1.length ≤ r.length := by
  obtain ⟨b, hb, htakes⟩ := mem_readings_iff.1 ho
  obtain ⟨b', rfl, -⟩ := exists_of_append_eq hb (hp _ _ _ _ htakes) htest
  rw [List.length_append]
  exact Nat.le_add_right ..

/-- What ends in a character that does not follow is taken the same whatever follows. -/
theorem EndsIn.readings_eq (hp : EndsIn test p) (hopen : p.openEnded = true)
    (ht : ∀ c ∈ t.head?, Text.isWordChar c = false) (htest : ∀ c ∈ t, test c = false) :
    p.readings a (r ++ t) = p.readings a r := by
  rw [← readings_append hopen ht (r := r), List.filter_eq_self.2]
  exact fun o ho => decide_eq_true (hp.length_le htest ho)

/-- After an open-ended pattern that ends in a character which does not follow. -/
theorem AlikeBefore.seq_of_endsIn (hp : EndsIn test p) (hopen : p.openEnded = true)
    (ht : ∀ c ∈ t.head?, Text.isWordChar c = false) (htest : ∀ c ∈ t, test c = false)
    (hC : ∀ c, C c c) (hk : ∀ a r, AlikeBefore C t k a r) : AlikeBefore C t (.seq p k) a r :=
  AlikeBefore.seq hopen ht hC (fun _ ho hfar => absurd hfar (Nat.not_lt.2 (hp.length_le htest ho)))
    fun o _ => hk (a ++ o.1) (r.drop o.1.length)

theorem AlikeBefore.of_readings_eq (hC : ∀ c, C c c)
    (h : p.readings a (r ++ t) = p.readings a r) : AlikeBefore C t p a r := by
  rw [AlikeBefore, h]
  cases (p.readings a r).head? with
  | none => exact .none
  | some o => exact .some ⟨List.forall₂_same.2 fun c _ => hC c, .inl rfl⟩

theorem head?_runReadings : (runReadings test 0 none r).head? = some (r.takeWhile test) := by
  induction r with
  | nil => rfl
  | cons x r ih =>
    rw [runReadings, List.takeWhile_cons]
    cases hx : test x with
    | false => simp
    | true =>
      rw [List.head?_append, if_pos (by simp), List.head?_map]
      rw [show (none : Option Nat).map (· - 1) = none from rfl, ih]
      rfl

theorem AlikeBefore.run : AlikeBefore C t (.run test 0 none) a r := by
  rw [AlikeBefore, readings, readings, List.head?_map, List.head?_map, head?_runReadings,
    head?_runReadings, List.takeWhile_append]
  refine .some ⟨.nil, ?_⟩
  split
  · next hall =>
    refine .inr ⟨(List.takeWhile_prefix test).eq_of_length hall, ?_⟩
    rw [List.length_append]
    omega
  · exact .inl rfl

theorem AlikeBefore.group {label : Label} (h : AlikeBefore C t p a r)
    (hcapture : ∀ o' ∈ p.readings a (r ++ t), ∀ o ∈ p.readings a r,
      (o'.1 = o.1 ∨ o.1 = r ∧ r.length ≤ o'.1.length) →
        C ⟨label, a.length, o'.1⟩ ⟨label, a.length, o.1⟩) :
    AlikeBefore C t (.group label p) a r := by
  rw [AlikeBefore, readings, readings, List.head?_map, List.head?_map]
  rcases cases_of_rel h with ⟨h₁, h₂⟩ | ⟨o', o, h₁, h₂, hcaps, htext⟩
  · rw [h₁, h₂]
    exact .none
  · rw [h₁, h₂]
    refine .some ⟨List.rel_append hcaps (.cons ?_ .nil), htext⟩
    exact hcapture o' (List.mem_of_head? h₁) o (List.mem_of_head? h₂) htext

/-- The first reading with an optional part behind goes on from the first reading. -/
theorem head?_readings_seq_maybe : (readings (.seq p (.maybe k)) a r).head? =
    (p.readings a r).head?.map fun o =>
      let m := ((k.readings (a ++ o.1) (r.drop o.1.length)).head?).getD ([], [])
      (o.1 ++ m.1, o.2 ++ m.2) := by
  rw [readings]
  cases p.readings a r with
  | nil => rfl
  | cons o os =>
    rw [List.flatMap_cons, List.head?_append, List.head?_map, readings, List.head?_append,
      List.head?_cons, List.head?_cons, Option.map_some]
    dsimp only
    cases (k.readings (a ++ o.1) (r.drop o.1.length)).head? <;> rfl

/-- An optional part that cannot begin with what follows. -/
theorem AlikeBefore.seq_maybe (hp : AlikeBefore C t p a r) (hk : ∀ a r, AlikeBefore C t k a r)
    (hneeds : Needs test k) (htest : ∀ c ∈ t, test c = false) :
    AlikeBefore C t (.seq p (.maybe k)) a r := by
  rw [AlikeBefore, head?_readings_seq_maybe, head?_readings_seq_maybe]
  rcases cases_of_rel hp with ⟨h₁, h₂⟩ | ⟨o', o, h₁, h₂, hcaps, htext⟩
  · rw [h₁, h₂]
    exact .none
  · have hbegins : o.1 <+: r := prefix_of_mem_readings (List.mem_of_head? h₂)
    rw [h₁, h₂]
    refine .some ?_
    rcases htext with heq | ⟨hall, hle⟩
    · dsimp only
      rw [heq, List.drop_append_of_le_length hbegins.length_le]
      rcases cases_of_rel (hk (a ++ o.1) (r.drop o.1.length)) with
        ⟨h₁, h₂⟩ | ⟨m', m, h₁, h₂, hcaps', htext'⟩
      · rw [h₁, h₂]
        exact ⟨by simpa using hcaps, .inl rfl⟩
      · rw [h₁, h₂]
        refine ⟨List.rel_append hcaps hcaps', ?_⟩
        rcases htext' with heq' | ⟨hall', hle'⟩
        · exact .inl (congrArg (o.1 ++ ·) heq')
        · rw [List.length_drop] at hle'
          refine .inr ⟨?_, ?_⟩
          · exact (congrArg (o.1 ++ ·) hall').trans (List.prefix_iff_eq_append.1 hbegins)
          · rw [Option.getD_some, List.length_append]
            omega
    · -- Both have come to the end, where the optional part cannot begin.
      have hdead : k.readings (a ++ o.1) (r.drop o.1.length) = [] :=
        hneeds.readings_eq_nil (by rw [hall, List.drop_length]; simp)
      have hdead' : k.readings (a ++ o'.1) ((r ++ t).drop o'.1.length) = [] := by
        refine hneeds.readings_eq_nil fun c hc => htest c ?_
        rw [List.drop_append, List.drop_eq_nil_of_le hle, List.nil_append] at hc
        exact List.mem_of_mem_drop hc
      dsimp only
      rw [hdead, hdead']
      exact ⟨by simpa using hcaps, .inr ⟨by simpa using hall, by simpa using hle⟩⟩

end FirstReading

section Search

variable {s : List Char} {free : Nat} {R : PatternMatch Label → PatternMatch Label → Prop}
  {Lost : List Char → PatternMatch Label → Prop}

/-- Matches with something behind a text and without: alike captures at the same start, and the
same stop unless both reach the end of the text. -/
def MatchFollows (C : Capture Label → Capture Label → Prop) (n : Nat)
    (m' m : PatternMatch Label) : Prop :=
  m'.start = m.start ∧ List.Forall₂ C m'.captures m.captures ∧
    (m'.stop = m.stop ∨ n ≤ m.stop ∧ n ≤ m'.stop)

theorem AlikeBefore.rel_matchAt? {C : Capture Label → Capture Label → Prop}
    (h : AlikeBefore C t p a r) :
    Option.Rel (MatchFollows C (a ++ r).length) (p.matchAt? (.between a (r ++ t)))
      (p.matchAt? (.between a r)) := by
  rw [matchAt?_eq, matchAt?_eq]
  refine rel_map h fun o' o h => ⟨rfl, h.1, ?_⟩
  simp only [List.length_append]
  rcases h.2 with heq | ⟨hall, hle⟩
  · exact .inl (by rw [heq])
  · rw [hall]
    exact .inr ⟨Nat.le_refl _, Nat.add_le_add_left hle _⟩

/-- A search finds nothing where nothing matches at any free place. -/
theorem matchesFrom_eq_nil (h : ∀ u v, u ++ v = a ++ r → a.length ≤ u.length → free ≤ u.length →
    p.matchAt? (.between u v) = none) :
    p.matchesFrom free a.getLast? a.length r = [] := by
  induction r generalizing a free with
  | nil =>
    rw [matchesFrom_nil]
    split
    · next hfree => rw [h a [] rfl (Nat.le_refl _) hfree]; rfl
    · rfl
  | cons x r ih =>
    have hnext : p.matchesFrom free (a ++ [x]).getLast? (a ++ [x]).length r = [] := by
      refine ih fun u v huv hle hfree => h u v (by rw [huv, List.append_assoc]; rfl) ?_ hfree
      rw [List.length_append] at hle
      omega
    rw [matchesFrom_cons]
    split
    · exact hnext
    · next hfree =>
      rw [h a (x :: r) rfl (Nat.le_refl _) (Nat.not_lt.1 hfree)]
      exact hnext

theorem matchesFrom_append_eq_nil (hs : a ++ r = s)
    (hnone : ∀ u v, u ++ v = s → a.length ≤ u.length → p.matchAt? (.between u (v ++ t)) = none)
    (hbeyond : ∀ u v, u ++ v = s ++ t → s.length ≤ u.length → p.matchAt? (.between u v) = none) :
    p.matchesFrom free a.getLast? a.length (r ++ t) = [] := by
  refine matchesFrom_eq_nil fun u v huv hle _ => ?_
  rw [← List.append_assoc, hs] at huv
  rcases List.append_eq_append_iff.1 huv with ⟨v', hv', rfl⟩ | ⟨_, rfl, -⟩
  · exact hnone u v' hv'.symm hle
  · exact hbeyond _ v huv (by rw [List.length_append]; omega)

/-- With something behind a text, a search finds what it finds without, if the matches at each
place are alike, but for a last match that is lost and leaves no other. -/
theorem forall₂_matchesFrom (hs : a ++ r = s)
    (hR : ∀ m' m, R m' m → m'.stop = m.stop ∨ s.length ≤ m.stop ∧ s.length ≤ m'.stop)
    (hplace : ∀ u v, u ++ v = s → Option.Rel R (p.matchAt? (.between u (v ++ t)))
        (p.matchAt? (.between u v)) ∨ ∃ m, p.matchAt? (.between u v) = some m ∧ Lost u m)
    (hlost : ∀ u m, Lost u m → s.length ≤ m.stop ∧ ∀ u' v', u' ++ v' = s → u.length ≤ u'.length →
      p.matchAt? (.between u' (v' ++ t)) = none)
    (hend : p.matchAt? (.between s []) = none)
    (hbeyond : ∀ u v, u ++ v = s ++ t → s.length ≤ u.length → p.matchAt? (.between u v) = none) :
    List.Forall₂ R (p.matchesFrom free a.getLast? a.length (r ++ t))
        (p.matchesFrom free a.getLast? a.length r) ∨
      ∃ l u m, Lost u m ∧ p.matchesFrom free a.getLast? a.length r = l ++ [m] ∧
        List.Forall₂ R (p.matchesFrom free a.getLast? a.length (r ++ t)) l := by
  -- From the end of the text on, neither search finds anything.
  have hdone {a r : List Char} {free : Nat} (hs : a ++ r = s) (hfree : s.length ≤ free) :
      p.matchesFrom free a.getLast? a.length r = [] := by
    refine matchesFrom_eq_nil fun u v huv _ hle => ?_
    rw [hs] at huv
    have hlength := congrArg List.length huv
    rw [List.length_append] at hlength
    obtain rfl : v = [] := List.length_eq_zero_iff.1 (by omega)
    rw [List.append_nil] at huv
    rw [huv]
    exact hend
  have hdone' {a r : List Char} {free : Nat} (hs : a ++ r = s) (hfree : s.length ≤ free) :
      p.matchesFrom free a.getLast? a.length (r ++ t) = [] := by
    refine matchesFrom_eq_nil fun u v huv _ hle => hbeyond u v ?_ (Nat.le_trans hfree hle)
    rw [huv, ← List.append_assoc, hs]
  induction r generalizing a free with
  | nil =>
    rw [List.append_nil] at hs
    subst hs
    refine .inl ?_
    have hnone : p.matchesFrom free a.getLast? a.length [] = [] := by
      rw [matchesFrom_nil, hend]
      split <;> rfl
    have hnone' : p.matchesFrom free a.getLast? a.length ([] ++ t) = [] :=
      matchesFrom_eq_nil fun u v huv hle _ => hbeyond u v huv hle
    rw [hnone, hnone']
    exact .nil
  | cons x r ih =>
    have hs' : a ++ [x] ++ r = s := by rw [List.append_assoc]; exact hs
    rw [List.cons_append, matchesFrom_cons, matchesFrom_cons]
    split
    · exact ih hs'
    · rcases hplace a (x :: r) hs with hrel | ⟨m, hm, hlast⟩
      · rw [List.cons_append] at hrel
        generalize p.matchAt? (.between a (x :: (r ++ t))) = o' at hrel
        generalize p.matchAt? (.between a (x :: r)) = o at hrel
        cases hrel with
        | none => exact ih hs'
        | @some m' m hm =>
          rcases hR m' m hm with hstop | ⟨hstop, hstop'⟩
          · dsimp only
            rw [hstop]
            rcases ih hs' with hall | ⟨l, u, m₀, hlast, hfound, hall⟩
            · exact .inl (.cons hm hall)
            · exact .inr ⟨m :: l, u, m₀, hlast, by rw [hfound, List.cons_append], .cons hm hall⟩
          · dsimp only
            rw [hdone hs' (by omega), hdone' hs' (by omega)]
            exact .inl (.cons hm .nil)
      · obtain ⟨hstop, hnone⟩ := hlost a m hlast
        have hlater : p.matchesFrom free (a ++ [x]).getLast? (a ++ [x]).length (r ++ t) = [] := by
          refine matchesFrom_append_eq_nil hs' (fun u v huv hle => hnone u v huv ?_) hbeyond
          rw [List.length_append] at hle
          omega
        have hhere := hnone a (x :: r) hs (Nat.le_refl _)
        rw [List.cons_append] at hhere
        rw [hm, hhere]
        dsimp only
        rw [hdone hs' (by omega), hlater]
        exact .inr ⟨[], a, m, hlast, rfl, .nil⟩

/-- Every match with something behind a text is like one without, in the same order, but for a last
one that is lost and leaves no other. -/
theorem forall₂_allMatches
    (hR : ∀ m' m, R m' m → m'.stop = m.stop ∨ s.length ≤ m.stop ∧ s.length ≤ m'.stop)
    (hplace : ∀ u v, u ++ v = s → Option.Rel R (p.matchAt? (.between u (v ++ t)))
        (p.matchAt? (.between u v)) ∨ ∃ m, p.matchAt? (.between u v) = some m ∧ Lost u m)
    (hlost : ∀ u m, Lost u m → s.length ≤ m.stop ∧ ∀ u' v', u' ++ v' = s → u.length ≤ u'.length →
      p.matchAt? (.between u' (v' ++ t)) = none)
    {test : Char → Bool} (hneeds : Needs test p) (htest : ∀ c ∈ t, test c = false) :
    List.Forall₂ R (p.allMatches (s ++ t)) (p.allMatches s) ∨
      ∃ l u m, Lost u m ∧ p.allMatches s = l ++ [m] ∧
        List.Forall₂ R (p.allMatches (s ++ t)) l := by
  have hnone {u v : List Char} (hv : ∀ c ∈ v, test c = false) :
      p.matchAt? (.between u v) = none := by
    rw [matchAt?_eq, hneeds.readings_eq_nil hv]
    rfl
  refine forall₂_matchesFrom (a := []) rfl hR hplace hlost (hnone (by simp)) fun u v huv hle => ?_
  refine hnone fun c hc => htest c ?_
  rcases List.append_eq_append_iff.1 huv with ⟨v', hs, rfl⟩ | ⟨_, -, rfl⟩
  · rw [hs, List.length_append] at hle
    obtain rfl : v' = [] := List.length_eq_zero_iff.1 (by omega)
    exact hc
  · exact List.mem_append_right _ hc

theorem AlikeBefore.forall₂_allMatches {C : Capture Label → Capture Label → Prop}
    (h : ∀ a r, AlikeBefore C t p a r) {test : Char → Bool} (hneeds : Needs test p)
    (htest : ∀ c ∈ t, test c = false) :
    List.Forall₂ (MatchFollows C s.length) (p.allMatches (s ++ t)) (p.allMatches s) := by
  rcases Pattern.forall₂_allMatches (fun _ _ hm => hm.2.2)
    (fun u v huv => .inl (huv ▸ (h u v).rel_matchAt?)) (fun _ _ (hlost : False) => hlost.elim)
    hneeds htest with hall | ⟨_, _, _, h, _⟩
  · exact hall
  · exact h.elim

end Search

end CivicReport.Pattern
