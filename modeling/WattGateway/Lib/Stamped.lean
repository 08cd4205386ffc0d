import Mathlib.Data.List.MinMax
import Mathlib.Data.List.Nodup

/-!
# Stamped registers

A register holds a value with a time; `put` lets a value in unless a later one is there. An entry's
parts go into a second register if the entry itself is let in (`fan`). After entries of different
times, in any order, the registers are as after the newest alone (`foldl_fan_newest`,
`foldl_fan_perm`), provided that it has a part for the second.
-/

namespace WattGateway.Stamped

open List

variable {T V U : Type} [LinearOrder T]

/-- A value of this time is let in. -/
def admits (old : Option (T × V)) (t : T) : Bool := old.all fun x => x.1 ≤ t

def put (old : Option (T × V)) (x : T × V) : Option (T × V) := if admits old x.1 then some x else old

/-- An entry: its time, its value, and the values of its parts. -/
structure Entry (T V U : Type) where
  time : T
  value : V
  parts : List U

def putAll (old : Option (T × U)) (t : T) (us : List U) : Option (T × U) :=
  us.foldl (fun old u => put old (t, u)) old

def fan (s : Option (T × V) × Option (T × U)) (e : Entry T V U) : Option (T × V) × Option (T × U) :=
  if admits s.1 e.time then (some (e.time, e.value), putAll s.2 e.time e.parts) else s

/-! ## One register -/

variable {old : Option (T × V)} {x : T × V}

lemma put_of_admits (h : admits old x.1 = true) : put old x = some x := if_pos h

lemma put_of_not_admits (h : admits old x.1 = false) : put old x = old := by
  unfold put
  rw [h]
  rfl

variable {t : T}

@[simp] lemma admits_some : admits (some x) t = decide (x.1 ≤ t) := rfl

@[simp] lemma admits_none : admits (none : Option (T × V)) t = true := rfl

lemma admits_put (h : x.1 ≤ t) : admits (put old x) t = admits old t := by
  cases hold : admits old x.1 with
  | false => rw [put_of_not_admits hold]
  | true =>
    rw [put_of_admits hold, admits_some, decide_eq_true h]
    cases old with
    | none => rfl
    | some =>
      rw [admits_some, decide_eq_true_eq] at hold
      exact (decide_eq_true (le_trans hold h)).symm

lemma putAll_append (old : Option (T × U)) (t : T) (us us' : List U) :
    putAll old t (us ++ us') = putAll (putAll old t us) t us' := foldl_append

lemma admits_putAll {old : Option (T × U)} {t' : T} (us : List U) (h : t ≤ t') :
    admits (putAll old t us) t' = admits old t' := by
  induction us generalizing old with
  | nil => rfl
  | cons u us ih =>
    show admits (putAll (put old (t, u)) t us) t' = _
    rw [ih]
    exact admits_put h

lemma putAll_of_not_admits {old : Option (T × U)} (us : List U) (h : admits old t = false) :
    putAll old t us = old := by
  induction us with
  | nil => rfl
  | cons u us ih =>
    show putAll (put old (t, u)) t us = _
    rw [put_of_not_admits h]
    exact ih

lemma putAll_of_admits {old : Option (T × U)} (us : List U) (u : U) (h : admits old t = true) :
    putAll old t (us ++ [u]) = some (t, u) := by
  rw [putAll_append]
  refine put_of_admits ?_
  rw [admits_putAll us (le_refl t)]
  exact h

/-! ## An entry and its parts -/

variable {s : Option (T × V) × Option (T × U)}
variable {e : Entry T V U}

lemma fan_of_admits (h : admits s.1 e.time = true) :
    fan s e = (some (e.time, e.value), putAll s.2 e.time e.parts) := if_pos h

lemma fan_of_not_admits (h : admits s.1 e.time = false) : fan s e = s := by
  unfold fan
  rw [h]
  rfl

variable {l : List (Entry T V U)}

lemma admits_foldl_fan (h : ∀ e ∈ l, e.time < t) : admits (l.foldl fan s).1 t = admits s.1 t := by
  induction l generalizing s with
  | nil => rfl
  | cons e _ ih =>
    rw [foldl_cons, ih fun e' he' => h e' (mem_cons_of_mem e he')]
    have hf : (fan s e).1 = put s.1 (e.time, e.value) := by
      unfold fan put
      split <;> rfl
    rw [hf]
    exact admits_put (le_of_lt (h e mem_cons_self))

/-- Earlier entries leave the second register, or it stays open to later parts. -/
lemma foldl_fan_parts (h : ∀ e ∈ l, e.time < t) : admits (l.foldl fan s).2 t = admits s.2 t ∧
      (admits s.2 t = false → (l.foldl fan s).2 = s.2) := by
  induction l generalizing s with
  | nil => exact ⟨rfl, fun _ => rfl⟩
  | cons e _ ih =>
    have he := le_of_lt (h e mem_cons_self)
    obtain ⟨ha, ht⟩ := ih (s := fan s e) fun e' he' => h e' (mem_cons_of_mem e he')
    rw [foldl_cons, ha]
    cases hin : admits s.1 e.time with
    | false =>
      rw [fan_of_not_admits hin] at ht ⊢
      exact ⟨rfl, ht⟩
    | true =>
      rw [fan_of_admits hin] at ht ⊢
      refine ⟨admits_putAll e.parts he, fun hc => ?_⟩
      have hc' : admits s.2 e.time = false := by
        cases hs : s.2 with
        | none =>
          rw [hs] at hc
          cases hc
        | some =>
          rw [hs, admits_some, decide_eq_false_iff_not, not_le] at hc
          rw [admits_some, decide_eq_false_iff_not, not_le]
          exact lt_of_le_of_lt he hc
      rw [ht ((admits_putAll e.parts he).trans hc)]
      exact putAll_of_not_admits e.parts hc'

/-- Once a later entry has been let in or turned away, earlier ones change nothing. -/
lemma foldl_fan_stale (h : ∀ e ∈ l, admits s.1 e.time = false) : l.foldl fan s = s := by
  induction l with
  | nil => rfl
  | cons e _ ih =>
    rw [foldl_cons, fan_of_not_admits (h e mem_cons_self)]
    exact ih fun e' he' => h e' (mem_cons_of_mem e he')

lemma not_admits_of_lt {t' : T} (h : t' < t) (hc : admits old t = false) :
    admits old t' = false := by
  cases old with
  | none => cases hc
  | some =>
    rw [admits_some, decide_eq_false_iff_not, not_le] at hc ⊢
    exact lt_trans h hc

/-- After entries of which one is later than all others, the first register is as after that one
alone, and so is the second if that one has a part for it. -/
lemma foldl_fan_newest {pre post : List (Entry T V U)} (hp : ∀ e' ∈ pre, e'.time < e.time)
    (hpo : ∀ e' ∈ post, e'.time < e.time) : ((pre ++ e :: post).foldl fan s).1 = (fan s e).1 ∧
      (e.parts ≠ [] → ((pre ++ e :: post).foldl fan s).2 = (fan s e).2) := by
  rw [foldl_append, foldl_cons]
  have ha := admits_foldl_fan (s := s) hp
  cases hin : admits s.1 e.time with
  | false =>
    -- what is there is later than all entries
    have hall : ∀ e' ∈ pre, admits s.1 e'.time = false :=
      fun e' he' => not_admits_of_lt (hp e' he') hin
    rw [foldl_fan_stale hall, fan_of_not_admits hin,
      foldl_fan_stale fun e' he' => not_admits_of_lt (hpo e' he') hin]
    exact ⟨rfl, fun _ => rfl⟩
  | true =>
    rw [fan_of_admits (ha.trans hin), fan_of_admits hin, foldl_fan_stale fun e' he' => by
      rw [admits_some, decide_eq_false_iff_not, not_le]
      exact hpo e' he']
    refine ⟨rfl, fun hpa => ?_⟩
    obtain ⟨ho, ht⟩ := foldl_fan_parts (s := s) hp
    cases hs : admits s.2 e.time with
    | false =>
      show putAll (pre.foldl fan s).2 _ _ = putAll s.2 _ _
      rw [ht hs]
    | true =>
      obtain ⟨us, u, hu⟩ : ∃ us u, e.parts = us ++ [u] :=
        ⟨_, _, (dropLast_append_getLast hpa).symm⟩
      show putAll (pre.foldl fan s).2 _ _ = putAll s.2 _ _
      rw [hu, putAll_of_admits us u hs, putAll_of_admits us u (ho.trans hs)]

/-- Entries of different times, in two orders, with the same newest: the registers end the same. -/
lemma foldl_fan_perm {l' : List (Entry T V U)} (hpe : l.Perm l')
    (hd : (l.map Entry.time).Nodup) :
    (l.foldl fan s).1 = (l'.foldl fan s).1 ∧ ∀ e ∈ l, (∀ e' ∈ l, e'.time ≤ e.time) → e.parts ≠ [] →
        (l.foldl fan s).2 = (l'.foldl fan s).2 := by
  have hn : ∀ e ∈ l, (∀ e' ∈ l, e'.time ≤ e.time) → ∀ l₁ : List (Entry T V U), l.Perm l₁ →
      (l₁.foldl fan s).1 = (fan s e).1 ∧ (e.parts ≠ [] → (l₁.foldl fan s).2 = (fan s e).2) := by
    intro e he hm _ hp
    obtain ⟨pre, post, rfl⟩ := append_of_mem (hp.subset he)
    have hno : ((pre ++ e :: post).map Entry.time).Nodup :=
      (hp.map Entry.time).nodup_iff.1 hd
    rw [map_append, map_cons, perm_middle.nodup_iff, nodup_cons, mem_append] at hno
    have hlt : ∀ e' ∈ pre ++ e :: post, e'.time ≠ e.time → e'.time < e.time :=
      fun e' he' hne => lt_of_le_of_ne (hm e' (hp.symm.subset he')) hne
    refine foldl_fan_newest (fun e' he' => hlt e' ?_ fun heq => hno.1 ?_)
      fun e' he' => hlt e' ?_ fun heq => hno.1 ?_
    · exact mem_append_left _ he'
    · exact .inl (heq ▸ mem_map_of_mem he')
    · exact mem_append_right _ (mem_cons_of_mem e he')
    · exact .inr (heq ▸ mem_map_of_mem he')
  constructor
  · cases hm : l.argmax Entry.time with
    | none =>
      have hl := argmax_eq_none.1 hm
      rw [hl] at hpe
      rw [hl, nil_perm.1 hpe]
    | some e =>
      have he := argmax_mem hm
      have hle : ∀ e' ∈ l, e'.time ≤ e.time := fun e' he' => le_of_mem_argmax he' hm
      rw [(hn e he hle l (List.Perm.refl l)).1, (hn e he hle l' hpe).1]
  · intro e he hm ha
    rw [(hn e he hm l (List.Perm.refl l)).2 ha, (hn e he hm l' hpe).2 ha]

end WattGateway.Stamped
