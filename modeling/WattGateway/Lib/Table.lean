import Mathlib.Data.List.Nodup

/-!
# Keyed tables

A table seen through its primary key: a list of rows in which every key occurs once. Each statement
form has one lemma that says what `get?` returns afterwards, and `mem_select` says which rows a
`SELECT` lists; proofs about tables use these and never the list of rows.
-/

namespace WattGateway

open List

/-- Rows under a primary key. -/
structure Table (K R : Type) where
  rows : List (K × R)
  nodup : (rows.map Prod.fst).Nodup

namespace Table

variable {K R : Type}

def empty : Table K R := ⟨[], nodup_nil⟩

/-- The rows that satisfy a condition, as a `SELECT` lists them. -/
def select (t : Table K R) (p : K → R → Bool) : List (K × R) :=
  t.rows.filter fun kr => p kr.1 kr.2

/-- `UPDATE … SET f WHERE p`. -/
def update (t : Table K R) (p : K → R → Bool) (f : R → R) : Table K R where
  rows := t.rows.map fun kr => if p kr.1 kr.2 then (kr.1, f kr.2) else kr
  nodup := by
    have h : ∀ l : List (K × R),
        (l.map fun kr => if p kr.1 kr.2 then (kr.1, f kr.2) else kr).map Prod.fst =
          l.map Prod.fst := by
      intro l
      rw [map_map]
      refine map_congr_left fun kr _ => ?_
      by_cases hp : p kr.1 kr.2 <;> simp [hp]
    rw [h]
    exact t.nodup

/-- `DELETE … WHERE p`. -/
def delete (t : Table K R) (p : K → R → Bool) : Table K R where
  rows := t.rows.filter fun kr => !p kr.1 kr.2
  nodup := (filter_sublist.map Prod.fst).nodup t.nodup

variable [DecidableEq K]

section

variable (t : Table K R)

def get? (k : K) : Option R :=
  (t.rows.find? fun kr => kr.1 = k).map Prod.snd

/-- `INSERT`, refused when the key is taken. -/
def insert? (k : K) (r : R) : Option (Table K R) :=
  if h : k ∈ t.rows.map Prod.fst then none
  else some ⟨t.rows ++ [(k, r)], by
    rw [map_append, nodup_append]
    refine ⟨t.nodup, by simp, ?_⟩
    intro a ha b hb hab
    simp only [map_cons, map_nil, mem_singleton] at hb
    exact h (hb ▸ hab ▸ ha)⟩

/-- `INSERT … ON CONFLICT DO UPDATE`: the new row is computed from the one under the key, if
there is one. -/
def upsert (k : K) (f : Option R → R) : Table K R :=
  match t.insert? k (f none) with
  | some t' => t'
  | none => t.update (fun k' _ => k' = k) fun r => f (some r)

/-- `INSERT … ON CONFLICT DO NOTHING`. -/
def insertNew (k : K) (r : R) : Table K R := (t.insert? k r).getD t

end

/-- The table a list of rows builds, later rows replacing earlier ones under the same key. -/
def ofList (l : List (K × R)) : Table K R :=
  l.foldl (fun t kr => t.upsert kr.1 fun _ => kr.2) empty

/-! ## Reading by key -/

variable {t : Table K R} {k : K} {r : R}

lemma get?_eq_some : t.get? k = some r ↔ (k, r) ∈ t.rows := by
  unfold get?
  rw [Option.map_eq_some_iff]
  constructor
  · rintro ⟨⟨_, _⟩, hf, rfl⟩
    have hk := find?_some hf
    simp only [decide_eq_true_eq] at hk
    subst hk
    exact mem_of_find?_eq_some hf
  · intro hm
    cases hf : t.rows.find? fun kr => kr.1 = k with
    | none =>
      have := find?_eq_none.1 hf _ hm
      simp at this
    | some kr =>
      have hk := find?_some hf
      simp only [decide_eq_true_eq] at hk
      have hm' := mem_of_find?_eq_some hf
      refine ⟨kr, rfl, ?_⟩
      -- two rows under one key are one row
      exact congrArg Prod.snd (inj_on_of_nodup_map t.nodup hm' hm hk)

lemma row_unique {r' : R} (h : (k, r) ∈ t.rows) (h' : (k, r') ∈ t.rows) : r = r' := by
  have hr := get?_eq_some.2 h
  rw [get?_eq_some.2 h'] at hr
  exact (Option.some.inj hr).symm

lemma get?_eq_none : t.get? k = none ↔ k ∉ t.rows.map Prod.fst := by
  constructor
  · intro h hk
    obtain ⟨⟨_, _⟩, hm, rfl⟩ := mem_map.1 hk
    rw [get?_eq_some.2 hm] at h
    cases h
  · intro h
    cases hg : t.get? k with
    | none => rfl
    | some => exact absurd (mem_map.2 ⟨_, get?_eq_some.1 hg, rfl⟩) h

@[simp] lemma get?_empty (k : K) : (empty : Table K R).get? k = none := rfl

lemma mem_select {p : K → R → Bool} : (k, r) ∈ t.select p ↔ t.get? k = some r ∧ p k r = true := by
  rw [get?_eq_some]
  exact mem_filter

/-! ## What a statement leaves under a key -/

lemma get?_ext {o : Option R} (h : ∀ r, (k, r) ∈ t.rows ↔ o = some r) : t.get? k = o := by
  refine Option.ext fun r => ?_
  rw [get?_eq_some, h]

@[simp] lemma get?_update (t : Table K R) (p : K → R → Bool) (f : R → R) (k : K) :
    (t.update p f).get? k = (t.get? k).map fun r => if p k r then f r else r := by
  refine get?_ext fun r => ?_
  rw [Option.map_eq_some_iff, update, mem_map]
  constructor
  · rintro ⟨⟨k', r'⟩, hm, he⟩
    by_cases hp : p k' r'
    · rw [if_pos hp] at he
      cases he
      exact ⟨_, get?_eq_some.2 hm, by rw [if_pos hp]⟩
    · rw [if_neg hp] at he
      cases he
      exact ⟨_, get?_eq_some.2 hm, by rw [if_neg hp]⟩
  · rintro ⟨r', hg, he⟩
    refine ⟨(k, r'), get?_eq_some.1 hg, ?_⟩
    by_cases hp : p k r'
    · rw [if_pos hp] at he ⊢
      rw [he]
    · rw [if_neg hp] at he ⊢
      rw [he]

@[simp] lemma get?_delete (t : Table K R) (p : K → R → Bool) (k : K) :
    (t.delete p).get? k = (t.get? k).filter fun r => !p k r := by
  refine get?_ext fun r => ?_
  rw [delete, mem_filter, ← get?_eq_some, Option.filter_eq_some_iff]

lemma get?_insert? {t' : Table K R} (h : t.insert? k r = some t') (k' : K) :
    t'.get? k' = if k' = k then some r else t.get? k' := by
  unfold insert? at h
  split at h
  · cases h
  · rename_i hk
    cases h
    refine get?_ext fun r' => ?_
    rw [mem_append, mem_singleton, Prod.mk.injEq]
    by_cases hkk : k' = k
    · subst hkk
      rw [if_pos rfl, ← get?_eq_some, get?_eq_none.2 hk]
      simp [eq_comm]
    · rw [if_neg hkk, ← get?_eq_some]
      simp [hkk]

lemma insert?_eq_none : t.insert? k r = none ↔ ∃ r', t.get? k = some r' := by
  rw [← Option.ne_none_iff_exists', Ne, get?_eq_none]
  unfold insert?
  split <;> simp_all

lemma insertNew_of_some {r' : R} (h : t.get? k = some r') (r : R) : t.insertNew k r = t := by
  unfold insertNew
  rw [insert?_eq_none.2 ⟨r', h⟩]
  rfl

lemma insertNew_eq_upsert (h : t.get? k = none) (r : R) :
    t.insertNew k r = t.upsert k fun _ => r := by
  unfold insertNew upsert
  cases hi : t.insert? k r with
  | none =>
    obtain ⟨_, hr⟩ := insert?_eq_none.1 hi
    rw [h] at hr
    cases hr
  | some => rfl

@[simp] lemma get?_insertNew (t : Table K R) (k : K) (r : R) (k' : K) :
    (t.insertNew k r).get? k' = (t.get? k').or (if k' = k then some r else none) := by
  unfold insertNew
  cases hi : t.insert? k r with
  | none =>
    obtain ⟨r', hr⟩ := insert?_eq_none.1 hi
    by_cases hk : k' = k
    · subst hk
      simp [hr]
    · simp [hk]
  | some =>
    have hk : t.get? k = none := by
      cases hg : t.get? k with
      | none => rfl
      | some r' => rw [insert?_eq_none.2 ⟨r', hg⟩] at hi; cases hi
    rw [Option.getD_some, get?_insert? hi]
    by_cases hkk : k' = k
    · subst hkk
      simp [hk]
    · simp [hkk]

@[simp] lemma get?_upsert (t : Table K R) (k : K) (f : Option R → R) (k' : K) :
    (t.upsert k f).get? k' = if k' = k then some (f (t.get? k)) else t.get? k' := by
  unfold upsert
  split
  · rename_i t' ht
    have hk : t.get? k = none := by
      cases hg : t.get? k with
      | none => rfl
      | some r => rw [insert?_eq_none.2 ⟨r, hg⟩] at ht; cases ht
    rw [get?_insert? ht, hk]
  · rename_i hn
    obtain ⟨_, hr⟩ := insert?_eq_none.1 hn
    rw [get?_update]
    by_cases hk : k' = k
    · subst hk
      simp [hr]
    · rw [if_neg hk]
      cases t.get? k' <;> simp [hk]

end Table

end WattGateway
