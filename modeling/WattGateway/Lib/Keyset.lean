import Mathlib.Data.List.Sort

/-!
# Pages of a sorted table

Keyset pagination: a page is the first `n` of the rows after a position, in order. The position of
the next page is the last row of this one, and a page of fewer than `n` rows is the last. What a
page leaves out stands behind all of its rows, and only a page of full length leaves something out
(`mem_page_or_behind`).
-/

namespace WattGateway.Keyset

open List

variable {α : Type} (r : α → α → Prop) [DecidableRel r]

def page (after : α → Bool) (n : Nat) (rows : List α) : List α :=
  ((rows.filter after).insertionSort r).take n

variable {r} {after : α → Bool} {n : Nat} {rows : List α} {x : α}

lemma mem_page_or_behind [Std.Total r] [IsTrans α r] (hx : x ∈ rows) (ha : after x = true) :
    x ∈ page r after n rows ∨
      (page r after n rows).length = n ∧ ∀ y ∈ page r after n rows, r y x := by
  unfold page
  generalize hs : (rows.filter after).insertionSort r = sorted
  have hm : x ∈ sorted := by
    rw [← hs, mem_insertionSort]
    exact mem_filter.2 ⟨hx, ha⟩
  have hpa : (sorted.take n ++ sorted.drop n).Pairwise r := by
    rw [take_append_drop, ← hs]
    exact pairwise_insertionSort r _
  rw [← take_append_drop n sorted] at hm
  rcases mem_append.1 hm with hin | hb
  · exact .inl hin
  · refine .inr ⟨?_, fun y hy => (pairwise_append.1 hpa).2.2 y hy x hb⟩
    have hl : n < sorted.length := by
      have hp := length_pos_of_mem hb
      rw [length_drop] at hp
      omega
    rw [length_take]
    omega

end WattGateway.Keyset
