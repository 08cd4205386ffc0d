import Mathlib.Data.List.Induction
import Mathlib.Data.List.Nodup

/-!
# First in, first out

A queue with room for `k` entries is the end of the log of what was added to it (`recent`). If an
entry is added only when it is not there (`Fresh`), then the queue has no repeats, and between two
entries of one value is a whole queue of others.
-/

namespace WattGateway.Fifo

open List

variable {α : Type} {k : Nat}

def recent (k : Nat) (log : List α) : List α := log.drop (log.length - k)

inductive Fresh (k : Nat) : List α → Prop
  | nil : Fresh k []
  | snoc {log : List α} {a : α} : Fresh k log → a ∉ recent k log → Fresh k (log ++ [a])

variable {log : List α} {a : α}

lemma length_recent : (recent k log).length = min k log.length := by
  rw [recent, length_drop]
  omega

lemma recent_concat : recent k (log ++ [a]) =
    if k < (recent k log).length + 1 then (recent k log ++ [a]).tail else recent k log ++ [a] := by
  have h : recent k log ++ [a] = (log ++ [a]).drop (log.length - k) :=
    (drop_append_of_le_length (Nat.sub_le ..)).symm
  rw [h, length_recent, recent, length_append, length_singleton, tail_drop]
  split
  · congr 1
    omega
  · congr 1
    omega

lemma Fresh.nodup (h : Fresh k log) : (recent k log).Nodup := by
  induction h with
  | nil => simp [recent]
  | @snoc log a _ ha ih =>
    have hn : (recent k log ++ [a]).Nodup :=
      nodup_append.2 ⟨ih, nodup_singleton a, fun b hb c hc hbc => by
        rw [mem_singleton.1 hc] at hbc
        exact ha (hbc ▸ hb)⟩
    rw [recent_concat]
    split
    · exact hn.sublist (tail_sublist _)
    · exact hn

lemma Fresh.before {post : List α} (h : Fresh k (log ++ a :: post)) :
    Fresh k log ∧ a ∉ recent k log := by
  induction post using reverseRecOn with
  | nil =>
    generalize hl : log ++ [a] = l at h
    cases h with
    | nil => simp at hl
    | snoc hf ha =>
      obtain ⟨rfl, hi⟩ := append_inj' hl rfl
      cases hi
      exact ⟨hf, ha⟩
  | append_singleton post x ih =>
    refine ih ?_
    generalize hl : log ++ a :: (post ++ [x]) = l at h
    cases h with
    | nil => simp at hl
    | snoc hf =>
      rw [← cons_append, ← append_assoc] at hl
      exact (append_inj' hl rfl).1 ▸ hf

/-- Between two entries of one value is a whole queue. -/
lemma Fresh.apart {between post : List α} (h : Fresh k (log ++ a :: between ++ a :: post)) :
    ∃ others, others <:+ between ∧ others.length = k ∧ others.Nodup := by
  obtain ⟨hf, ha⟩ := h.before
  have hl : k ≤ between.length := by
    by_contra hlt
    refine ha ?_
    rw [recent, length_append, length_cons, drop_append_of_le_length (by omega)]
    exact mem_append_right _ mem_cons_self
  refine ⟨recent k (log ++ a :: between), ?_, ?_, hf.nodup⟩
  · rw [append_cons, recent, length_append, Nat.add_sub_assoc hl, drop_length_add_append]
    exact drop_suffix _ _
  · rw [length_recent, length_append, length_cons]
    omega

end WattGateway.Fifo
