import WattGateway.Gateway.World
import WattGateway.Lib.Fifo
import Mathlib.Data.Finset.Basic

/-!
# Recently published events

`PublishedEventCache` of `state.rs`, with its set beside its queue. In step they are the queue of
`remember`, and the queue is the end of the log of the ids that were newly added
(`cache_holds_recent`).
-/

namespace WattGateway.Gateway

open List Fifo

structure PublishedEventCache where
  eventIds : Finset String
  order : List String

namespace PublishedEventCache

def remember (c : PublishedEventCache) (eventId : String) : Bool × PublishedEventCache :=
  if eventId ∈ c.eventIds then (false, c)
  else
    let eventIds := insert eventId c.eventIds
    let order := c.order ++ [eventId]
    if publishedCapacity < order.length then
      (true, ⟨(order.head?.map eventIds.erase).getD eventIds, order.tail⟩)
    else (true, ⟨eventIds, order⟩)

/-- A call, with the log of the ids that were newly added, oldest first. -/
def logged (s : PublishedEventCache × List String) (id : String) :
    PublishedEventCache × List String :=
  ((s.1.remember id).2, if (s.1.remember id).1 then s.2 ++ [id] else s.2)

def after (ids : List String) : PublishedEventCache × List String :=
  ids.foldl logged (⟨∅, []⟩, [])

/-- The set and the queue are in step, and the queue is the end of the log. -/
structure Holds (c : PublishedEventCache) (log : List String) : Prop where
  ids : c.eventIds = c.order.toFinset
  order : c.order = recent publishedCapacity log
  fresh : Fresh publishedCapacity log

section

variable {c : PublishedEventCache} {log : List String}

lemma remember_of_mem {id : String} (h : id ∈ c.eventIds) : c.remember id = (false, c) := if_pos h

lemma Holds.remember_new (h : Holds c log) {id : String} (hi : id ∉ c.eventIds) :
    (c.remember id).1 = true ∧ Holds (c.remember id).2 (log ++ [id]) := by
  have hf : Fresh publishedCapacity (log ++ [id]) :=
    .snoc h.fresh (by rwa [← h.order, ← mem_toFinset, ← h.ids])
  have hs : insert id c.eventIds = (c.order ++ [id]).toFinset := by
    rw [h.ids]
    ext
    simp only [Finset.mem_insert, mem_toFinset, mem_append, mem_singleton, or_comm]
  have hor : recent publishedCapacity (log ++ [id]) = _ := recent_concat
  rw [← h.order] at hor
  rw [PublishedEventCache.remember, if_neg hi]
  simp only [length_append, length_singleton]
  split
  · rename_i hu
    rw [if_pos hu] at hor
    refine ⟨rfl, ?_, hor.symm, hf⟩
    have hn : (c.order ++ [id]).Nodup := by
      rw [nodup_append]
      refine ⟨h.order ▸ h.fresh.nodup, nodup_singleton id, fun a ha b hb hab => hi ?_⟩
      rw [mem_singleton.1 hb] at hab
      rw [h.ids, mem_toFinset]
      exact hab ▸ ha
    show ((c.order ++ [id]).head?.map (insert id c.eventIds).erase).getD _ = _
    rw [hs]
    cases hl : c.order ++ [id] with
    | nil => simp at hl
    | cons a l =>
      rw [hl, nodup_cons] at hn
      simp [hn.1]
  · rename_i hr
    rw [if_neg hr] at hor
    exact ⟨rfl, hs, hor.symm, hf⟩

lemma Holds.logged {s : PublishedEventCache × List String} (h : Holds s.1 s.2) (id : String) :
    Holds (logged s id).1 (logged s id).2 := by
  unfold PublishedEventCache.logged
  by_cases hi : id ∈ s.1.eventIds
  · rw [remember_of_mem hi]
    exact h
  · obtain ⟨ht, hn⟩ := h.remember_new hi
    rw [if_pos ht]
    exact hn

lemma holds_after (ids : List String) : Holds (after ids).1 (after ids).2 := by
  have hr : ∀ s : PublishedEventCache × List String, Holds s.1 s.2 →
      Holds (ids.foldl PublishedEventCache.logged s).1 (ids.foldl PublishedEventCache.logged s).2 := by
    induction ids with
    | nil => exact fun s h => h
    | cons id ids ih => exact fun s h => ih _ (h.logged id)
  exact hr _ ⟨rfl, rfl, .nil⟩

end

end PublishedEventCache

open PublishedEventCache

/-- After every sequence of calls the set and the queue hold the ids that were newly added last, a
call is refused just if its id is among them, and between two times that an id is newly added the
cache has filled with others. -/
theorem cache_holds_recent (ids : List String) :
    match after ids with
    | (c, added) =>
      c.eventIds = c.order.toFinset ∧ c.order.Nodup ∧ c.order.length ≤ publishedCapacity ∧
      c.order = recent publishedCapacity added ∧ (∀ id, (c.remember id).1 = false ↔ id ∈ c.order) ∧
      (∀ id, remember c.order id =
        if (c.remember id).1 then some (c.remember id).2.order else none) ∧
      ∀ before id between later, added = before ++ id :: between ++ id :: later → id ∉ between →
        ∃ others, others <:+ between ∧ others.length = publishedCapacity ∧ others.Nodup := by
  have h := holds_after ids
  generalize after ids = s at h ⊢
  obtain ⟨c, added⟩ := s
  simp only at h ⊢
  have he : ∀ id, id ∈ c.eventIds ↔ id ∈ c.order := fun id => by rw [h.ids, mem_toFinset]
  refine ⟨h.ids, h.order ▸ h.fresh.nodup, ?_, h.order, fun id => ?_, fun id => ?_, ?_⟩
  · rw [h.order, length_recent]
    exact Nat.min_le_left ..
  · rw [← he]
    by_cases hi : id ∈ c.eventIds
    · rw [remember_of_mem hi]
      exact ⟨fun _ => hi, fun _ => rfl⟩
    · rw [(h.remember_new hi).1]
      exact ⟨nofun, fun hm => absurd hm hi⟩
  · unfold Gateway.remember
    by_cases hi : id ∈ c.eventIds
    · rw [remember_of_mem hi, if_pos ((he id).1 hi)]
      rfl
    · rw [if_neg (mt (he id).2 hi), if_pos (h.remember_new hi).1,
        PublishedEventCache.remember, if_neg hi]
      simp only
      split <;> rfl
  · intro before id between later ha _
    exact (ha ▸ h.fresh).apart

end WattGateway.Gateway
