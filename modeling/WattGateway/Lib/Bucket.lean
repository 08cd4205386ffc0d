import Mathlib.Algebra.Order.BigOperators.Group.Finset
import Mathlib.Tactic.Linarith
import Mathlib.Tactic.Ring
import WattGateway.Lib.RowLock

/-!
# Token buckets

A bucket holds at most `cap` tokens and gains `rate` of them in a unit of time. A draw reads the
level at one time and writes what is left at another. `Metered` draws were made from one bucket, and
`Metered.window` bounds what was drawn in an interval. A bucket in a row that is drawn from in
transactions (`RowLock`, `Gauged`) is metered whatever the interleaving.
-/

namespace WattGateway

open List

variable {α : Type} [Field α] [LinearOrder α]

/-- What was drawn from a bucket, when, and the level that was left. -/
structure Draw (α : Type) where
  readAt : α
  writtenAt : α
  level : α
  cost : α

namespace Draw

structure Fits (cap : α) (d : Draw α) : Prop where
  ordered : d.readAt ≤ d.writtenAt
  level : 0 ≤ d.level
  cost : 0 ≤ d.cost
  cap : d.level + d.cost ≤ cap

/-- The draw comes after the other and has no more than the other left and time has brought. -/
structure After (rate : α) (d d' : Draw α) : Prop where
  ordered : d'.writtenAt ≤ d.readAt
  refill : d.level + d.cost ≤ d'.level + (d.readAt - d'.writtenAt) * rate

def Within (a b : α) (d : Draw α) : Prop := a ≤ d.writtenAt ∧ d.readAt ≤ b

instance (a b : α) (d : Draw α) : Decidable (d.Within a b) := inferInstanceAs (Decidable (_ ∧ _))

end Draw

/-- The draws, newest first, were made from one bucket. -/
def Metered (cap rate : α) : List (Draw α) → Prop
  | [] => True
  | d :: rest => d.Fits cap ∧ (∀ d' ∈ rest.head?, d.After rate d') ∧ Metered cap rate rest

def drawn (l : List (Draw α)) : α := (l.map Draw.cost).sum

namespace Metered

variable {cap rate : α} {l rest : List (Draw α)} {d : Draw α}

lemma fits (h : Metered cap rate l) : ∀ d ∈ l, d.Fits cap := by
  induction l with
  | nil => exact fun d hd => nomatch hd
  | cons _ _ ih =>
    intro d' hd'
    rcases mem_cons.1 hd' with rfl | hd'
    · exact h.1
    · exact ih h.2.2 d' hd'

lemma older (h : Metered cap rate (d :: rest)) : ∀ d' ∈ rest, d'.writtenAt ≤ d.readAt := by
  induction rest generalizing d with
  | nil => exact fun d' hd' => nomatch hd'
  | cons d₁ _ ih =>
    have hf : d₁.writtenAt ≤ d.readAt := (h.2.1 d₁ rfl).ordered
    intro d' hd'
    rcases mem_cons.1 hd' with rfl | hd'
    · exact hf
    · exact (ih h.2.2 d' hd').trans (h.2.2.1.ordered.trans hf)

variable [IsStrictOrderedRing α]

lemma since (hra : 0 ≤ rate) (a : α) (h : Metered cap rate (d :: rest)) (ha : a ≤ d.writtenAt) :
    drawn ((d :: rest).filter fun d => a ≤ d.writtenAt) + d.level ≤
      cap + (max d.readAt a - a) * rate := by
  have hl : 0 ≤ (max d.readAt a - a) * rate :=
    mul_nonneg (sub_nonneg.2 (le_max_right _ _)) hra
  induction rest generalizing d with
  | nil =>
    have hc := h.1.cap
    simp only [drawn, filter_cons, ha, decide_true, if_true, filter_nil, map_cons,
      map_nil, sum_cons, sum_nil]
    linarith
  | cons d₁ rest ih =>
    have hc := h.1.cap
    have hf := h.2.1 d₁ rfl
    have hs : drawn ((d :: d₁ :: rest).filter fun d => a ≤ d.writtenAt) =
        d.cost + drawn ((d₁ :: rest).filter fun d => a ≤ d.writtenAt) := by
      rw [filter_cons_of_pos (by simpa using ha)]
      rfl
    rw [hs]
    by_cases ha₁ : a ≤ d₁.writtenAt
    · have hp := ih h.2.2 ha₁ (mul_nonneg (sub_nonneg.2 (le_max_right _ _)) hra)
      -- the time up to the older draw and the time after it do not overlap
      have hm : max d₁.readAt a ≤ d₁.writtenAt := max_le h.2.2.1.ordered ha₁
      have ht : (max d₁.readAt a - a) * rate + (d.readAt - d₁.writtenAt) * rate ≤
          (max d.readAt a - a) * rate := by
        rw [← add_mul]
        refine mul_le_mul_of_nonneg_right ?_ hra
        have hle := le_max_left d.readAt a
        linarith
      have hr := hf.refill
      linarith
    · have hno : (d₁ :: rest).filter (fun d => a ≤ d.writtenAt) = [] := by
        refine filter_eq_nil_iff.2 fun d' hd' => ?_
        rw [decide_eq_true_eq, not_le]
        rcases mem_cons.1 hd' with rfl | hd'
        · exact not_le.1 ha₁
        · exact ((h.2.2.older d' hd').trans h.2.2.1.ordered).trans_lt (not_le.1 ha₁)
      rw [hno]
      simp only [drawn, map_nil, sum_nil]
      linarith

/-- What is drawn in an interval is at most what the bucket holds and gains in it. -/
lemma window (hcap : 0 ≤ cap) (hra : 0 ≤ rate) {a b : α} (hab : a ≤ b) (h : Metered cap rate l) :
    drawn (l.filter fun d => d.Within a b) ≤ cap + (b - a) * rate := by
  have hr : 0 ≤ (b - a) * rate := mul_nonneg (sub_nonneg.2 hab) hra
  induction l with
  | nil =>
    simp only [filter_nil, drawn, map_nil, sum_nil]
    linarith
  | cons d rest ih =>
    by_cases hb : d.readAt ≤ b
    · by_cases ha : a ≤ d.writtenAt
      · have hs := since hra a h ha
        have hf : drawn ((d :: rest).filter fun d => d.Within a b) ≤
            drawn ((d :: rest).filter fun d => a ≤ d.writtenAt) := by
          refine List.Sublist.sum_le_sum (List.Sublist.map _ ?_) fun x hx => ?_
          · refine monotone_filter_right _ fun d' hd' => ?_
            exact decide_eq_true (of_decide_eq_true hd').1
          · obtain ⟨d', hd', rfl⟩ := mem_map.1 hx
            exact (h.fits d' (mem_of_mem_filter hd')).cost
        have hm : (max d.readAt a - a) * rate ≤ (b - a) * rate :=
          mul_le_mul_of_nonneg_right (sub_le_sub_right (max_le hb hab) a) hra
        have hle := h.1.level
        linarith
      · rw [filter_cons_of_neg]
        · exact ih h.2.2
        · rw [decide_eq_true_eq]
          exact fun hw => ha hw.1
    · rw [filter_cons_of_neg]
      · exact ih h.2.2
      · rw [decide_eq_true_eq]
        exact fun hw => hb hw.2

end Metered

/-! ## A bucket in a row -/

open RowLock

/-- The transactions draw from a bucket that their row holds: `level` of it is left, it was filled up
at `filledAt`, and a call draws `cost` from the row it reads. -/
structure Gauged {K R A : Type} (txs : Nat → Tx K R A α) (level filledAt : R → α) (cap rate : α)
    (cost : Nat → R → α → α) : Prop where
  insert : ∀ t now, level ((txs t).insert now) = cap ∧ filledAt ((txs t).insert now) = now
  filled : ∀ t row readAt now, filledAt (((txs t).update row readAt).1 now) = now
  draw : ∀ t row readAt now, 0 ≤ level row → filledAt row ≤ readAt →
    0 ≤ level (((txs t).update row readAt).1 now) ∧ 0 ≤ cost t row readAt ∧
      level (((txs t).update row readAt).1 now) + cost t row readAt ≤
        min (level row + (readAt - filledAt row) * rate) cap

section

variable {K R A : Type} {txs : Nat → Tx K R A α} {level filledAt : R → α} {cap rate : α}
  {cost : Nat → R → α → α} {log : List (Commit R α)}

def drawOf (level : R → α) (cost : Nat → R → α → α) (c : Commit R α) : Draw α :=
  ⟨c.readAt, c.writtenAt, level c.written, cost c.call c.row c.readAt⟩

lemma Gauged.metered (hc : 0 ≤ cap) (g : Gauged txs level filledAt cap rate cost)
    (h : Linked txs log) : Metered cap rate (log.map (drawOf level cost)) := by
  induction log with
  | nil => trivial
  | cons c rest ih =>
    obtain ⟨ha, hre⟩ := h
    have hm := ih hre
    have he := ha.reads
    cases rest with
    | nil =>
      obtain ⟨insertedAt, hle, hr⟩ := he
      obtain ⟨hu, hf⟩ := g.insert c.call insertedAt
      rw [← hr] at hu hf
      obtain ⟨hl, ho, hdr⟩ :=
        g.draw c.call c.row c.readAt c.writtenAt (hu ▸ hc) (hf ▸ hle)
      rw [← ha.written] at hl hdr
      exact ⟨⟨ha.ordered, hl, ho, (le_min_iff.1 hdr).2⟩, nofun, trivial⟩
    | cons c₁ =>
      obtain ⟨hr, hle⟩ := he
      have hp : 0 ≤ level c₁.written := hm.1.level
      have hf : filledAt c.row = c₁.writtenAt := by
        rw [hr, hre.1.written]
        exact g.filled _ _ _ _
      obtain ⟨hl, ho, hdr⟩ := g.draw c.call c.row c.readAt c.writtenAt
        (hr.symm ▸ hp) (hf.symm ▸ hle)
      have hv : level c.row = level c₁.written := congrArg level hr
      rw [← ha.written] at hl hdr
      rw [hf, hv] at hdr
      obtain ⟨href, hca⟩ := le_min_iff.1 hdr
      refine ⟨⟨ha.ordered, hl, ho, hca⟩, fun d hd => ?_, hm⟩
      cases hd
      exact ⟨hle, href⟩

variable [IsStrictOrderedRing α]

lemma sum_le_drawn {w : Nat → α} (calls : Finset Nat)
    (hn : (log.map Commit.call).Nodup) (ho : ∀ c ∈ log, 0 ≤ cost c.call c.row c.readAt)
    (ha : ∀ t ∈ calls, ∃ c ∈ log, c.call = t ∧ w t ≤ cost c.call c.row c.readAt) :
    ∑ t ∈ calls, w t ≤ drawn (log.map (drawOf level cost)) := by
  induction log generalizing calls with
  | nil =>
    have hno : calls = ∅ := by
      refine Finset.eq_empty_of_forall_notMem fun t ht => ?_
      obtain ⟨c, hc, -⟩ := ha t ht
      cases hc
    rw [hno, Finset.sum_empty]
    exact le_rfl
  | cons c rest ih =>
    obtain ⟨hf, hn⟩ := nodup_cons.1 hn
    have hr : ∑ t ∈ calls.erase c.call, w t ≤ drawn (rest.map (drawOf level cost)) := by
      refine ih _ hn (fun c' hc' => ho c' (mem_cons_of_mem c hc')) fun t ht => ?_
      obtain ⟨hne, ht⟩ := Finset.mem_erase.1 ht
      obtain ⟨c', hc', hca, hle⟩ := ha t ht
      rcases mem_cons.1 hc' with rfl | hc'
      · exact absurd hca.symm hne
      · exact ⟨c', hc', hca, hle⟩
    have hs : drawn ((c :: rest).map (drawOf level cost)) =
        cost c.call c.row c.readAt + drawn (rest.map (drawOf level cost)) := rfl
    rw [hs]
    by_cases hm : c.call ∈ calls
    · have hi : w c.call ≤ cost c.call c.row c.readAt := by
        obtain ⟨_, hc', hca, hle⟩ := ha c.call hm
        rcases mem_cons.1 hc' with rfl | hc'
        · exact hle
        · exact absurd (hca ▸ mem_map_of_mem hc') hf
      rw [← Finset.add_sum_erase calls w hm]
      exact add_le_add hi hr
    · rw [Finset.erase_eq_of_notMem hm] at hr
      have hnon := ho c mem_cons_self
      linarith

lemma sum_le_of_within (hp : 0 ≤ cap) (hr : 0 ≤ rate)
    (g : Gauged txs level filledAt cap rate cost) (h : Linked txs log)
    (hno : (log.map Commit.call).Nodup) {a b : α} (ha : a ≤ b) {w : Nat → α} (calls : Finset Nat)
    (hl : ∀ t ∈ calls, ∃ c ∈ log, c.call = t ∧ (drawOf level cost c).Within a b ∧
      w t ≤ cost c.call c.row c.readAt) : ∑ t ∈ calls, w t ≤ cap + (b - a) * rate := by
  have hm := g.metered hp h
  have hi := hm.window hp hr ha
  rw [filter_map] at hi
  refine le_trans (sum_le_drawn calls ?_ ?_ ?_) hi
  · exact hno.sublist (List.Sublist.map _ filter_sublist)
  · intro c hc
    exact (hm.fits _ (mem_map_of_mem (mem_of_mem_filter hc))).cost
  · intro t ht
    obtain ⟨c, hc, hca, hw, hle⟩ := hl t ht
    exact ⟨c, mem_filter.2 ⟨hc, decide_eq_true hw⟩, hca, hle⟩

end

end WattGateway
