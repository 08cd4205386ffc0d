import Mathlib.Tactic.FieldSimp
import WattGateway.Lib.Bucket
import WattGateway.Message.Types

/-!
# The shared token buckets

`acquire_global_token` and `acquire_non_global_delivery_tokens` of `db.rs`, with floating point
numbers and times as rationals and without the columns that nothing reads. `interactive_granted_iff`
is the reserve for Interactive traffic, and `load_bounded` bounds what any calls on any instances
are granted.
-/

namespace WattGateway.Message

open RowLock List

/-- `network_id` and `routing_cell_id`. -/
abbrev BucketKey := String × String

/-! ## The Global bucket -/

/-- A row of `gateway_global_rate_buckets`. -/
structure GlobalBucket where
  totalTokens : ℚ
  bulkTokens : ℚ
  lastRefillAt : ℚ
  deriving DecidableEq

variable {txs : Nat → Tx BucketKey GlobalBucket Bool ℚ} {s : State BucketKey GlobalBucket Bool ℚ}

/-- The rates and the burst that a call passes. -/
structure GlobalRates where
  totalRate : Nat
  bulkRate : Nat
  burst : Nat

namespace GlobalRates

variable (p : GlobalRates)

/-- `burst.saturating_sub(1).max(1)`. -/
def bulkCapacity : ℚ := (max (p.burst - 1) 1 : Nat)

/-- The row of `ensure_bucket`. -/
def ensureBucket (now : ℚ) : GlobalBucket := ⟨p.burst, p.bulkCapacity, now⟩

section

variable (row : GlobalBucket)

def elapsed (now : ℚ) : ℚ := max (now - row.lastRefillAt) 0

def total (now : ℚ) : ℚ :=
  min (row.totalTokens + elapsed row now * p.totalRate) p.burst

def bulk (now : ℚ) : ℚ :=
  min (row.bulkTokens + elapsed row now * p.bulkRate) p.bulkCapacity

end

def allowed (cls : DeliveryClass) (row : GlobalBucket) (now : ℚ) : Bool :=
  1 ≤ p.total row now ∧ (cls = .interactive ∨ 1 ≤ p.bulk row now)

def spent (cls : DeliveryClass) (row : GlobalBucket) (readAt writtenAt : ℚ) : GlobalBucket where
  totalTokens := if p.allowed cls row readAt then p.total row readAt - 1 else p.total row readAt
  bulkTokens := if p.allowed cls row readAt ∧ cls = .bulk then p.bulk row readAt - 1
    else p.bulk row readAt
  lastRefillAt := writtenAt

end GlobalRates

def acquireGlobalToken (key : BucketKey) (cls : DeliveryClass) (p : GlobalRates) :
    Tx BucketKey GlobalBucket Bool ℚ where
  key := key
  insert := p.ensureBucket
  update := fun row readAt => (p.spent cls row readAt, p.allowed cls row readAt)

/-! ## The other bucket -/

/-- A row of `gateway_non_global_rate_buckets`. -/
structure NonGlobalBucket where
  tokens : ℚ
  lastRefillAt : ℚ
  deriving DecidableEq

def NonGlobalBucket.available (rate : Nat) (row : NonGlobalBucket) (now : ℚ) : ℚ :=
  min (row.tokens + max (now - row.lastRefillAt) 0 * rate) rate

/-- The answer that needs no bucket. -/
def answerEarly (cost rate : Nat) : Option Bool :=
  if cost = 0 then some true else if rate = 0 ∨ rate < cost then some false else none

def NonGlobalBucket.acquireNonGlobalDeliveryTokens (key : BucketKey) (cost rate : Nat) :
    Tx BucketKey NonGlobalBucket Bool ℚ where
  key := key
  insert := fun now => ⟨rate, now⟩
  update := fun row readAt =>
    let available := row.available rate readAt
    (fun writtenAt => ⟨if (cost : ℚ) ≤ available then available - cost else available, writtenAt⟩,
      (cost : ℚ) ≤ available)

/-! ## The reserve of Interactive calls -/

structure GlobalCall where
  cls : DeliveryClass
  time : ℚ

/-- A call at one clock reading, with the row if there is one. -/
def GlobalRates.acquire (p : GlobalRates) (row : Option GlobalBucket) (c : GlobalCall) :
    Bool × GlobalBucket :=
  let row := row.getD (p.ensureBucket c.time)
  (p.allowed c.cls row c.time, p.spent c.cls row c.time c.time)

variable {key : BucketKey} {t : Nat}

theorem acquireGlobalToken_alone
    {cls : DeliveryClass} {p : GlobalRates} (ht : txs t = acquireGlobalToken key cls p)
    (hp : s.phases t = .begun) (hf : s.held key = none) :
    let s' := s.run txs (List.replicate 4 (.run t .ok))
    let (granted, row) := p.acquire (s.rows key) ⟨cls, s.now⟩
    s'.rows key = some row ∧ ∃ x, s'.phases t = .committed x granted := by
  have ha := run_alone txs hp (by rw [ht]; exact hf)
  rw [ht] at ha
  exact ⟨ha.1, _, ha.2.2⟩

/-- Calls one after another, each with its answer. -/
def GlobalRates.answers (p : GlobalRates) : Option GlobalBucket → List GlobalCall →
    List (GlobalCall × Bool)
  | _, [] => []
  | row, c :: rest => (c, (p.acquire row c).1) :: p.answers (some (p.acquire row c).2) rest

section

variable {p : GlobalRates} {row : GlobalBucket} {now : ℚ}

lemma bulkCapacity_of_two_le (hb : 2 ≤ p.burst) : p.bulkCapacity = p.burst - 1 := by
  have hm : max (p.burst - 1) 1 = p.burst - 1 := by omega
  unfold GlobalRates.bulkCapacity
  rw [hm, Nat.cast_sub (by omega)]
  rfl

lemma bulkCapacity_pos (p : GlobalRates) : 0 ≤ p.bulkCapacity := Nat.cast_nonneg _

lemma bulk_nonneg (hu : 0 ≤ row.bulkTokens) : 0 ≤ p.bulk row now :=
  le_min (add_nonneg hu (mul_nonneg (le_max_right _ _) (Nat.cast_nonneg _))) (bulkCapacity_pos p)

/-- The total bucket gains on the bulk bucket, up to one token. -/
lemma lead_refilled (hb : 2 ≤ p.burst) (row : GlobalBucket) (now : ℚ) :
    min 1 (row.totalTokens - row.bulkTokens +
        GlobalRates.elapsed row now * (p.totalRate - p.bulkRate)) ≤
      p.total row now - p.bulk row now := by
  have hc := bulkCapacity_of_two_le hb
  have hu : p.bulk row now ≤ row.bulkTokens + GlobalRates.elapsed row now * p.bulkRate :=
    min_le_left _ _
  have hu' : p.bulk row now ≤ p.bulkCapacity := min_le_right _ _
  unfold GlobalRates.total
  rcases le_total (row.totalTokens + GlobalRates.elapsed row now * p.totalRate) p.burst with hle | hle
  · rw [min_eq_left hle]
    refine (min_le_right _ _).trans ?_
    rw [mul_sub]
    linarith
  · rw [min_eq_right hle]
    refine (min_le_left _ _).trans ?_
    linarith

/-- What the total bucket has gained on the bulk bucket since the last Interactive call, up to one
token. -/
def GlobalRates.gained (p : GlobalRates) (last : Option ℚ) (now : ℚ) : ℚ :=
  match last with
  | none => 1
  | some t => min 1 ((now - t) * (p.totalRate - p.bulkRate))

/-- The total bucket is ahead of the bulk bucket by what it has gained. -/
structure Ahead (p : GlobalRates) (last : Option ℚ) (row : GlobalBucket) : Prop where
  bulk : 0 ≤ row.bulkTokens
  lead : p.gained last row.lastRefillAt ≤ row.totalTokens - row.bulkTokens

variable {last : Option ℚ}

section

variable (hb : 2 ≤ p.burst) (hra : (p.bulkRate : ℚ) < p.totalRate) (h : Ahead p last row)
  (hnow : row.lastRefillAt ≤ now)
include hb hra h hnow

lemma Ahead.refilled : p.gained last now ≤ p.total row now - p.bulk row now := by
  have ha : 0 < (p.totalRate : ℚ) - p.bulkRate := sub_pos.2 hra
  have he : GlobalRates.elapsed row now = now - row.lastRefillAt :=
    max_eq_left (sub_nonneg.2 hnow)
  have hg : 0 ≤ (now - row.lastRefillAt) * ((p.totalRate : ℚ) - p.bulkRate) :=
    mul_nonneg (sub_nonneg.2 hnow) ha.le
  have hl := lead_refilled hb row now
  rw [he] at hl
  have hold := h.lead
  cases last with
  | none =>
    refine le_trans (le_min le_rfl ?_) hl
    have ho : 1 ≤ row.totalTokens - row.bulkTokens := hold
    show (1 : ℚ) ≤ _
    linarith
  | some t =>
    refine le_trans (le_min (min_le_left _ _) ?_) hl
    unfold GlobalRates.gained at hold ⊢
    have hs : (now - t) * ((p.totalRate : ℚ) - p.bulkRate) =
        (row.lastRefillAt - t) * (p.totalRate - p.bulkRate) +
          (now - row.lastRefillAt) * (p.totalRate - p.bulkRate) := by ring
    simp only [hs]
    rcases le_total 1 ((row.lastRefillAt - t) * ((p.totalRate : ℚ) - p.bulkRate)) with hle | hle
    · simp only [min_eq_left hle] at hold
      exact (min_le_left _ _).trans (by linarith)
    · simp only [min_eq_right hle] at hold
      exact (min_le_right _ _).trans (by linarith)

lemma Ahead.bulkCall : Ahead p last (p.spent .bulk row now now) := by
  have hle := h.refilled hb hra hnow
  have hu : 0 ≤ p.bulk row now := bulk_nonneg h.bulk
  cases ha : p.allowed .bulk row now with
  | false => exact ⟨by simpa [GlobalRates.spent, ha] using hu,
      by simpa [GlobalRates.spent, ha] using hle⟩
  | true =>
    have ho : 1 ≤ p.bulk row now := by
      obtain ⟨-, hc | ho⟩ := of_decide_eq_true ha
      · cases hc
      · exact ho
    refine ⟨by simpa [GlobalRates.spent, ha] using ho, ?_⟩
    have hs : p.total row now - 1 - (p.bulk row now - 1) = p.total row now - p.bulk row now := by
      ring
    simpa [GlobalRates.spent, ha, hs] using hle

lemma Ahead.interactiveCall (hla : ∀ t ∈ last, t + 1 / (p.totalRate - p.bulkRate) ≤ now) :
    p.allowed .interactive row now = true ∧
      Ahead p (some now) (p.spent .interactive row now now) := by
  have hga : 0 < (p.totalRate : ℚ) - p.bulkRate := sub_pos.2 hra
  have hu : 0 ≤ p.bulk row now := bulk_nonneg h.bulk
  have hl := h.refilled hb hra hnow
  have ho : 1 ≤ p.total row now - p.bulk row now := by
    cases last with
    | none => exact hl
    | some t =>
      have ht : 1 / ((p.totalRate : ℚ) - p.bulkRate) ≤ now - t := by
        have hle := hla t rfl
        linarith
      have hg : 1 ≤ (now - t) * ((p.totalRate : ℚ) - p.bulkRate) := (div_le_iff₀ hga).1 ht
      unfold GlobalRates.gained at hl
      simp only [min_eq_left hg] at hl
      exact hl
  have ha : p.allowed .interactive row now = true := by
    refine decide_eq_true ⟨?_, .inl rfl⟩
    linarith
  refine ⟨ha, by simpa [GlobalRates.spent] using hu, ?_⟩
  have hz : 0 ≤ p.total row now - 1 - p.bulk row now := by linarith
  simpa [GlobalRates.spent, GlobalRates.gained, ha] using hz

end

lemma ahead_ensureBucket (hb : 2 ≤ p.burst) (now : ℚ) : Ahead p none (p.ensureBucket now) := by
  refine ⟨bulkCapacity_pos p, ?_⟩
  show 1 ≤ (p.burst : ℚ) - p.bulkCapacity
  rw [bulkCapacity_of_two_le hb]
  linarith

def interactives (calls : List GlobalCall) : List GlobalCall :=
  calls.filter fun c => c.cls = .interactive

lemma answers_of_ahead (hb : 2 ≤ p.burst) (hra : (p.bulkRate : ℚ) < p.totalRate)
    (last : Option ℚ) {row : Option GlobalBucket} {calls : List GlobalCall}
    (ho : ∀ r ∈ row, Ahead p last r ∧ ∀ c ∈ calls, r.lastRefillAt ≤ c.time)
    (hno : row = none → last = none)
    (hti : calls.Pairwise fun c c' => c.time ≤ c'.time)
    (ha : (interactives calls).Pairwise fun c c' =>
      c.time + 1 / ((p.totalRate : ℚ) - p.bulkRate) ≤ c'.time)
    (hl : ∀ t ∈ last, ∀ c ∈ interactives calls, t + 1 / ((p.totalRate : ℚ) - p.bulkRate) ≤ c.time) :
    ∀ x ∈ p.answers row calls, x.1.cls = .interactive → x.2 = true := by
  induction calls generalizing row last with
  | nil => exact fun x hx => nomatch hx
  | cons c rest ih =>
    obtain ⟨hf, hti⟩ := pairwise_cons.1 hti
    have hh : Ahead p last (row.getD (p.ensureBucket c.time)) ∧
        (row.getD (p.ensureBucket c.time)).lastRefillAt ≤ c.time := by
      cases row with
      | none =>
        rw [hno rfl]
        exact ⟨ahead_ensureBucket hb c.time, le_rfl⟩
      | some r => exact ⟨(ho r rfl).1, (ho r rfl).2 c mem_cons_self⟩
    have hne : ∀ last', Ahead p last' (p.acquire row c).2 → ∀ r ∈ some (p.acquire row c).2,
        Ahead p last' r ∧ ∀ c' ∈ rest, r.lastRefillAt ≤ c'.time := by
      intro _ hh' _ hr
      cases hr
      exact ⟨hh', hf⟩
    intro x hx
    cases hc : c.cls with
    | bulk =>
      have hs : interactives (c :: rest) = interactives rest := by
        simp [interactives, hc]
      rw [hs] at ha hl
      rcases mem_cons.1 hx with rfl | hx
      · intro hi
        cases hc.symm.trans hi
      · refine ih last (hne last ?_) nofun hti ha hl x hx
        unfold GlobalRates.acquire
        rw [hc]
        exact hh.1.bulkCall hb hra hh.2
    | interactive =>
      have hta : interactives (c :: rest) = c :: interactives rest := by
        simp [interactives, hc]
      rw [hta] at ha hl
      obtain ⟨hg, ha⟩ := pairwise_cons.1 ha
      have hca := hh.1.interactiveCall hb hra hh.2 fun t ht => hl t ht c mem_cons_self
      rcases mem_cons.1 hx with rfl | hx
      · intro _
        unfold GlobalRates.acquire
        rw [hc]
        exact hca.1
      · refine ih (some c.time) (hne (some c.time) ?_) nofun hti ha ?_ x hx
        · unfold GlobalRates.acquire
          rw [hc]
          exact hca.2
        · intro _ ht
          cases ht
          exact hg

lemma refused_of_burst_le_one (hb : p.burst ≤ 1) :
    (⟨.interactive, 0⟩, false) ∈ p.answers none [⟨.bulk, 0⟩, ⟨.interactive, 0⟩] := by
  obtain ⟨_, _, burst⟩ := p
  refine mem_cons_of_mem _ (mem_cons.2 (Or.inl (Prod.ext rfl ?_)))
  have hc : burst = 0 ∨ burst = 1 := by
    simp only at hb
    omega
  rcases hc with rfl | rfl
  · simp [GlobalRates.acquire, GlobalRates.allowed, GlobalRates.total]
  · simp [GlobalRates.acquire, GlobalRates.allowed, GlobalRates.spent, GlobalRates.total,
      GlobalRates.bulk, GlobalRates.elapsed, GlobalRates.ensureBucket, GlobalRates.bulkCapacity]

end

/-- Interactive calls that leave the buckets the time to gain one token on each other are granted,
whatever Bulk calls come in between, if and only if the burst is at least two. -/
theorem interactive_granted_iff (totalRate bulkRate burst : Nat) (hrate : bulkRate < totalRate) :
    (∀ calls : List GlobalCall, calls.Pairwise (fun c c' => c.time ≤ c'.time) →
      (interactives calls).Pairwise (fun c c' =>
        c.time + 1 / ((totalRate : ℚ) - bulkRate) ≤ c'.time) →
      ∀ x ∈ GlobalRates.answers ⟨totalRate, bulkRate, burst⟩ none calls,
        x.1.cls = .interactive → x.2 = true) ↔ 2 ≤ burst := by
  constructor
  · intro h
    by_contra hb
    have hr := refused_of_burst_le_one (p := ⟨totalRate, bulkRate, burst⟩)
      (Nat.le_of_lt_succ (not_le.1 hb))
    have hg := h [⟨.bulk, 0⟩, ⟨.interactive, 0⟩] (by simp) (by simp [interactives]) _ hr rfl
    cases hg
  · intro hb _ ht ha
    exact answers_of_ahead (p := ⟨totalRate, bulkRate, burst⟩) hb (Nat.cast_lt.2 hrate)
      none nofun (fun _ => rfl) ht ha nofun

theorem interactive_granted_iff_twenty :
    15 < 20 ∧ ((∀ calls : List GlobalCall, calls.Pairwise (fun c c' => c.time ≤ c'.time) →
      (interactives calls).Pairwise (fun c c' =>
        c.time + 1 / (((20 : Nat) : ℚ) - (15 : Nat)) ≤ c'.time) →
      ∀ x ∈ GlobalRates.answers ⟨20, 15, 20⟩ none calls, x.1.cls = .interactive → x.2 = true) ↔
        2 ≤ 20) :=
  ⟨by decide, interactive_granted_iff 20 15 20 (by decide)⟩

/-! ## Bounds on the load -/

section

variable {p : GlobalRates}
  (calls : Nat → BucketKey × DeliveryClass)

section

variable (htxs : ∀ t, txs t = acquireGlobalToken (calls t).1 (calls t).2 p)
include htxs

lemma gauged_total :
    Gauged txs GlobalBucket.totalTokens GlobalBucket.lastRefillAt (p.burst : ℚ) (p.totalRate : ℚ)
      fun t row readAt => if p.allowed (calls t).2 row readAt then 1 else 0 where
  insert t now := by
    rw [htxs]
    exact ⟨rfl, rfl⟩
  filled t row readAt now := by
    rw [htxs]
    rfl
  draw t row readAt now hle hf := by
    rw [htxs]
    have he : GlobalRates.elapsed row readAt = readAt - row.lastRefillAt :=
      max_eq_left (sub_nonneg.2 hf)
    have ht : p.total row readAt =
        min (row.totalTokens + (readAt - row.lastRefillAt) * p.totalRate) p.burst := by
      unfold GlobalRates.total
      rw [he]
    have hno : 0 ≤ p.total row readAt := by
      rw [ht]
      exact le_min (add_nonneg hle (mul_nonneg (sub_nonneg.2 hf) (Nat.cast_nonneg _)))
        (Nat.cast_nonneg _)
    rw [← ht]
    cases ha : p.allowed (calls t).2 row readAt with
    | false => simpa [acquireGlobalToken, GlobalRates.spent, ha] using hno
    | true =>
      have ho : 1 ≤ p.total row readAt := (of_decide_eq_true ha).1
      simpa [acquireGlobalToken, GlobalRates.spent, ha] using ho

lemma gauged_bulk :
    Gauged txs GlobalBucket.bulkTokens GlobalBucket.lastRefillAt p.bulkCapacity (p.bulkRate : ℚ)
      fun t row readAt => if p.allowed (calls t).2 row readAt ∧ (calls t).2 = .bulk then 1 else 0 where
  insert t now := by
    rw [htxs]
    exact ⟨rfl, rfl⟩
  filled t row readAt now := by
    rw [htxs]
    rfl
  draw t row readAt now hle hf := by
    rw [htxs]
    have he : GlobalRates.elapsed row readAt = readAt - row.lastRefillAt :=
      max_eq_left (sub_nonneg.2 hf)
    have hu : p.bulk row readAt =
        min (row.bulkTokens + (readAt - row.lastRefillAt) * p.bulkRate) p.bulkCapacity := by
      unfold GlobalRates.bulk
      rw [he]
    have hno : 0 ≤ p.bulk row readAt := bulk_nonneg hle
    rw [← hu]
    by_cases hs : p.allowed (calls t).2 row readAt = true ∧ (calls t).2 = .bulk
    · have ho : 1 ≤ p.bulk row readAt := by
        obtain ⟨-, hc | ho⟩ := of_decide_eq_true hs.1
        · cases hs.2.symm.trans hc
        · exact ho
      have ha : p.allowed .bulk row readAt = true := hs.2 ▸ hs.1
      simpa [acquireGlobalToken, GlobalRates.spent, hs.2, ha] using ho
    · simpa [acquireGlobalToken, GlobalRates.spent, hs] using hno

end

end

lemma gauged_nonGlobal (rate : Nat) {txs : Nat → Tx BucketKey NonGlobalBucket Bool ℚ}
    (calls : Nat → BucketKey × Nat)
    (htxs : ∀ t, txs t = NonGlobalBucket.acquireNonGlobalDeliveryTokens (calls t).1 (calls t).2 rate) :
    Gauged txs NonGlobalBucket.tokens NonGlobalBucket.lastRefillAt (rate : ℚ) (rate : ℚ)
      fun t row readAt => if ((calls t).2 : ℚ) ≤ row.available rate readAt then (calls t).2 else 0 where
  insert t now := by
    rw [htxs]
    exact ⟨rfl, rfl⟩
  filled t row readAt now := by
    rw [htxs]
    rfl
  draw t row readAt now hle hf := by
    rw [htxs]
    have ha : row.available rate readAt =
        min (row.tokens + (readAt - row.lastRefillAt) * rate) rate := by
      unfold NonGlobalBucket.available
      rw [max_eq_left (sub_nonneg.2 hf)]
    have hno : 0 ≤ row.available rate readAt := by
      rw [ha]
      exact le_min (add_nonneg hle (mul_nonneg (sub_nonneg.2 hf) (Nat.cast_nonneg _)))
        (Nat.cast_nonneg _)
    rw [← ha]
    by_cases hg : ((calls t).2 : ℚ) ≤ row.available rate readAt
    · simp [NonGlobalBucket.acquireNonGlobalDeliveryTokens, hg]
    · simpa [NonGlobalBucket.acquireNonGlobalDeliveryTokens, hg] using hno

/-- The call has been granted its tokens, between its read and its write of the bucket at some time
of the interval. -/
def GrantedWithin {R : Type} (s : State BucketKey R Bool ℚ) (a b : ℚ) (t : Nat) : Prop :=
  ∃ x, s.phases t = .committed x true ∧ a ≤ x.writtenAt ∧ x.readAt ≤ b

section

variable {R : Type} {txs : Nat → Tx BucketKey R Bool ℚ} {level filledAt : R → ℚ} {cap rate : ℚ}
  {cost : Nat → R → ℚ → ℚ} {s : State BucketKey R Bool ℚ}

lemma granted_le (hc : 0 ≤ cap) (hra : 0 ≤ rate) (g : Gauged txs level filledAt cap rate cost)
    (h : Inv txs s) {a b : ℚ} (hab : a ≤ b) (key : BucketKey) {w : Nat → ℚ} (granted : Finset Nat)
    (hg : ∀ t ∈ granted, (txs t).key = key ∧ GrantedWithin s a b t)
    (hw : ∀ t ∈ granted, ∀ row readAt, ((txs t).update row readAt).2 = true →
      w t ≤ cost t row readAt) : ∑ t ∈ granted, w t ≤ cap + (b - a) * rate := by
  refine sum_le_of_within hc hra g (h.linked key) (h.nodup key) hab granted fun t ht => ?_
  obtain ⟨rfl, x, hp, hwr, hr⟩ := hg t ht
  obtain ⟨hm, ha⟩ := h.committed t x true hp
  exact ⟨_, hm, rfl, ⟨hwr, hr⟩, hw t ht _ _ ha.symm⟩

lemma stored_le (ha : 0 ≤ cap) (g : Gauged txs level filledAt cap rate cost) (h : Inv txs s)
    {row : R} (hr : s.rows key = some row) : 0 ≤ level row ∧ level row ≤ cap := by
  rw [h.rows] at hr
  obtain ⟨_, hc, rfl⟩ := Option.map_eq_some_iff.1 hr
  have hf := (g.metered ha (h.linked key)).fits _
    (mem_map_of_mem (mem_of_mem_head? hc))
  exact ⟨hf.level, (le_add_of_nonneg_right hf.cost).trans hf.cap⟩

end

lemma cost_of_answerEarly {cost rate : Nat} (h : answerEarly cost rate = some true) : cost = 0 := by
  unfold answerEarly at h
  split at h
  · assumption
  · split at h <;> cases h

/-- In every run of calls on any instances, whatever the interleaving and the failures, the tokens
granted in an interval are at most the capacity of the bucket and what it gains in the interval, and
the stored levels are within the capacity. -/
theorem load_bounded (p : GlobalRates) (rate : Nat) (calls : Nat → BucketKey × DeliveryClass)
    (deliveries : Nat → BucketKey × Nat) (startedAt : ℚ) (moves moves' : List (Move ℚ))
    (key : BucketKey) (a b : ℚ) (hab : a ≤ b) :
    let s := (State.start startedAt fun _ => none).run
      (fun t => acquireGlobalToken (calls t).1 (calls t).2 p) moves
    let s' := (State.start startedAt fun t => answerEarly (deliveries t).2 rate).run
      (fun t => NonGlobalBucket.acquireNonGlobalDeliveryTokens (deliveries t).1 (deliveries t).2 rate) moves'
    (∀ granted : Finset Nat, (∀ t ∈ granted, (calls t).1 = key ∧ GrantedWithin s a b t) →
      (granted.card : ℚ) ≤ p.burst + p.totalRate * (b - a) ∧ ((∀ t ∈ granted, (calls t).2 = .bulk) →
        (granted.card : ℚ) ≤ (max (p.burst - 1) 1 : Nat) + p.bulkRate * (b - a))) ∧
    (∀ row, s.rows key = some row → (0 ≤ row.totalTokens ∧ row.totalTokens ≤ p.burst) ∧
      0 ≤ row.bulkTokens ∧ row.bulkTokens ≤ (max (p.burst - 1) 1 : Nat)) ∧
    (∀ granted : Finset Nat, (∀ t ∈ granted, (deliveries t).1 = key ∧
        (s'.phases t = .answered true ∨ GrantedWithin s' a b t)) →
      ∑ t ∈ granted, ((deliveries t).2 : ℚ) ≤ rate + rate * (b - a)) ∧
    ∀ row, s'.rows key = some row → 0 ≤ row.tokens ∧ row.tokens ≤ rate := by
  intro s s'
  have hi : Inv (fun t => acquireGlobalToken (calls t).1 (calls t).2 p) s := inv_run _ _ _ _
  have hi' : Inv (fun t => NonGlobalBucket.acquireNonGlobalDeliveryTokens (deliveries t).1
      (deliveries t).2 rate) s' := inv_run _ _ _ _
  have hto := gauged_total (p := p) calls fun t => rfl
  have hu := gauged_bulk (p := p) calls fun t => rfl
  have ho := gauged_nonGlobal rate deliveries fun t => rfl
  refine ⟨fun granted hg => ⟨?_, fun hl => ?_⟩, fun row hr => ⟨?_, ?_⟩,
    fun granted hg => ?_, fun row hr => ?_⟩
  · have hle := granted_le (w := fun _ => 1) (Nat.cast_nonneg _) (Nat.cast_nonneg _) hto hi hab
      key granted hg fun t _ row readAt ha => by
        simp only [acquireGlobalToken] at ha
        simp [ha]
    simpa [mul_comm] using hle
  · have hle := granted_le (w := fun _ => 1) (bulkCapacity_pos p) (Nat.cast_nonneg _) hu hi hab
      key granted hg fun t ht row readAt ha => by
        simp only [acquireGlobalToken] at ha
        rw [if_pos ⟨ha, hl t ht⟩]
    simpa [GlobalRates.bulkCapacity, mul_comm] using hle
  · exact stored_le (Nat.cast_nonneg _) hto hi hr
  · exact stored_le (bulkCapacity_pos p) hu hi hr
  · -- calls that were answered without a bucket have no cost
    rw [← Finset.sum_filter_ne_zero]
    have hle := granted_le (w := fun t => ((deliveries t).2 : ℚ)) (Nat.cast_nonneg _)
      (Nat.cast_nonneg _) ho hi' hab key
      (granted.filter fun t => ((deliveries t).2 : ℚ) ≠ 0) (fun t ht => ?_)
      fun t _ row readAt ha => by
        have hc := of_decide_eq_true ha
        rw [if_pos hc]
    · simpa [mul_comm] using hle
    · obtain ⟨ht, hne⟩ := Finset.mem_filter.1 ht
      obtain ⟨hk, hn | hg⟩ := hg t ht
      · have hz : (deliveries t).2 = 0 :=
          cost_of_answerEarly
            (answered_run startedAt (fun t => answerEarly (deliveries t).2 rate) moves' hn)
        rw [hz] at hne
        exact absurd Nat.cast_zero hne
      · exact ⟨hk, hg⟩
  · exact stored_le (Nat.cast_nonneg _) ho hi' hr

/-! ### One run -/

namespace Buckets

def rates : GlobalRates := ⟨1, 1, 2⟩

def moves : List (Move ℚ) :=
  [.run 0 .ok, .run 1 .ok, .run 0 .ok, .run 1 .ok, .run 0 .ok, .run 0 .ok, .run 1 .ok, .run 1 .ok,
    .run 1 .ok, .run 1 .ok, .tick 1, .run 2 .ok, .run 2 .ok, .run 2 .ok, .run 2 .ok]

def calls : Nat → BucketKey × DeliveryClass := fun _ => (("net", "cell-0"), .interactive)

def deliveries : Nat → BucketKey × Nat := fun _ => (("net", "cell-0"), 1)

def grantedBy (s : State BucketKey GlobalBucket Bool ℚ) (b : ℚ) (t : Nat) : Bool :=
  match s.phases t with
  | .committed x true => 0 ≤ x.writtenAt ∧ x.readAt ≤ b
  | _ => false

lemma grantedWithin_of {b : ℚ} (h : grantedBy s b t = true) : GrantedWithin s 0 b t := by
  unfold grantedBy at h
  split at h
  · rename_i x hp
    exact ⟨x, hp, of_decide_eq_true h⟩
  · cases h

end Buckets

set_option maxRecDepth 100000

open Buckets in
theorem load_bounded_three :
    let s := (State.start 0 fun _ => none).run
      (fun t => acquireGlobalToken (calls t).1 (calls t).2 rates) moves
    (∀ t ∈ Finset.range 3, GrantedWithin s 0 1 t) ∧
      ((Finset.range 3).card : ℚ) ≤ rates.burst + rates.totalRate * (1 - 0) := by
  intro s
  have hg : ∀ t ∈ Finset.range 3, GrantedWithin s 0 1 t := by
    have he : ∀ t ∈ Finset.range 3, grantedBy s 1 t = true := by decide +kernel
    exact fun t ht => grantedWithin_of (he t ht)
  refine ⟨hg, ?_⟩
  exact ((load_bounded rates 2 calls deliveries 0 moves moves ("net", "cell-0") 0 1 (by norm_num)).1
    (Finset.range 3) fun t ht => ⟨rfl, hg t ht⟩).1

end WattGateway.Message
