import WattGateway.Gateway.Merge
import WattGateway.Gateway.Kinds
import Mathlib.Data.Prod.Lex
import Mathlib.Data.Rat.Floor

/-!
# Which time counts

Times reach the read side as seconds, milliseconds and text, and lists are sorted by the number
alone. So a list has the newest rows just if its numbers order them as their instants do
(`newest_kept_iff`), and the leaderboard is sorted by the times of rows, not by their scores
(`leaderboard_by_score_iff`). An event's own time is read by the threshold of the database on one
path of three (`one_event_time_iff`). For snapshots the threshold of the statement and that of the
freshness test give one order (`freshness_agrees`).
-/

namespace WattGateway.Gateway

open TopK

/-! ## The leaderboard -/

def intAt (value : Json) (key : String) : Int :=
  match value.get key with
  | some (.number (.int n)) => n
  | _ => 0

/-- What the leaderboard is to be ordered by: the score, then watt, then the time. -/
def standing (X : Deployment) (value : Json) : Int ×ₗ Int ×ₗ Int :=
  toLex (intAt value "score", toLex (intAt value "watt",
    (firstTimestamp X value ["updated_at", "created_at", "snapshot_generated_at"]).getD 0))

/-- The fields of `topic_sort_timestamp`. -/
def timeFields : List String :=
  ["last_message_at", "updated_at", "created_at", "timestamp", "sent_at", "snapshot_generated_at"]

section

variable (X : Deployment)

/-- The first time of a row that can be read, unless it is zero. -/
def ownTime (value : Json) : Option Int :=
  (firstTimestamp X value timeFields).filter (· ≠ 0)

/-- The score of a row, or what can be read in place of one that is no `i64`. -/
def ownScore (value : Json) : Int :=
  (firstTimestamp X value leaderboardSortKeys).getD 0

/-- The row `a` is listed before `b`: the times decide, and the score stands in for a time that is
missing. -/
def ListedBefore (a b : Json) : Prop :=
  match ownTime X a, ownTime X b with
  | some t, some u => u < t
  | some t, none => ownScore X b < t
  | none, some u => u < ownScore X a
  | none, none => ownScore X b < ownScore X a

lemma timestampWithFallback_eq (value : Json) : timestampWithFallback X value leaderboardSortKeys =
      (ownTime X value).getD (ownScore X value) := by
  have ht : topicSortTimestamp X value = (firstTimestamp X value timeFields).getD 0 := rfl
  rw [timestampWithFallback, ht, ownTime, ownScore]
  cases firstTimestamp X value timeFields with
  | none => rfl
  | some t => by_cases h : t = 0 <;> simp [h, Option.filter]

lemma listedBefore_iff (a b : Json) : ListedBefore X a b ↔
    timestampWithFallback X b leaderboardSortKeys <
      timestampWithFallback X a leaderboardSortKeys := by
  rw [timestampWithFallback_eq, timestampWithFallback_eq, ListedBefore]
  cases ownTime X a <;> cases ownTime X b <;> rfl

end

/-- Federated pages of rows of a set are ordered by standing just if of two rows of it the one with
the higher standing has the later time, or the higher score where neither has a time. -/
theorem leaderboard_by_score_iff (X : Deployment) (S : Set Json) :
    (∀ query values federated, federationEnabled query.federation →
      (∀ row ∈ values ++ federated, row ∈ S) →
      (leaderboard X query values federated).Pairwise fun a b => standing X b ≤ standing X a) ↔
    ∀ a ∈ S, ∀ b ∈ S, Separate rankingIdentityKey a b → standing X b < standing X a →
      ListedBefore X a b := by
  simp only [listedBefore_iff]
  rw [← topBy_ranked_iff]
  constructor
  · intro h k rows hr
    have hp := h ⟨some k, none⟩ rows [] rfl (by simpa using hr)
    rw [leaderboard, federatedProjectionPage_eq rfl, List.append_nil] at hp
    exact hp
  · intro h _ _ _ hf hr
    rw [leaderboard, federatedProjectionPage_eq hf]
    exact h _ _ hr

/-- Two rows of snapshots: the one that was generated last is listed first, with half the score. -/
theorem leaderboard_ignores_score :
    let row (id : String) (score generatedAt : Int) := attachGeneratedAt
      (.object [("agent_did", .string id), ("score", .ofInt score)]) generatedAt
    (leaderboard smallDeployment ⟨none, none⟩ [row "a" 10 1, row "b" 5 2] []).map
      (intAt · "score") = [5, 10] := by
  decide

/-! ## The newest rows -/

/-- A time in seconds, with a fraction in nanoseconds, or in milliseconds. -/
inductive RowTime where
  | seconds (s nanos : Int)
  | milliseconds (m : Int)
  deriving DecidableEq

namespace RowTime

def instant : RowTime → Int ×ₗ Int
  | .seconds s nanos => toLex (s, nanos)
  | .milliseconds m => toLex (m / 1000, m % 1000 * 1000000)

/-- The number that is compared. -/
def number : RowTime → Int
  | .seconds s _ => s
  | .milliseconds m => m

/-- Two times in seconds do not differ in the fraction alone, and of one in seconds and one in
milliseconds the later is the greater number. -/
def Comparable : RowTime → RowTime → Prop
  | .seconds s f, .seconds s' f' => s = s' → f = f'
  | .seconds s f, .milliseconds m | .milliseconds m, .seconds s f =>
    ((milliseconds m).instant < toLex (s, f) → m < s) ∧
      (toLex (s, f) < (milliseconds m).instant → s < m)
  | .milliseconds _, .milliseconds _ => True

lemma comparable_iff (x y : RowTime) : Comparable x y ↔
    (x.instant < y.instant → x.number < y.number) ∧
      (y.instant < x.instant → y.number < x.number) := by
  cases x <;> cases y <;>
    simp only [Comparable, instant, number, Prod.Lex.toLex_lt_toLex, true_iff] <;> omega

end RowTime

/-- A number is read by the threshold of the database, a text as RFC 3339. -/
def timeOf (X : Deployment) : Json → Option RowTime
  | .number (.int n) =>
    if -2 ^ 63 ≤ n ∧ n < 2 ^ 63 then
      some (if 100000000000 ≤ n.natAbs then .milliseconds n else .seconds n 0)
    else none
  | .string s => (X.parseFromRfc3339 s).map fun t => .seconds t.1 t.2
  | _ => none

/-- The time of a row, which its first time field holds. -/
def rowTime (X : Deployment) (value : Json) : Option RowTime :=
  (timeFields.findSome? value.get).bind (timeOf X)

lemma valueToTimestamp_eq (X : Deployment) (value : Json) :
    valueToTimestamp X value = (timeOf X value).map RowTime.number := by
  cases value with
  | number n =>
    cases n with
    | int n =>
      simp only [valueToTimestamp, timeOf]
      split_ifs <;> rfl
    | float => rfl
  | string =>
    rw [valueToTimestamp, timeOf, Option.map_map]
    rfl
  | null | bool | array | object => rfl

lemma findSome?_bind_of_first {f : String → Option Json} {g : Json → Option Int} {value : Json}
    {n : Int} (hg : g value = some n) : ∀ keys : List String, keys.findSome? f = some value →
      keys.findSome? (fun key => (f key).bind g) = some n
  | key :: keys, h => by
    rw [List.findSome?_cons] at h ⊢
    cases hf : f key with
    | none => exact findSome?_bind_of_first hg keys (by simpa only [hf] using h)
    | some => simp_all

lemma topicSortTimestamp_eq {X : Deployment} {value : Json} {x : RowTime}
    (h : rowTime X value = some x) : topicSortTimestamp X value = x.number := by
  obtain ⟨v, hv, hx⟩ := Option.bind_eq_some_iff.1 h
  have hf : firstTimestamp X value timeFields = some x.number :=
    findSome?_bind_of_first (by rw [valueToTimestamp_eq, hx]; rfl) _ hv
  show (firstTimestamp X value timeFields).getD 0 = _
  rw [hf]
  rfl

/-- Sorted and deduplicated, the rows of a set whose first time fields hold times are in the order of
their instants and the latest copies of their identities, just if their times are comparable. -/
theorem newest_kept_iff (X : Deployment) (key : Json → Option String) (S : Set Json) :
    let instant value := ((rowTime X value).map RowTime.instant).getD (toLex (0, 0))
    (∀ values, (∀ row ∈ values, row ∈ S ∧ (rowTime X row).isSome) →
      let rows := dedupeValuesByKey key (sortValuesDescByTimestamp X values) []
      rows.Pairwise (fun a b => instant b ≤ instant a) ∧
      ∀ kept ∈ rows, ∀ row ∈ values, ¬ Separate key kept row → instant row ≤ instant kept) ↔
    ∀ a ∈ S, ∀ b ∈ S, ∀ x ∈ rowTime X a, ∀ y ∈ rowTime X b, x.Comparable y := by
  simp only [dedupeValuesByKey_eq]
  refine (dedupeBy_ranked_iff _ {row | row ∈ S ∧ (rowTime X row).isSome}).trans ?_
  simp only [RowTime.comparable_iff]
  constructor
  · intro h a ha b hb x hx y hy
    have hab := h b ⟨hb, Option.isSome_of_mem hy⟩ a ⟨ha, Option.isSome_of_mem hx⟩
    have hba := h a ⟨ha, Option.isSome_of_mem hx⟩ b ⟨hb, Option.isSome_of_mem hy⟩
    simp only [Option.mem_def.1 hx, Option.mem_def.1 hy, topicSortTimestamp_eq hx,
      topicSortTimestamp_eq hy] at hab hba
    exact ⟨hab, hba⟩
  · rintro h a ⟨ha, hx⟩ b ⟨hb, hy⟩ hlt
    obtain ⟨x, hx⟩ := Option.isSome_iff_exists.1 hx
    obtain ⟨y, hy⟩ := Option.isSome_iff_exists.1 hy
    rw [topicSortTimestamp_eq hx, topicSortTimestamp_eq hy]
    simp only [hx, hy] at hlt
    exact (h a ha b hb x hx y hy).2 hlt

/-- A copy in milliseconds is kept in place of one that is a second later, in seconds. -/
theorem milliseconds_kept :
    let row (at_ : Int) : Json := .object [("id", .string "a"), ("updated_at", .ofInt at_)]
    let values := [row 1700000001, row 1700000000000]
    values.map (rowTime smallDeployment) = [some (.seconds 1700000001 0),
      some (.milliseconds 1700000000000)] ∧
    (dedupeValuesByKey topicIdentityKey (sortValuesDescByTimestamp smallDeployment values) []).map
      (topicSortTimestamp smallDeployment) = [1700000000000] := by
  decide

/-! ## The time of an event -/

/-- An event is streamed with its time in seconds, as the threshold of the database reads it, on all
three paths just if its time is below the threshold. -/
theorem one_event_time_iff (event : NodeEventPayload) (sourceId : Option Nat)
    (projection : Option (DataKind × Json)) (cursor now : Nat) :
    (∀ streamed ∈ [ephemeralUiEvent event,
        .ofRow event.eventId ((uiEventRecord event sourceId projection).row cursor now),
        .ofRow event.eventId ((spaceEventRecord event sourceId).row cursor now)],
      streamed.generatedAt = normalizeGeneratedAtMillis event.timestamp / 1000) ↔
    event.timestamp.natAbs < 100000000000 := by
  simp only [List.forall_mem_cons, List.not_mem_nil, false_implies, implies_true, and_true,
    ephemeralUiEvent, uiEventRecord, spaceEventRecord, UiEventRecord.row, GatewayUiEvent.ofRow,
    TimeUnit.instant, normalizeGeneratedAtMillis]
  by_cases h : 100000000000 ≤ event.timestamp.natAbs
  · rw [if_pos h, true_and]
    omega
  · rw [if_neg h, true_and]
    omega

theorem event_time_in_milliseconds :
    let event := { (Protected.event .hiveActivity).payload with timestamp := 1700000000000 }
    (ephemeralUiEvent event).generatedAt = 1700000000000 ∧ (GatewayUiEvent.ofRow event.eventId
        ((uiEventRecord event none none).row 1 0)).generatedAt = 1700000000 := by
  decide

/-! ## Freshness -/

/-- The `to_timestamp` of the upsert, in seconds. -/
def toTimestamp (generatedAt : Int) : ℚ :=
  if 100000000000 ≤ |(generatedAt : ℚ)| then generatedAt / 1000 else generatedAt

def saturatingMul (a b : Int) : Int := max (-2 ^ 63) (min (2 ^ 63 - 1) (a * b))

/-- `snapshot_is_current`, for the stored timestamp. -/
def isCurrent (stored : ℚ) (generatedAt : Int) : Bool :=
  (if 100000000000 ≤ generatedAt.natAbs then generatedAt else saturatingMul generatedAt 1000) ≤
    ⌊stored * 1000⌋

/-- The milliseconds of the model are those of the timestamp. -/
lemma toTimestamp_mul (g : Int) : toTimestamp g * 1000 = normalizeGeneratedAtMillis g := by
  unfold toTimestamp normalizeGeneratedAtMillis
  have h : 100000000000 ≤ |(g : ℚ)| ↔ 100000000000 ≤ g.natAbs := by
    rw [← Int.cast_abs, Int.abs_eq_natAbs]
    exact_mod_cast Iff.rfl
  by_cases hg : 100000000000 ≤ g.natAbs
  · rw [if_pos hg, if_pos (h.2 hg), div_mul_cancel₀ _ (by norm_num)]
  · rw [if_neg hg, if_neg (mt h.1 hg)]
    push_cast
    rfl

lemma saturatingMul_eq {a : Int} (h : ¬ 100000000000 ≤ a.natAbs) :
    saturatingMul a 1000 = a * 1000 := by
  unfold saturatingMul
  omega

/-- An announced snapshot is not current just if the upsert would take it as newer. -/
theorem freshness_agrees (g a : Int) : isCurrent (toTimestamp g) a = false ↔
      toTimestamp g ≤ toTimestamp a ∧ toTimestamp g ≠ toTimestamp a := by
  have hm : (if 100000000000 ≤ a.natAbs then a else saturatingMul a 1000) =
      normalizeGeneratedAtMillis a := by
    unfold normalizeGeneratedAtMillis
    split
    · rfl
    · exact saturatingMul_eq ‹_›
  rw [← lt_iff_le_and_ne, isCurrent, hm, decide_eq_false_iff_not, toTimestamp_mul,
    Int.floor_intCast, not_le, ← Int.cast_lt (R := ℚ), ← toTimestamp_mul, ← toTimestamp_mul,
    mul_lt_mul_iff_left₀ (by norm_num)]

end WattGateway.Gateway
