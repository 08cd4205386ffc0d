import WattGateway.Gateway.Traces
import WattGateway.Lib.TopK

/-!
# Merging the pages of federated gateways

A list endpoint merges its rows with those its peers answer for the same limit. The board and the
hives sort, deduplicate and cut on either path (`board_and_hives_merge`). The missions and the
leaderboard cut a local answer in the order of the projection table, and lose rows of the merged
page unless those are overtaken anyway (`missions_and_leaderboard_merge_iff`).
-/

namespace WattGateway.Gateway

open List

/-! ## Identities and times -/

section

variable (value : Json)

def topicKeyFromValue (keys : List String) : Option String :=
  keys.findSome? (stringAt value)

def networkScopedTopicKey (keys : List String) : Option String :=
  (topicKeyFromValue value keys).map fun topicId =>
    let network := ((value.get "network_id").or (value.get "networkId")).bind Json.asStr
    match (network.map trim).filter fun s => s ≠ "" with
    | none => topicId
    | some networkId => networkId ++ ":" ++ topicId

def topicIdentityKey : Option String :=
  networkScopedTopicKey value ["topic_id", "id"]

def missionIdentityKey : Option String :=
  topicKeyFromValue value ["mission_id", "task_id", "id"]

def rankingIdentityKey : Option String :=
  topicKeyFromValue value ["agent_did", "public_id", "agent_id", "id"]

end

section

variable (X : Deployment)

def sortValuesDescByTimestamp (values : List Json) : List Json :=
  values.insertionSort fun a b => topicSortTimestamp X b ≤ topicSortTimestamp X a

def sortValuesDescByTimestampWithFallback (values : List Json) (fallbackKeys : List String) :
    List Json :=
  values.insertionSort fun a b =>
    timestampWithFallback X b fallbackKeys ≤ timestampWithFallback X a fallbackKeys

/-! ## The board -/

def boardSortKeys : List String := ["created_at", "sequence", "snapshot_generated_at"]

/-- The board's rows, once it has dropped those it does not show. -/
def boardRows (limit : Nat) (values : List Json) : List Json :=
  (dedupeValuesByKey boardMessageIdentityKey
    (sortValuesDescByTimestampWithFallback X values boardSortKeys) []).take limit

end

/-! ## The hives -/

section

variable (X : Deployment)

/-- The rows of the hives, once those the query does not ask for are dropped. -/
def hivesRows (limit : Nat) (values : List Json) : List Json :=
  (dedupeValuesByKey topicIdentityKey (sortValuesDescByTimestamp X values) []).take limit

/-! ## The missions and the leaderboard -/

def projectionValues (db : Db) (dataKind : DataKind) : List Json :=
  (db.listProjectionRows dataKind).map fun row => attachSource row.2.payload row.1.2.2

/-- The page of an endpoint over the rows of one kind. Only a page that is merged is sorted. -/
def federatedProjectionPage (limit : Nat) (federation : Option String)
    (identityKey : Json → Option String) (sortKeys : List String) (values federated : List Json) :
    List Json :=
  if federationEnabled federation then
    (dedupeValuesByKey identityKey
      (sortValuesDescByTimestampWithFallback X (values ++ federated) sortKeys) []).take limit
  else values.take limit

structure ListQuery where
  limit : Option Nat
  federation : Option String
  deriving DecidableEq

def missionSortKeys : List String := ["updated_at", "created_at", "snapshot_generated_at"]

def missions (query : ListQuery) (values federated : List Json) : List Json :=
  federatedProjectionPage X (query.limit.getD 200) query.federation missionIdentityKey
    missionSortKeys values federated

def leaderboardSortKeys : List String :=
  ["score", "watt", "updated_at", "created_at", "snapshot_generated_at"]

def leaderboard (query : ListQuery) (values federated : List Json) : List Json :=
  federatedProjectionPage X (query.limit.getD 200) query.federation rankingIdentityKey
    leaderboardSortKeys values federated

end

/-! ## The endpoints as pages -/

open TopK

lemma dedupeValuesByKey_eq (key : Json → Option String) (values : List Json)
    (seen : List String) : dedupeValuesByKey key values seen = dedupeBy key values seen := by
  induction values generalizing seen with
  | nil => rfl
  | cons value _ ih =>
    rw [dedupeValuesByKey, dedupeBy]
    cases key value with
    | none => rw [ih]
    | some =>
      simp only [ih]

section

variable {X : Deployment}

lemma boardRows_eq (limit : Nat) : boardRows X limit =
    topBy boardMessageIdentityKey (timestampWithFallback X · boardSortKeys) limit := by
  funext values
  rw [boardRows, dedupeValuesByKey_eq]
  rfl

lemma hivesRows_eq (limit : Nat) :
    hivesRows X limit = topBy topicIdentityKey (topicSortTimestamp X) limit := by
  funext values
  rw [hivesRows, dedupeValuesByKey_eq]
  rfl

lemma federatedProjectionPage_eq {limit : Nat} {federation : Option String}
    (hf : federationEnabled federation) (identityKey : Json → Option String)
    (sortKeys : List String) (values federated : List Json) :
    federatedProjectionPage X limit federation identityKey sortKeys values federated =
      topBy identityKey (timestampWithFallback X · sortKeys) limit (values ++ federated) := by
  rw [federatedProjectionPage, if_pos hf, dedupeValuesByKey_eq]
  rfl

set_option maxRecDepth 100000

lemma federatedProjectionPage_local (limit : Nat) (identityKey : Json → Option String)
    (sortKeys : List String) (values federated : List Json) :
    federatedProjectionPage X limit (some "local") identityKey sortKeys values federated =
      values.take limit :=
  if_neg (by decide)

/-! ## The board and the hives -/

/-- A page of the pages of the gateways, and all rows of this one, is the page of all rows. -/
theorem board_and_hives_merge (X : Deployment) (k : Nat) (own : List Json)
    (remotes : List (List Json)) :
    (((own ++ remotes.flatten).map (timestampWithFallback X · boardSortKeys)).Nodup →
      boardRows X k (own ++ (remotes.map (boardRows X k)).flatten) =
        (dedupeValuesByKey boardMessageIdentityKey (sortValuesDescByTimestampWithFallback X
          (own ++ remotes.flatten) boardSortKeys) []).take k) ∧
    (((own ++ remotes.flatten).map (topicSortTimestamp X)).Nodup →
      hivesRows X k (own ++ (remotes.map (hivesRows X k)).flatten) =
        (dedupeValuesByKey topicIdentityKey (sortValuesDescByTimestamp X
          (own ++ remotes.flatten)) []).take k) := by
  rw [boardRows_eq, hivesRows_eq, dedupeValuesByKey_eq, dedupeValuesByKey_eq]
  exact ⟨topBy_merge _ k, topBy_merge _ k⟩

/-! ## The missions and the leaderboard -/

/-- The merged page is the page of all rows just if every row that a gateway cuts from its local
answer is overtaken. -/
theorem missions_and_leaderboard_merge_iff (X : Deployment) (k : Nat) (federation : Option String)
    (hfederation : federationEnabled federation) (own : List Json) (remotes : List (List Json)) :
    (((own ++ remotes.flatten).map (timestampWithFallback X · missionSortKeys)).Nodup →
      (missions X ⟨some k, federation⟩ own
          (remotes.map fun rows => missions X ⟨some k, some "local"⟩ rows []).flatten =
        (dedupeValuesByKey missionIdentityKey (sortValuesDescByTimestampWithFallback X
          (own ++ remotes.flatten) missionSortKeys) []).take k ↔
      ∀ rows ∈ remotes, ∀ row ∈ rows.drop k,
        Overtaken missionIdentityKey (timestampWithFallback X · missionSortKeys) k
          (own ++ remotes.flatten) row)) ∧
    (((own ++ remotes.flatten).map (timestampWithFallback X · leaderboardSortKeys)).Nodup →
      (leaderboard X ⟨some k, federation⟩ own
          (remotes.map fun rows => leaderboard X ⟨some k, some "local"⟩ rows []).flatten =
        (dedupeValuesByKey rankingIdentityKey (sortValuesDescByTimestampWithFallback X
          (own ++ remotes.flatten) leaderboardSortKeys) []).take k ↔
      ∀ rows ∈ remotes, ∀ row ∈ rows.drop k,
        Overtaken rankingIdentityKey (timestampWithFallback X · leaderboardSortKeys) k
          (own ++ remotes.flatten) row)) := by
  simp only [missions, leaderboard, Option.getD_some, federatedProjectionPage_eq hfederation,
    federatedProjectionPage_local, dedupeValuesByKey_eq]
  exact ⟨topBy_cut_iff _ k, topBy_cut_iff _ k⟩

end

namespace MergeSample

def row (id : String) (updatedAt : Int) : Json :=
  .object [("id", .string id), ("updated_at", .ofInt updatedAt)]

def twoTasks : Db :=
  let task (generatedAt : Int) (payload : Json) : ProjectionRow :=
    ⟨none, generatedAt, 0, .public, payload, .null⟩
  { Db.start .empty with
    projectionRows := .ofList [((.taskSummary, "a", "n"), task 20 (row "a" 1)),
      ((.taskSummary, "b", "n"), task 10 (row "b" 2))] }

end MergeSample

open MergeSample in
/-- An older copy of a hive at a peer does not count against the peer's page. -/
theorem board_and_hives_merge_copies :
    hivesRows smallDeployment 1 ([row "a" 4] ++ ([[row "a" 1, row "b" 2], [row "c" 3]].map
        (hivesRows smallDeployment 1)).flatten) =
      hivesRows smallDeployment 1 ([row "a" 4] ++ [[row "a" 1, row "b" 2], [row "c" 3]].flatten) ∧
    boardRows smallDeployment 1 ([row "a" 4] ++ ([[row "a" 1, row "b" 2], [row "c" 3]].map
        (boardRows smallDeployment 1)).flatten) =
      boardRows smallDeployment 1 ([row "a" 4] ++ [[row "a" 1, row "b" 2], [row "c" 3]].flatten) :=
  have h := board_and_hives_merge smallDeployment 1 [row "a" 4]
    [[row "a" 1, row "b" 2], [row "c" 3]]
  ⟨h.2 (by decide), h.1 (by decide)⟩

open MergeSample in
/-- The task that changed last is not on the page of one, and the other one is. -/
theorem missions_lose_the_newest : ((projectionValues twoTasks .taskSummary).map
      (timestampWithFallback smallDeployment · missionSortKeys)).Nodup ∧
    missions smallDeployment ⟨some 1, none⟩ []
        ([projectionValues twoTasks .taskSummary].map fun rows =>
          missions smallDeployment ⟨some 1, some "local"⟩ rows []).flatten ≠
      (dedupeValuesByKey missionIdentityKey (sortValuesDescByTimestampWithFallback smallDeployment
        ([] ++ [projectionValues twoTasks .taskSummary].flatten) missionSortKeys) []).take 1 := by
  refine ⟨by decide, fun heq => ?_⟩
  have hi := congrArg (List.map missionIdentityKey) heq
  revert hi
  decide

open MergeSample in
/-- A task that changed later than the one that is cut makes up for it. -/
theorem missions_and_leaderboard_merge_iff_overtaken :
    missions smallDeployment ⟨some 1, none⟩ [row "c" 3]
        ([[row "a" 1, row "b" 2]].map fun rows =>
          missions smallDeployment ⟨some 1, some "local"⟩ rows []).flatten =
      (dedupeValuesByKey missionIdentityKey (sortValuesDescByTimestampWithFallback smallDeployment
        ([row "c" 3] ++ [[row "a" 1, row "b" 2]].flatten) missionSortKeys) []).take 1 := by
  have hi := (missions_and_leaderboard_merge_iff smallDeployment 1 none rfl [row "c" 3]
    [[row "a" 1, row "b" 2]]).1 (by decide)
  refine hi.2 fun rows hr cut hc => .inr ⟨[row "c" 3], rfl, ?_, ?_, ?_⟩
  · exact nodup_singleton _
  · exact pairwise_singleton _ _
  · intro _ ho
    cases mem_singleton.1 hr
    cases mem_singleton.1 ho
    cases mem_singleton.1 hc
    exact ⟨by simp, by decide⟩

end WattGateway.Gateway
