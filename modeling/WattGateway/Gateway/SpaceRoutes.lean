import WattGateway.Gateway.Calls

/-!
# Routes on presences

`presences` and `agent_presence` of `space.rs`. Both start from `presence_values`, which takes for
each agent of each network the record with the highest sequence number and filters only then. The
queries of one request are read from one state of the tables.
-/

namespace WattGateway.Gateway

open List Table

/-! ## Queries of the routes -/

structure SpaceObservationQuery where
  networkId : Option String
  spaceId : Option String
  placeId : Option String
  deriving DecidableEq

structure SpaceQuery where
  networkId : String
  spaceId : Option String
  placeId : Option String
  deriving DecidableEq

def validateObservationQuery (query : SpaceObservationQuery) : Except String Unit := do
  failIf (query.networkId.any isBlank) "network_id must not be empty"
  failIf (query.spaceId.any isBlank) "space_id must not be empty"

def validateNetworkQuery (query : SpaceQuery) : Except String Unit := do
  failIf (isBlank query.networkId) "network_id must not be empty"
  failIf (query.spaceId.any isBlank) "space_id must not be empty"

def placeIdText : String := "presence place_id filtering requires geometry owned by Main/Client"

def validatePresenceQuery (query : SpaceQuery) : Except String Unit := do
  validateNetworkQuery query
  failIf query.placeId.isSome placeIdText

/-! ## Statements -/

/-- A row of `gateway_space_presence` with its key `(network_id, space_id, agent_did)`. -/
abbrev PresenceEntry := (String × String × String) × SpacePresenceRow

def sameAgent (a b : PresenceEntry) : Bool := a.1.1 = b.1.1 && a.1.2.2 = b.1.2.2

/-- Of two rows of one agent in one network, the first comes first in `order by seq desc, space_id`. -/
def comesFirst (a b : PresenceEntry) : Bool :=
  b.2.seq < a.2.seq || a.2.seq = b.2.seq && a.1.2.1 < b.1.2.1

namespace Db

variable (db : Db)

/-- `select distinct on (network_id, agent_did) … order by network_id, agent_did, seq desc, space_id`. -/
def latestPresences (networkId : Option String) : List PresenceEntry :=
  let rows := db.spacePresence.select fun key _ => networkId.all (· = key.1) && key.1 ≠ ""
  rows.filter fun a => rows.all fun b => !(sameAgent b a && comesFirst b a)

def presenceValues (networkId spaceId : Option String) : List (SignedSpacePresence × String) :=
  (((db.latestPresences networkId).filter fun a =>
    spaceId.all (· = a.1.2.1) && db.visible a.2.sourceId).insertionSort fun a b =>
      a.1.1 < b.1.1 ∨ a.1.1 = b.1.1 ∧ a.1.2.2 ≤ b.1.2.2).map fun a => (a.2.payload, a.2.sourceNodeId)

def nodePresences : List NodePresence :=
  ((db.nodePresence.select fun _ row => db.visible row.sourceId).insertionSort fun a b =>
    a.1.1 < b.1.1 ∨ a.1.1 = b.1.1 ∧ a.1.2 ≤ b.1.2).map fun a => a.2.payload

/-- `->>`. -/
def jsonText (X : Deployment) : Json → Option String
  | .null => none
  | .string s => some s
  | value => X.toText value

def operatorName (snapshot : PublicClientSnapshot) : Option String :=
  (snapshot.operator.index "display_name").asStr.filter fun name => name.toList.any (· ≠ ' ')

/-- The names of agents, from the visible snapshots of the nodes that their presences are of. -/
def displayNames (X : Deployment) (values : List (SignedSpacePresence × String)) :
    List ((String × String) × String) :=
  values.filterMap fun value => do
    let row ← db.nodeSnapshots.get? value.2
    let name ← operatorName row.payload
    if row.signerAgentDid = value.1.record.agentDid ∧ db.visible row.sourceId ∧
        jsonText X (row.payload.networkStatus.index "network_id") = some value.1.record.networkId then
      some ((value.1.record.networkId, value.1.record.agentDid), name)
    else none

end Db

/-! ## Routes -/

def i64SaturatingAdd (a b : Int) : Int := max (-2 ^ 63) (min (2 ^ 63 - 1) (a + b))

def heartbeatIsCurrent (heartbeat : NodePresence) (now : Int) : Bool :=
  now ≤ i64SaturatingAdd heartbeat.lastHeartbeatMs (3 * heartbeat.heartbeatIntervalSec * 1000)

/-- The agent has entered, and the node of its presence has a current heartbeat for it. -/
def isPresent (heartbeats : List NodePresence) (now : Int) (value : SignedSpacePresence × String) :
    Bool :=
  value.1.record.entered && heartbeats.any fun heartbeat =>
    heartbeat.nodeId = value.2 && heartbeat.agentDid = value.1.record.agentDid &&
      heartbeatIsCurrent heartbeat now

/-- An entry of `identities`. -/
structure AgentIdentity where
  networkId : String
  agentDid : String
  nodeId : String
  displayName : Option String
  deriving DecidableEq

structure PresencesReply where
  networkId : Option String
  spaceId : Option String
  serverTimeMs : Int
  presences : List SignedSpacePresence
  identities : List AgentIdentity
  nodePresences : List NodePresence

structure AgentPresenceReply where
  networkId : String
  spaceId : String
  serverTimeMs : Int
  presence : SignedSpacePresence
  sourceNodeIds : List (String × String)
  nodePresences : List NodePresence

/-- `error_response` with the bad request status, of a check. -/
def badRequest (check : Except String Unit) : Except (StatusCode × String) Unit :=
  check.mapError fun text => (.badRequest, text)

namespace Db

variable (X : Deployment) (db : Db) (now : Int)

def presences (query : SpaceObservationQuery) : Except (StatusCode × String) PresencesReply := do
  badRequest (validateObservationQuery query)
  badRequest (failIf query.placeId.isSome placeIdText)
  let values := (db.presenceValues query.networkId query.spaceId).filter
    (isPresent db.nodePresences now)
  let names := db.displayNames X values
  return {
    networkId := query.networkId
    spaceId := query.spaceId
    serverTimeMs := now
    presences := values.map Prod.fst
    identities := values.map fun value => {
      networkId := value.1.record.networkId
      agentDid := value.1.record.agentDid
      nodeId := value.2
      displayName := (names.find? fun name =>
        name.1 = (value.1.record.networkId, value.1.record.agentDid)).map Prod.snd }
    nodePresences := db.nodePresences }

def agentPresence (agentId : String) (query : SpaceQuery) :
    Except (StatusCode × String) AgentPresenceReply := do
  badRequest (validatePresenceQuery query)
  match (db.presenceValues (some query.networkId) query.spaceId).find? fun value =>
      value.1.record.agentDid = agentId && value.1.record.entered with
  | none => .error (.notFound, "agent presence not found")
  | some (presence, node) => .ok {
      networkId := query.networkId
      spaceId := presence.record.spaceId
      serverTimeMs := now
      presence := presence
      sourceNodeIds := [(presence.record.agentDid, node)]
      nodePresences := db.nodePresences }

end Db

/-! ## What the routes answer -/

namespace Db

variable {db : Db}

def Latest (db : Db) (key : String × String × String) (row : SpacePresenceRow) : Prop :=
  db.spacePresence.get? key = some row ∧
    ∀ key' row', db.spacePresence.get? key' = some row' → key'.1 = key.1 → key'.2.2 = key.2.2 →
      comesFirst (key', row') (key, row) = false

lemma mem_latestPresences {networkId : Option String} {key : String × String × String}
    {row : SpacePresenceRow} : (key, row) ∈ db.latestPresences networkId ↔
      db.Latest key row ∧ (∀ n ∈ networkId, n = key.1) ∧ key.1 ≠ "" := by
  unfold latestPresences Latest
  simp only [mem_filter, mem_select, all_eq_true, Bool.and_eq_true, decide_eq_true_eq,
    Option.all_eq_true, Bool.not_eq_true', sameAgent, ne_eq]
  constructor
  · rintro ⟨⟨hr, he, hne⟩, hf⟩
    refine ⟨⟨hr, fun key' row' hr' hn ha => ?_⟩, he, hne⟩
    have hb := hf (key', row')
      (mem_select.2 ⟨hr', by simpa [hn, Option.all_eq_true] using ⟨he, hne⟩⟩)
    simpa [hn, ha] using hb
  · rintro ⟨⟨hr, hf⟩, he, hne⟩
    refine ⟨⟨hr, he, hne⟩, fun b hb => ?_⟩
    obtain ⟨key', row'⟩ := b
    have hr' := (mem_select.1 hb).1
    by_cases hs : key'.1 = key.1 ∧ key'.2.2 = key.2.2
    · rw [hf key' row' hr' hs.1 hs.2, Bool.and_false]
    · rcases not_and_or.1 hs with hn | ha
      · simp [hn]
      · simp [ha]

variable {value : SignedSpacePresence × String}

/-- The filters on the space and on the source come after the choice of the highest record. -/
lemma mem_presenceValues {networkId spaceId : Option String} :
    value ∈ db.presenceValues networkId spaceId ↔
      ∃ key row, db.Latest key row ∧ value = (row.payload, row.sourceNodeId) ∧
        (∀ n ∈ networkId, n = key.1) ∧ key.1 ≠ "" ∧ (∀ s ∈ spaceId, s = key.2.1) ∧
        db.visible row.sourceId = true := by
  unfold presenceValues
  simp only [mem_map, mem_insertionSort, mem_filter, Bool.and_eq_true,
    Option.all_eq_true, decide_eq_true_eq]
  constructor
  · rintro ⟨⟨key, row⟩, ⟨hl, hs, hv⟩, rfl⟩
    obtain ⟨hl, hn, hne⟩ := mem_latestPresences.1 hl
    exact ⟨key, row, hl, rfl, hn, hne, hs, hv⟩
  · rintro ⟨key, row, hl, rfl, hn, hne, hs, hv⟩
    exact ⟨(key, row), ⟨mem_latestPresences.2 ⟨hl, hn, hne⟩, hs, hv⟩, rfl⟩

lemma mem_presences {X : Deployment} {now : Int} {query : SpaceObservationQuery}
    {reply : PresencesReply} (h : db.presences X now query = .ok reply) {p : SignedSpacePresence} :
    p ∈ reply.presences ↔ ∃ node, (p, node) ∈ db.presenceValues query.networkId query.spaceId ∧
      isPresent db.nodePresences now (p, node) = true := by
  unfold presences at h
  cases hq : validateObservationQuery query with
  | error =>
    rw [hq] at h
    cases h
  | ok =>
    rw [hq] at h
    unfold failIf at h
    split at h
    · cases h
    · cases h
      simp only [mem_map, mem_filter]
      constructor
      · rintro ⟨⟨p, node⟩, ⟨hm, hp⟩, rfl⟩
        exact ⟨node, hm, hp⟩
      · rintro ⟨node, hm, hp⟩
        exact ⟨(p, node), ⟨hm, hp⟩, rfl⟩

variable {query : SpaceQuery} {agentId : String}

lemma agentPresence_ok {now : Int}
    {reply : AgentPresenceReply} (h : db.agentPresence now agentId query = .ok reply) :
    ∃ node, (reply.presence, node) ∈ db.presenceValues (some query.networkId) query.spaceId ∧
      reply.presence.record.agentDid = agentId ∧ reply.presence.record.entered = true := by
  unfold agentPresence at h
  cases hq : validatePresenceQuery query with
  | error =>
    rw [hq] at h
    cases h
  | ok _ =>
    rw [hq] at h
    change (match (db.presenceValues (some query.networkId) query.spaceId).find? _ with
      | none => _
      | some (presence, node) => _) = _ at h
    split at h
    · cases h
    · rename_i presence node hi
      cases h
      have hf := find?_some hi
      simp only [Bool.and_eq_true, decide_eq_true_eq] at hf
      exact ⟨node, mem_of_find?_eq_some hi, hf.1, hf.2⟩

lemma agentPresence_isOk (now : Int) (hq : validatePresenceQuery query = .ok ())
    (hm : value ∈ db.presenceValues (some query.networkId) query.spaceId)
    (ha : value.1.record.agentDid = agentId) (he : value.1.record.entered = true) :
    ∃ reply, db.agentPresence now agentId query = .ok reply := by
  unfold agentPresence
  rw [hq]
  change ∃ reply, (match (db.presenceValues (some query.networkId) query.spaceId).find? _ with
      | none => _
      | some (presence, node) => _) = Except.ok reply
  split
  · rename_i hno
    have hn := find?_eq_none.1 hno value hm
    simp [ha, he] at hn
  · exact ⟨_, rfl⟩

end Db

end WattGateway.Gateway
