import WattGateway.Gateway.Verify

/-!
# Checks of space data and of board rows

The functions of `space.rs` that touch no table: what a presence, a heartbeat and a world event must
satisfy, and the filter for board rows. `trusted_of_filter`: it lets a `world_event` stand only
where it has rebuilt it from an announcement signed by the pinned authority of its network.
-/

namespace WattGateway.Gateway

/-- `serde_json` on the types of the contract crates, and their check of an activity. -/
structure Codec where
  presenceOfValue : Json → Except String SignedSpacePresence
  presenceToValue : SignedSpacePresence → Json
  nodePresenceOfValue : Json → Except String NodePresence
  nodePresenceToValue : NodePresence → Json
  announcementOfValue : Json → Except String EventAnnouncementPayload
  worldEventOfValue : Json → Except String WorldEvent
  worldEventToValue : WorldEvent → Json
  validateActivity : Json → Except String Unit
  /-- `serde_json::to_string` of a value. -/
  toText : Json → Option String
  /-- The seconds of a time and the nanoseconds beyond them. -/
  parseFromRfc3339 : String → Option (Int × Int)

abbrev Authorities := List (String × String)

def Authorities.get (a : Authorities) (networkId : String) : Option String :=
  (a.find? fun na => na.1 = networkId).map Prod.snd

/-- What a gateway is deployed with. -/
structure Deployment extends Crypto, Codec where
  /-- The content of the file of trusted authorities, or why there is none. -/
  trustedNetworkAuthorities : Except String Authorities
  /-- `gateway_network` and `gateway_sync_tx` are set: the peer to peer runtime is on. -/
  p2p : Bool
  localPeerId : String
  registryAdminToken : Option String

section

variable (X : Deployment)

/-! ## Presences, heartbeats and world events -/

def validatePresence (presence : SignedSpacePresence) : Except String Unit := do
  verifySignedSpacePresence X.toCrypto presence
  failIf (presence.record.seq = 0) "presence sequence must be positive"
  X.validateActivity presence.record.activity
  failIf (isBlank presence.record.networkId ∨ isBlank presence.record.spaceId ∨
      isBlank presence.record.spaceVersion ∨ isBlank presence.record.destinationPlaceId)
    "presence network, space, version and destination identifiers are required"
  failIf (presence.record.path.toList.all (fun c => c ∈ ['U', 'R', 'D', 'L']) = false)
    "presence path must contain only U/R/D/L"

variable {X} in
lemma network_of_validatePresence {p : SignedSpacePresence} {u : Unit}
    (h : validatePresence X p = .ok u) : p.record.networkId ≠ "" := by
  unfold validatePresence at h
  simp only [bind_eq_ok, failIf_eq_ok, not_or] at h
  obtain ⟨-, -, -, -, -, -, -, hb, -⟩ := h
  intro he
  refine hb.1 ?_
  rw [he]
  rfl

def validateNodePresence (presence : NodePresence) (nodeId agentDid : String) :
    Except String Unit := do
  failIf (presence.nodeId ≠ nodeId ∨ presence.agentDid ≠ agentDid)
    "node heartbeat identity does not match its authenticated source"
  failIf (¬ (1 ≤ presence.heartbeatIntervalSec ∧ presence.heartbeatIntervalSec ≤ 300))
    "node heartbeat interval must be between 1 and 300 seconds"

def validateWorldEventWithAuthorities (payload : Json) (authorities : Authorities) :
    Except String Unit := do
  let announcement ← X.announcementOfValue payload
  let authority ← orFail "unknown trusted network" (authorities.get announcement.networkId)
  failIf (announcement.authorityNodeId ≠ authority)
    "announcement signer is not the trusted Network Authority"
  let key ← orFail "Invalid hex" (X.hexDecode authority)
  let signature ← orFail "Invalid hex" (X.hexDecode announcement.authoritySignature)
  verifyCanonicalSignature X.toCrypto (.announcement announcement.unsignedPayload)
    (X.base64Encode signature) (X.base64Encode key) "Network Authority announcement signature"
  let world ← X.worldEventOfValue announcement.content
  failIf (isBlank world.eventId ∨ world.eventId ≠ announcement.announcementId)
    "world event_id must match announcement_id"
  failIf (isBlank world.spaceId ∨ isBlank world.placeId)
    "world event space and place identifiers are required"
  failIf (isBlank world.title) "world event title is required"
  failIf (world.endsAt ≤ world.startsAt) "world event end must follow start"

def validateWorldEvent (payload : Json) : Except String Unit := do
  let authorities ← X.trustedNetworkAuthorities
  validateWorldEventWithAuthorities X payload authorities

def heartbeatKind : String := "node.presence.heartbeat"

def validateEvent (event : SignedNodeEvent) : Except String Unit :=
  match event.payload.dataKind with
  | .presence =>
    if event.payload.eventKind = heartbeatKind then do
      failIf (event.payload.visibility ≠ .public ∨ event.payload.provisionalPolicy ≠ .ephemeralOnly)
        "node heartbeat must be public ephemeral data"
      let presence ← X.nodePresenceOfValue event.payload.payload
      validateNodePresence presence event.payload.nodeId event.payload.signerAgentDid
    else .ok ()
  | .spacePresence => do
    failIf (event.payload.visibility ≠ .public ∨
        event.payload.provisionalPolicy ≠ .neverBeforeConfirmation)
      "space presence must be confirmed public data"
    let presence ← X.presenceOfValue event.payload.payload
    validatePresence X presence
  | .worldEvent => do
    failIf (event.payload.visibility ≠ .public ∨
        event.payload.provisionalPolicy ≠ .neverBeforeConfirmation)
      "world events must be confirmed public data"
    validateWorldEvent X event.payload.payload
  | _ => .ok ()

def isSpaceEvent (event : SignedNodeEvent) : Bool :=
  event.payload.dataKind = .spacePresence || event.payload.dataKind = .worldEvent

/-! ## Board rows -/

/-- For a row claiming to be an announcement, the signed payload it must carry, null when it is
missing. -/
def boardAnnouncement (value : Json) : Option Json :=
  let content := value.get "content"
  let typed := (content.bind fun c => c.get "type").bind Json.asStr = some "EventAnnouncement"
  let kind := (value.get "global_kind").bind Json.asStr = some "EventAnnouncement"
  if typed ∨ kind then some ((content.bind fun c => c.get "payload").getD .null) else none

def trustedBoardMessageWithAuthorities (value : Json) (authorities : Authorities) :
    Except String Json :=
  match value.asObject with
  | none => .ok value
  | some object =>
    match boardAnnouncement value with
    | none => .ok (.object (Json.Fields.remove object "world_event"))
    | some announcement => do
      validateWorldEventWithAuthorities X announcement authorities
      let world ← X.worldEventOfValue (announcement.index "content")
      return .object (Json.Fields.insert object "world_event" (X.worldEventToValue world))

def trustedBoardMessage (value : Json) : Except String Json :=
  if (boardAnnouncement value).isNone then trustedBoardMessageWithAuthorities X value []
  else do
    let authorities ← X.trustedNetworkAuthorities
    trustedBoardMessageWithAuthorities X value authorities

def trustedBoardMessages (values : List Json) : List Json :=
  values.filterMap fun value => (trustedBoardMessage X value).toOption

/-! ## What the filter lets through -/

/-- The payload is an announcement that the authority of its network signed. -/
def SignedPayload (authorities : Authorities) (payload : Json) (announcement : EventAnnouncementPayload) :
    Prop :=
  X.announcementOfValue payload = .ok announcement ∧ ∃ authority key signature,
    authorities.get announcement.networkId = some authority ∧
    announcement.authorityNodeId = authority ∧ X.hexDecode authority = some key ∧
    X.hexDecode announcement.authoritySignature = some signature ∧
    Verifies X.toCrypto (.announcement announcement.unsignedPayload) (X.base64Encode signature)
      (X.base64Encode key)

/-- The value is the world event of an announcement that the payload carries and that the pinned
authority of its network signed. -/
def RebuiltFrom (payload value : Json) : Prop :=
  ∃ carried announcement authorities authority key signature world,
    boardAnnouncement payload = some carried ∧ X.announcementOfValue carried = .ok announcement ∧
    X.trustedNetworkAuthorities = .ok authorities ∧
    authorities.get announcement.networkId = some authority ∧
    announcement.authorityNodeId = authority ∧ X.hexDecode authority = some key ∧
    X.hexDecode announcement.authoritySignature = some signature ∧
    Verifies X.toCrypto (.announcement announcement.unsignedPayload) (X.base64Encode signature)
      (X.base64Encode key) ∧ X.worldEventOfValue (carried.index "content") = .ok world ∧
    value = X.worldEventToValue world

/-- A `world_event` in the payload is one that was rebuilt. -/
def Trusted (payload : Json) : Prop :=
  ∀ value, payload.get "world_event" = some value → RebuiltFrom X payload value

variable {X}

lemma boardAnnouncement_congr {v w : Json} (hc : v.get "content" = w.get "content")
    (hk : v.get "global_kind" = w.get "global_kind") :
    boardAnnouncement v = boardAnnouncement w := by
  unfold boardAnnouncement
  rw [hc, hk]

lemma trusted_of_not_field {payload : Json} (h : payload.get "world_event" = none) :
    Trusted X payload := by
  intro _ hv
  rw [h] at hv
  cases hv

/-- The filter's reading of a payload depends on three fields. -/
lemma Trusted.congr {v w : Json} (h : Trusted X v) (hc : v.get "content" = w.get "content")
    (hk : v.get "global_kind" = w.get "global_kind")
    (he : v.get "world_event" = w.get "world_event") : Trusted X w := by
  intro value hv
  obtain ⟨carried, rest⟩ := h value (he.trans hv)
  exact ⟨carried, by rwa [boardAnnouncement_congr hc hk] at rest⟩

lemma signed_of_validate {payload : Json} {authorities : Authorities} {u : Unit}
    (h : validateWorldEventWithAuthorities X payload authorities = .ok u) :
    ∃ announcement, SignedPayload X authorities payload announcement := by
  unfold validateWorldEventWithAuthorities at h
  simp only [bind_eq_ok, orFail_eq_ok, failIf_eq_ok, not_not, verifyCanonicalSignature_eq_ok] at h
  obtain ⟨announcement, ha, authority, hu, _, hno, key, hk, signature, hs, _, hv, -⟩ := h
  exact ⟨announcement, ha, authority, key, signature, hu, hno, hk, hs, hv⟩

/-- A row that the filter lets through has no `world_event` but a rebuilt one. -/
lemma trusted_of_filter {value row : Json} (h : trustedBoardMessage X value = .ok row) :
    Trusted X row := by
  unfold trustedBoardMessage trustedBoardMessageWithAuthorities at h
  cases hb : boardAnnouncement value with
  | none =>
    simp only [hb, Option.isNone_none, if_true] at h
    cases ho : value.asObject with
    | none =>
      -- only an object has fields
      simp only [ho] at h
      cases h
      exact trusted_of_not_field (by unfold Json.get; rw [ho]; rfl)
    | some =>
      simp only [ho] at h
      cases h
      exact trusted_of_not_field (by simp)
  | some carried =>
    simp only [hb, Option.isNone_some, Bool.false_eq_true, if_false] at h
    obtain ⟨authorities, hf, h⟩ := bind_eq_ok.1 h
    cases ho : value.asObject with
    | none =>
      simp only [ho] at h
      cases h
      exact trusted_of_not_field (by unfold Json.get; rw [ho]; rfl)
    | some object =>
      simp only [ho] at h
      obtain ⟨_, hva, h⟩ := bind_eq_ok.1 h
      obtain ⟨world, hwo, h⟩ := bind_eq_ok.1 h
      cases h
      intro _ hw
      obtain ⟨announcement, ha, authority, key, signature, hu, hno, hk, hs, hv⟩ :=
        signed_of_validate hva
      have hg : ∀ k, value.get k = Json.Fields.get object k := by
        intro _
        unfold Json.get
        rw [ho]
        rfl
      -- the filter sets `world_event` and leaves the fields that carry the announcement
      have hc : boardAnnouncement
          (.object (Json.Fields.insert object "world_event" (X.worldEventToValue world))) =
            some carried := by
        rw [← hb]
        exact boardAnnouncement_congr (by simp [hg]) (by simp [hg])
      refine ⟨carried, announcement, authorities, authority, key, signature, world, hc, ha,
        hf, hu, hno, hk, hs, hv, hwo, ?_⟩
      simpa using hw.symm

lemma trusted_of_mem_filter {values : List Json} {row : Json}
    (h : row ∈ trustedBoardMessages X values) : Trusted X row := by
  unfold trustedBoardMessages at h
  obtain ⟨value, -, hr⟩ := List.mem_filterMap.1 h
  cases hf : trustedBoardMessage X value with
  | error =>
    rw [hf] at hr
    cases hr
  | ok =>
    rw [hf] at hr
    cases hr
    exact trusted_of_filter hf

end

end WattGateway.Gateway
