import WattGateway.Message.Service

/-!
# Publishing

`publish` of `service.rs` with `validate_membership_snapshot_authority`,
`authorized_scope_version_and_count`, `reconcile_scope_bindings` and `load_confirmed_receipt`, and
the calls a run of the gateway is made of.
-/

namespace WattGateway.Message

open Prog Sys

/-- The checks `publish` makes before it looks at the payload. -/
def publishFrameInvalid (X : Wattswarm) (session : VerifiedSession) (frame : PublishFrame) : Prop :=
  frame.framingVersion ≠ "1" ∨ frame.deliveryPolicyVersion ≠ X.deliveryPolicyVersion ∨
    frame.route.networkId ≠ session.networkId

instance (X : Wattswarm) (session : VerifiedSession) (frame : PublishFrame) :
    Decidable (publishFrameInvalid X session frame) :=
  inferInstanceAs (Decidable (_ ∨ _))

def needsGlobalAuthority (route : EventTransportRoute) : Prop :=
  route.scope = .global ∧ (route.lane = .rules ∨ route.lane = .checkpoints)

instance (route : EventTransportRoute) : Decidable (needsGlobalAuthority route) :=
  inferInstanceAs (Decidable (_ ∧ _))

def directRecipient : SwarmScope → Option String
  | .node id => some id
  | _ => none

/-- The membership version the receipt hash is made with. -/
def versionText (version : Option String) : String := version.getD ""

/-- `u64::from(author_is_recipient)`. -/
def boolCount (b : Bool) : Nat := if b then 1 else 0

/-- The receipt row of a confirmed publish. -/
def publishReceipt (frame : PublishFrame) (route : EventTransportRoute) (cls : DeliveryClass)
    (version : Option String) (expected expiresAt : Nat) : ReceiptRow :=
  ⟨.route route, some (.record frame.payload), version, cls, frame.deliveryPolicyVersion, expected,
    .bindingSet (.route route) (versionText version) expected, expiresAt⟩

section

variable (X : Wattswarm) (config : Config)

def validateMembershipSnapshotAuthority (network author : String) (membership : Membership)
    (quorumThreshold : Nat) (quorumSignatures : List SignatureEnvelope) : Gw Unit := do
  bailIf (quorumThreshold = 0 ∨ quorumSignatures.length < quorumThreshold)
    "membership quorum signatures are insufficient"
  let genesis ← select (.genesisAuthority network)
  bailIf (genesis = none) "network Genesis authority is not projected"
  let rows ← select (.globalRoles network)
  ofExcept (snapshotAuthority X genesis rows author membership quorumThreshold quorumSignatures)

/-- The authority check of the frame's mutation, if it is a snapshot. -/
def checkSnapshot (session : VerifiedSession) : Option MembershipMutation → Gw Unit
  | some (.snapshot _ membership threshold signatures _) =>
    validateMembershipSnapshotAuthority X session.networkId session.principalId membership
      threshold signatures
  | _ => return ()

def checkGlobalAuthority (session : VerifiedSession) (route : EventTransportRoute) : Gw Unit :=
  if needsGlobalAuthority route then do
    let authority ← select (.principalIsGlobalAuthority session.networkId session.principalId)
    bailIf (authority = false)
      "Global Rule/Checkpoint signer is not the projected Genesis authority"
  else return ()

/-- The acceptance of a stored receipt, for the same payload and route. -/
def receiptAcceptance (recordId : String) (recordHash routeHash : Digest) (receipt : ReceiptRow) :
    Except String PublishAcceptance := do
  failIf (receipt.authorizedRouteHash ≠ routeHash ∨ receipt.recordHash ≠ some recordHash)
    "idempotent publish record or route mismatch"
  return ⟨.existing recordId, recordId, receipt.deliveryClass, receipt.deliveryPolicyVersion,
    receipt.membershipVersion⟩

def loadConfirmedReceipt (network principal recordId : String) (recordHash routeHash : Digest) :
    Gw (Option PublishAcceptance) := do
  let row ← select (.confirmedReceipt network principal recordId)
  match row with
  | none => return none
  | some receipt => do
    let acceptance ← ofExcept (receiptAcceptance recordId recordHash routeHash receipt)
    return some acceptance

/-- `authorized_scope_version_and_count` for a scope with members. -/
def authorizedShared (network label principal : String) (allowNetworkMember : Bool) :
    Gw (Option String × Nat) := do
  let allowed ← select (.authorAllowed network label principal allowNetworkMember)
  bailIf (allowed = false) "principal is not authorized for publish scope"
  let version ← select (.scopeVersion network label)
  let count ← select (.memberCount network label version)
  return (version, count)

def authorizedScopeVersionAndCount (network : String) (scope : SwarmScope) (principal : String)
    (allowNetworkMember : Bool) : Gw (Option String × Nat) :=
  match scope with
  | .node recipient => do
    let author ← select (.principalIsAdmitted network principal)
    bailIf (author = false) "direct route author or recipient is not an active network member"
    let target ← select (.principalIsAdmitted network recipient)
    bailIf (target = false) "direct route author or recipient is not an active network member"
    return (none, 1)
  | scope => do
    let label ← ofOption "invalid scope" (X.scopeLabel scope)
    authorizedShared network label principal allowNetworkMember

def scopeContainsPrincipal (network : String) (scope : SwarmScope) (principal : String)
    (version : Option String) : Gw Bool :=
  match scope with
  | .node recipient => return recipient = principal
  | scope => do
    let label ← ofOption "invalid scope" (X.scopeLabel scope)
    select (.scopeContainsPrincipal network label principal version)

def authorIsRecipient (session : VerifiedSession) (scope : SwarmScope) (version : Option String) :
    Option MembershipMutation → Gw Bool
  | some (.snapshot _ membership _ _ _) => return (membership.get? session.principalId).isSome
  | some (.principal _ p active _) =>
    if p = session.principalId then return active
    else scopeContainsPrincipal X session.networkId scope session.principalId version
  | none => scopeContainsPrincipal X session.networkId scope session.principalId version

def acquireNonGlobalDeliveryTokens (network : String) (cost rate : Nat) : Gw Bool :=
  if cost = 0 then return true
  else if rate = 0 ∨ cost > rate then return false
  else query (Query.nonGlobalTokens network cost)

/-- The token buckets a publish passes. -/
def acquireTokens (network : String) (scope : SwarmScope) (cls : DeliveryClass)
    (recipients : Nat) : Gw Unit :=
  match scope with
  | .global => do
    let allowed ← query (Query.globalToken network cls)
    bailIf (allowed = false) "Global publish is backpressured by the shared cell token bucket"
  | .node _ => return ()
  | _ => do
    let allowed ← acquireNonGlobalDeliveryTokens network recipients
      config.reservedNonGlobalDeliveriesPerSecond
    bailIf (allowed = false)
      "non-Global fanout is backpressured by the shared cell token bucket"

/-- The part of `reconcile_scope_bindings` after its reads: bind the members, unbind the others,
and rewrite the rows of the route. -/
def rebindRoute (network label address version : String) (members bound : List String) :
    Gw Unit := do
  forEach members fun p => bindScopeMember X network p address version
  forEach (bound.filter fun p => p ∉ members) fun p => unbindScopeMember X network p address version
  exec (.deleteRouteBindings network label address)
  forEach members fun p => forEach DeliveryClass.all fun cls =>
    exec (.insertBinding network label address p cls version)
  exec (.activateBindings network label)

/-- `reconcile_scope_bindings` for a scope with members. -/
def reconcileShared (network label address : String) : Gw Unit := do
  let version ← select (.scopeVersion network label)
  let version ← ofOption "shared scope has no active membership version" version
  let members ← select (.members network label version)
  let bound ← select (.boundPrincipals network label address)
  rebindRoute X network label address version members bound

def reconcileScopeBindings (network : String) (route : EventTransportRoute) : Gw Unit :=
  match route.scope with
  | .node _ => return ()
  | scope => do
    let label ← ofOption "invalid scope" (X.scopeLabel scope)
    reconcileShared X network label route.address

/-- `if !mutation_applied_before_publish`. -/
def reconcileUnlessMutated (network : String) (route : EventTransportRoute) :
    Option MembershipMutation → Gw Unit
  | some _ => return ()
  | none => reconcileScopeBindings X network route

section

variable (session : VerifiedSession)

/-- The mutation of the frame, applied in the fence transaction, or the current version and
number of recipients. -/
def applyFrameMutation (route : EventTransportRoute)
    (current : Option String × Nat) : Option MembershipMutation → Gw (Option String × Nat)
  | some mutation => do
    let recipients ← applyMembershipMutation X config session.networkId mutation
      (some route.address)
    return (some mutation.version, recipients)
  | none => return current

/-- Everything after the receipt lookup: fence, admission, mutation, broker and receipt. -/
def publishFenced (frame : PublishFrame) (validated : ValidatedFrame)
    (cls : DeliveryClass) : Gw PublishAcceptance := do
  let network := session.networkId
  let route := validated.route
  let label ← ofOption "invalid scope" (X.scopeLabel route.scope)
  run (.begin network label validated.membershipMutation.isSome)
  let current ← authorizedScopeVersionAndCount X network route.scope session.principalId
    (allowNetworkMemberAuthor session.principalId validated.membershipMutation)
  let (version, recipients) ← applyFrameMutation X config session route current
    validated.membershipMutation
  bailIf (recipients = 0 ∨ recipients > config.maxFanoutRecipients)
    "scope fanout is empty or exceeds recipient admission"
  let isRecipient ← authorIsRecipient X session route.scope version validated.membershipMutation
  let expected := recipients - boolCount isRecipient
  let fanoutBytes ← ofOption "fanout byte budget overflow"
    (checkedMul frame.payload.length recipients)
  bailIf (fanoutBytes > config.maxFanoutBytesPerPublish)
    "scope fanout exceeds the per-publish byte budget"
  acquireTokens config network route.scope cls recipients
  reconcileUnlessMutated X network route validated.membershipMutation
  let enqueuedAt ← nowMs
  let now ← nowMs
  publishRecord X (directRecipient route.scope) ⟨network, session.principalId, frame.recordId,
    route, frame.payload, version, cls, frame.deliveryPolicyVersion, enqueuedAt,
    some (now + config.mailboxMessageTtlMs)⟩
  let now ← nowMs
  stmt (.insertReceipt network session.principalId frame.recordId
    (publishReceipt frame route cls version expected (now + receiptLifetimeMs)))
  stmt (.recordAudit ⟨network, session.principalId, "publish", "confirmed", frame.recordId⟩)
  run .commit
  return ⟨.fresh, frame.recordId, cls, frame.deliveryPolicyVersion, version⟩

def publish (frame : PublishFrame) : Gw PublishAcceptance := do
  bailIf (publishFrameInvalid X session frame) "publish framing, policy, or network mismatch"
  let validated ← ofExcept (validateRecordFrame X frame session)
  checkSnapshot X session validated.membershipMutation
  checkGlobalAuthority session validated.route
  let cls := X.deliveryClassForRecord validated.route.lane validated.urgency
  let receipt ← loadConfirmedReceipt session.networkId session.principalId frame.recordId
    (.record frame.payload) (.route validated.route)
  match receipt with
  | some receipt => do
    bailIf (receipt.deliveryClass ≠ cls ∨
        receipt.deliveryPolicyVersion ≠ frame.deliveryPolicyVersion)
      "idempotent publish classification mismatch"
    return receipt
  | none => publishFenced X config session frame validated cls

end

/-! ## Runs -/

end

inductive Call where
  /-- `ensure_tenant_transport_admission`, as the challenge endpoint runs it. -/
  | challenge (network principal : String)
  | admitGrant (grant : NetworkMembershipGrant)
  | control (session : VerifiedSession) (frame : ControlFrame)
  | publish (session : VerifiedSession) (frame : PublishFrame)

inductive Reply where
  | challenge
  | admitGrant (r : GrantAdmissionResponse)
  | control (r : ControlAcceptance)
  | publish (r : PublishAcceptance)
  deriving DecidableEq

def Call.prog (X : Wattswarm) (config : Config) : Call → Gw Reply
  | challenge n p => do
    ensureTenantTransportAdmission X config n p
    return .challenge
  | admitGrant grant => do
    let r ← Message.admitGrant X config grant
    return .admitGrant r
  | control session frame => do
    let r ← sendControl X config session frame
    return .control r
  | publish session frame => do
    let r ← Message.publish X config session frame
    return .publish r

/-! ## A small network

Concrete values for the concrete runs of the later modules: the network `"n"` with the genesis
principal `"g"`. An event is decoded from a payload whose length is its place in a list, a
signature is valid if it names its signer, and a record of every kind goes to its own address. -/

namespace Sample

def label : SwarmScope → String
  | .global => "global"
  | .region id => "region:" ++ id
  | .node id => "node:" ++ id
  | .group id => "group:" ++ id

def signatureOf (signer : String) : String := "signed by " ++ signer

def wattswarm (events : List Event) : Wattswarm where
  verifySignature signer _ signature := signature = signatureOf signer
  verifyEventSignature e := e.signatureHex = signatureOf e.authorNodeId
  verifyNetworkMembershipGrant g issuer now :=
    g.issuerGenesisId = issuer ∧ g.signatureHex = signatureOf issuer ∧
      (g.expiresAt.all fun e => now < e)
  networkMembershipGrantId g := some ("of " ++ g.principalId)
  decodeEvent b := events[b.length]?
  decodeRule _ := none
  decodeCheckpoint _ := none
  decodeSummary _ := none
  parseScopeHint s := if s = "global" then some .global else some (.group s)
  scopeLabel s := some (label s)
  laneStr _ := "lane"
  fromKindLabel scope lane kind _ := some ⟨scope, lane, "ws." ++ label scope ++ "." ++ kind⟩
  deliveryClassForRecord _ _ := .interactive
  deliveryPolicyVersion := 1
  stableDeliveryId _ correlation target _ := some (correlation ++ target)
  hex d := match d with
    | .text s => s
    | _ => "digest"

def config : Config where
  trustedNetworkGenesis := Table.ofList [("n", "g")]
  maxActiveTenants := 100
  maxFanoutRecipients := 100
  clusterQueueLimit := 1000
  mailboxShardAdmissionPercent := 100
  maxGlobalPublishesPerSecond := 1
  globalInteractiveReservedPerSecond := 0
  globalPublishBurst := 1
  reservedNonGlobalDeliveriesPerSecond := 100
  maxFanoutDeliveriesPerSecond := 1000
  fanoutAdmissionUtilizationPercent := 100
  maxFanoutBytesPerPublish := 1000000
  mailboxMessageTtlMs := 1000
  membershipMutationWindow := 1000
  maxMembershipMutationsPerScopePerWindow := 100
  maxMembershipBindingLag := 1000

def snapshot (id author : String) (members : List (String × List Role)) (threshold : Nat)
    (signers : List String) : Event :=
  ⟨id, author, "global", "MembershipUpdated",
    .membershipUpdated ⟨Table.ofList members, threshold,
      signers.map fun s => ⟨s, signatureOf s⟩⟩, signatureOf author⟩

def policyTuned (id : String) : Event :=
  ⟨id, "g", "global", "PolicyTuned", .policyTuned, signatureOf "g"⟩

def grantFor (principal : String) : NetworkMembershipGrant :=
  ⟨"n", principal, principal, "g", 0, none, signatureOf "g"⟩

def publishOf (events : List Event) (i : Nat) : Call :=
  match events[i]? with
  | some e => .publish ⟨"n", e.authorNodeId⟩
      ⟨"1", 1, e.eventId, ⟨"n", ⟨.global, .events, "ws.global." ++ e.eventKind⟩⟩, .event,
        List.replicate i 0⟩
  | none => .challenge "n" "g"

def db : Db :=
  match seedTrustedNetworkGenesis config (Db.empty (initSchema none)) with
  | .ok db => db
  | .error _ => Db.empty []

def world : World := World.start db 0

lemma append_ne {a b : String} (h : ¬ a.toList <+: b.toList) (id : String) : a ++ id ≠ b := by
  rintro rfl
  rw [String.toList_append] at h
  exact h (List.prefix_append _ _)

lemma label_global (events : List Event) (scope : SwarmScope) :
    (wattswarm events).scopeLabel scope = some "global" ↔ scope = .global := by
  cases scope with
  | global => exact iff_of_true rfl rfl
  | region id =>
    refine iff_of_false (fun h => ?_) (by simp)
    exact append_ne (a := "region:") (by decide) id (Option.some.inj h)
  | node id =>
    refine iff_of_false (fun h => ?_) (by simp)
    exact append_ne (a := "node:") (by decide) id (Option.some.inj h)
  | group id =>
    refine iff_of_false (fun h => ?_) (by simp)
    exact append_ne (a := "group:") (by decide) id (Option.some.inj h)

def steps (t k : Nat) : List (Action Env) := List.replicate k (.run t .ok)

end Sample

/-! ## States -/

abbrev State := Sys Cmd Query Ans World Reply

def initial (X : Wattswarm) (config : Config) (calls : Nat → Call) (w : World) : State :=
  start w fun t => (calls t).prog X config

abbrev Reachable (X : Wattswarm) (config : Config) (calls : Nat → Call) (w : World) (s : State) :
    Prop :=
  Reaches gateway anyStep (initial X config calls w) s

end WattGateway.Message
