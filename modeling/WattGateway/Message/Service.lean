import WattGateway.Message.Frames
import WattGateway.Message.World

/-!
# The service functions

`ensure_tenant_transport_admission`, `admit_grant`, `send_control` and `publish` of `service.rs`
with the parts of `rabbit.rs` and `db.rs` they call, as programs: each `await` on the database or
the broker is one command or query, in the order of the source. A timeout around a loop is a
failure of one of its steps. Metrics are left out.
-/

namespace WattGateway.Message

open Prog DeliveryClass

abbrev Gw := Prog Cmd Query Ans

def select (s : Select) : Gw s.Row := query (Query.select s)

def txSelect (s : Select) : Gw s.Row := query (Query.txSelect s)

def stmt (s : Stmt) : Gw Unit := run (.stmt s)

def exec (s : Stmt) : Gw Unit := run (.exec s)

/-- `Utc::now()`, in milliseconds. -/
def nowMs : Gw Nat := query Query.clock

/-- `Duration::hours(24)`, in milliseconds. -/
def receiptLifetimeMs : Nat := 24 * 60 * 60 * 1000

/-- The additional route goes to the end of the stored ones if it is new. -/
def withRoute (additional : Option String) (routes : List String) : List String :=
  match additional with
  | some a => if a ∈ routes then routes else routes ++ [a]
  | none => routes

/-- Whether the mutation, if any, admits its own author to the scope. -/
def allowNetworkMemberAuthor (author : String) : Option MembershipMutation → Bool
  | some (.principal _ p active _) => active && p = author
  | _ => false

section

variable (X : Wattswarm) (config : Config)

/-! ## The broker adapter -/

def queueName (network principal : String) (cls : DeliveryClass) : String :=
  "ws.cs." ++ X.hex (.text network) ++ "." ++ principal ++ "." ++ cls.asStr

def directRouteKey (network principal : String) : Digest := .directRoute network principal

def scopeRouteKey (network address version : String) : Digest :=
  .scopeRoute network address version

def ensureTenantMailboxes (network principal : String) : Gw Unit :=
  forEach all fun cls => do
    run (.queueDeclare (queueName X network principal cls))
    run (.queueBind (.direct cls) (queueName X network principal cls)
      (directRouteKey network principal))

section

variable (network principal address version : String)

def bindScopeMember : Gw Unit := do
  ensureTenantMailboxes X network principal
  forEach all fun cls => run (.queueBind (.scope cls) (queueName X network principal cls)
      (scopeRouteKey network address version))

def unbindScopeMember : Gw Unit :=
  forEach all fun cls => run (.queueUnbind (.scope cls) (queueName X network principal cls)
      (scopeRouteKey network address version))

end

/-- `RabbitAdapter::publish`. -/
def publishRecord (recipient : Option String) (r : BrokerRecord) : Gw Unit :=
  match recipient with
  | some recipient => do
    ensureTenantMailboxes X r.networkId recipient
    run (.basicPublish (.direct r.deliveryClass) (directRouteKey r.networkId recipient)
      (.record r))
  | none => do
    let version ← ofOption "shared-scope publish is missing its membership version"
      r.membershipVersion
    run (.basicPublish (.scope r.deliveryClass)
      (scopeRouteKey r.networkId r.route.address version) (.record r))

def publishControl (c : BrokerControlRecord) : Gw Unit := do
  ensureTenantMailboxes X c.networkId c.targetPrincipalId
  run (.basicPublish (.direct .interactive) (directRouteKey c.networkId c.targetPrincipalId)
    (.control c))

/-! ## Admission -/

def validateActiveTenantAdmission (network : String) : Gw Nat := do
  let active ← select (.activeTenantCount network)
  ofExcept (validateActiveTenantCount config active)

def ensureTenantTransportAdmission (network principal : String) : Gw Unit := do
  let _ ← validateActiveTenantAdmission config network
  let admitted ← select (.principalIsAdmitted network principal)
  bailIf (admitted = false) "principal is not an active network member"
  ensureTenantMailboxes X network principal
  let routes ← select (.admissionRoutes network principal)
  forEach routes fun route => bindScopeMember X network principal route.1 route.2

/-! ## Membership mutations -/

def recordMembershipMutation (network label version : String) : Gw Unit := do
  stmt (.recordMembershipMutation network label version config.membershipMutationWindow)
  let count ← txSelect (.mutationCount network label)
  let count ← ofOption "no rows returned" count
  bailIf (count > config.maxMembershipMutationsPerScopePerWindow)
    "membership mutation window limit exceeded"

/-- The bindings `apply_membership_mutation` creates before it writes the tables. -/
def bindMembers (network version : String) (existing desired routes : List String) : Gw Unit := do
  forEach routes fun address =>
    forEach desired fun principal => bindScopeMember X network principal address version
  forEach (desired.filter fun p => p ∉ existing) fun principal =>
    ensureTenantMailboxes X network principal

/-- The statements by which `apply_membership_mutation` replaces the members and the route
bindings of a scope. -/
def mutationStmts (network label : String) (mutation : MembershipMutation)
    (desired routes : List String) : List Stmt :=
  .revokeScope network label mutation.version ::
    desired.map (fun p => .upsertMember network label p mutation.version (mutation.roles p)) ++
    .deleteScopeBindings network label ::
    (routes.flatMap fun a => desired.flatMap fun p => all.map fun cls =>
      .insertBinding network label a p cls mutation.version) ++
    [.upsertScopeVersion network label mutation.version]

def applyMembershipMutation (network : String) (mutation : MembershipMutation)
    (additionalRoute : Option String) : Gw Nat := do
  let started ← nowMs
  let label ← ofOption "invalid scope" (X.scopeLabel mutation.scope)
  recordMembershipMutation config network label mutation.version
  let existing ← txSelect (.activePrincipals network label)
  let desired := mutation.desired existing
  ofExcept (if mutation.scope = .global then validateProposedTenantCount config desired.length
    else .ok ())
  let stored ← txSelect (.routeAddresses network label)
  let routes := withRoute additionalRoute stored
  bindMembers X network mutation.version existing desired routes
  forEach (mutationStmts network label mutation desired routes) stmt
  let ended ← nowMs
  bailIf (ended - started > config.maxMembershipBindingLag)
    "membership binding lag exceeds configured guardrail"
  return desired.length

/-! ## Grants -/

/-- The `BIGINT` conversions of `upsert_network_membership_grant`. -/
def grantTimesFit (grant : NetworkMembershipGrant) : Except String Unit := do
  failIf (grant.issuedAt > i64Max)
    "network membership grant issued_at exceeds PostgreSQL BIGINT"
  failIf (∃ e ∈ grant.expiresAt, e > i64Max)
    "network membership grant expires_at exceeds PostgreSQL BIGINT"

def grantVersion (grantId : String) : String := "grant:" ++ grantId

def grantMutation (grant : NetworkMembershipGrant) (grantId : String) : MembershipMutation :=
  .principal .global grant.principalId true (grantVersion grantId)

def admitGrant (grant : NetworkMembershipGrant) : Gw GrantAdmissionResponse := do
  let expectedGenesis ← ofOption "network is not configured with a trusted Genesis authority"
    (config.trustedNetworkGenesis.get? grant.networkId)
  let now ← nowMs
  bailIf (X.verifyNetworkMembershipGrant grant expectedGenesis now = false) "invalid grant"
  let authority ← select (.principalIsGlobalAuthority grant.networkId expectedGenesis)
  bailIf (authority = false) "configured network Genesis authority is not active"
  let grantId ← ofOption "invalid grant" (X.networkMembershipGrantId grant)
  run (.begin grant.networkId "global" true)
  ofExcept (grantTimesFit grant)
  stmt (.upsertNetworkMembershipGrant grant.networkId grant.principalId grantId grant.issuedAt
    grant.expiresAt)
  let activeVersion ← txSelect (.admittedVersion grant.networkId grant.principalId)
  match activeVersion with
  | some version => do
    run .commit
    return ⟨grant.networkId, grant.principalId, version, "active"⟩
  | none => do
    let _ ← applyMembershipMutation X config grant.networkId (grantMutation grant grantId) none
    run .commit
    return ⟨grant.networkId, grant.principalId, grantVersion grantId, "active"⟩

/-! ## Control frames -/

/-- The checks `send_control` makes on the frame alone. -/
def controlFrameInvalid (session : VerifiedSession) (frame : ControlFrame) : Prop :=
  frame.framingVersion ≠ "1" ∨ frame.networkId ≠ session.networkId ∨
    frame.sourcePrincipalId ≠ session.principalId ∨
    frame.correlationId.toList.all isWhiteSpace = true ∨ frame.payload.length > 1024 * 1024

instance (session : VerifiedSession) (frame : ControlFrame) :
    Decidable (controlFrameInvalid session frame) :=
  inferInstanceAs (Decidable (_ ∨ _))

/-- A stored receipt was made for another frame. -/
def controlReceiptDiffers (receipt : ReceiptRow) (routeHash bindingHash : Digest) : Prop :=
  receipt.authorizedRouteHash ≠ routeHash ∨ receipt.bindingSetHash ≠ bindingHash ∨
    receipt.deliveryClass ≠ .interactive ∨ receipt.deliveryPolicyVersion ≠ X.deliveryPolicyVersion

instance (receipt : ReceiptRow) (routeHash bindingHash : Digest) :
    Decidable (controlReceiptDiffers X receipt routeHash bindingHash) :=
  inferInstanceAs (Decidable (_ ∨ _))

def sendControl (session : VerifiedSession) (frame : ControlFrame) : Gw ControlAcceptance := do
  bailIf (controlFrameInvalid session frame) "control frame binding or size is invalid"
  let admitted ← select (.principalIsAdmitted session.networkId frame.targetPrincipalId)
  bailIf (admitted = false) "control target is not an active network member"
  bailIf (X.verifySignature frame.sourcePrincipalId (.control frame) frame.signatureHex = false)
    "invalid signature"
  let deliveryId ← ofOption "invalid delivery id"
    (X.stableDeliveryId session.networkId frame.correlationId frame.targetPrincipalId none)
  let gapRoute ← ofOption "invalid transport route"
    (X.fromKindLabel (.node frame.targetPrincipalId) .events "ClientServerControl" false)
  let bindingHash := Digest.controlBinding frame.targetPrincipalId frame.controlKind frame.payload
  let duplicate ← select (.confirmedReceipt session.networkId session.principalId
    frame.correlationId)
  match duplicate with
  | some receipt => do
    bailIf (controlReceiptDiffers X receipt (.route gapRoute) bindingHash)
      "control correlation id was already used with different immutable fields"
    return ⟨frame.correlationId, deliveryId⟩
  | none => do
    let enqueuedAt ← nowMs
    let now ← nowMs
    publishControl X ⟨session.networkId, frame.correlationId, frame.sourcePrincipalId,
      frame.targetPrincipalId, frame.controlKind, frame.payload, gapRoute,
      X.deliveryPolicyVersion, enqueuedAt, some (now + config.mailboxMessageTtlMs)⟩
    let now ← nowMs
    exec (.insertControlReceipt session.networkId session.principalId frame.correlationId
      (.route gapRoute) X.deliveryPolicyVersion bindingHash (now + receiptLifetimeMs))
    return ⟨frame.correlationId, deliveryId⟩

end

end WattGateway.Message
