import WattGateway.Lib.Rust
import WattGateway.Message.Types

/-!
# Validation of published frames

`validate_record_frame` and the five decoders behind it, `validate_membership_snapshot_authority`
after its two reads, and the tenant limits: the parts of `service.rs` that read neither the
database nor the broker.
-/

namespace WattGateway.Message

/-- A change of a scope's members that an event carries. -/
inductive MembershipMutation where
  | snapshot (scope : SwarmScope) (membership : Membership) (quorumThreshold : Nat)
      (quorumSignatures : List SignatureEnvelope) (version : String)
  | principal (scope : SwarmScope) (principalId : String) (active : Bool) (version : String)

namespace MembershipMutation

def scope : MembershipMutation → SwarmScope
  | snapshot s _ _ _ _ => s
  | principal s _ _ _ => s

def version : MembershipMutation → String
  | snapshot _ _ _ _ v => v
  | principal _ _ _ v => v

/-- The members after the mutation, given those before. -/
def desired (existing : List String) : MembershipMutation → List String
  | snapshot _ m _ _ _ => m.rows.map Prod.fst
  | principal _ p active _ =>
    if active then (if p ∈ existing then existing else existing ++ [p])
    else existing.filter fun q => q ≠ p

/-- The roles the mutation writes for a member: those of the snapshot, else none. -/
def roles (p : String) : MembershipMutation → List Role
  | snapshot _ m _ _ _ => (m.get? p).getD []
  | principal _ _ _ _ => []

end MembershipMutation

structure ValidatedFrame where
  route : EventTransportRoute
  urgency : EventDeliveryUrgency
  membershipMutation : Option MembershipMutation

variable {e : String}

lemma bind_eq_error {α β : Type} {x : Except String α} {f : α → Except String β} :
    x >>= f = .error e ↔ x = .error e ∨ ∃ a, x = .ok a ∧ f a = .error e := by
  cases x with
  | error =>
    constructor
    · exact fun h => .inl (by cases h; rfl)
    · rintro (h | ⟨a, h, -⟩) <;> cases h
      rfl
  | ok a =>
    constructor
    · exact fun h => .inr ⟨a, rfl, h⟩
    · rintro (h | ⟨_, h, hf⟩)
      · cases h
      · cases h
        exact hf

lemma failIf_eq_error {b : Prop} [Decidable b] {e' : String} :
    failIf b e = .error e' ↔ b ∧ e' = e := by
  unfold failIf
  by_cases hb : b <;> simp [hb, eq_comm]

lemma orFail_eq_error {α : Type} {e' : String} {x : Option α} :
    orFail e x = .error e' ↔ x = none ∧ e' = e := by
  cases x <;> simp [orFail, eq_comm]

def isPublicGlobalControl : EventPayload → Bool
  | .membershipUpdated _ => true
  | .policyTuned => true
  | .networkParamsUpdated => true
  | .checkpointCreated => true
  | .advisoryCreated => true
  | .advisoryApproved => true
  | .advisoryApplied => true
  | .eventRevoked => true
  | .summaryRevoked => true
  | .nodePenalized => true
  | .feedSubscriptionUpdated _ => false
  | .other => false

/-- The membership mutation of an event: a snapshot of the Global scope, or the author's own
subscription to a Group or Region. -/
def mutationOf (event : Event) : Except String (Option MembershipMutation) :=
  match event.payload with
  | .membershipUpdated payload =>
    .ok (some (.snapshot .global payload.newMembership payload.quorumThreshold
      payload.quorumSignatures event.eventId))
  | .feedSubscriptionUpdated payload => do
    let hint ← orFail "subscription mutation has invalid scope" payload.scope
    failIf (payload.subscriberNodeId ≠ event.authorNodeId)
      "subscription mutation author must be its subscriber"
    match scopeFromHint hint with
    | .global => .ok none
    | .node _ => .ok none
    | scope => .ok (some (.principal scope payload.subscriberNodeId payload.active event.eventId))
  | _ => .ok none

section

variable (X : Wattswarm)

def validateEventFrame (frame : PublishFrame) (session : VerifiedSession) :
    Except String ValidatedFrame := do
  let event ← orFail "invalid Event" (X.decodeEvent frame.payload)
  failIf (X.verifyEventSignature event = false) "invalid Event signature"
  failIf (event.eventId ≠ frame.recordId ∨ event.authorNodeId ≠ session.principalId)
    "signed Event identity or author does not match session"
  let hint ← orFail "signed Event has invalid swarm scope" (X.parseScopeHint event.swarmScope)
  let lane := if event.eventKind = "TopicMessagePosted" then PropagationLane.messages
    else PropagationLane.events
  let publicGlobalControl := isPublicGlobalControl event.payload
  let route ← orFail "invalid transport route"
    (X.fromKindLabel (scopeFromHint hint) lane event.eventKind publicGlobalControl)
  failIf (route ≠ frame.route.transport)
    "transport route does not match signed Event scope and kind"
  failIf (frame.payloadType = .message ∧ route.lane ≠ .messages)
    "Message payload type requires the existing Messages lane Event"
  failIf (route.scope = .global ∧ publicGlobalControl = false)
    "non-control Event cannot use the Global route"
  let urgency := match route.scope with
    | .node _ => EventDeliveryUrgency.explicitRecipient
    | _ => if publicGlobalControl then .timeSensitiveControl else .background
  let mutation ← mutationOf event
  failIf (∃ m ∈ mutation, m.scope ≠ route.scope)
    "membership mutation scope does not match signed Event route"
  return ⟨route, urgency, mutation⟩

def verifyAuthorityRecord (session : VerifiedSession) (signer signature : Option String)
    (message : SignedMessage) : Except String Unit :=
  match signer, signature with
  | some signer, some signature => do
    failIf (signer ≠ session.principalId) "Global authority record signer does not match session"
    failIf (X.verifySignature signer message signature = false) "invalid signature"
  | _, _ => .error "Global authority record requires an author signature"

/-- A check that is made for the Global scope only. -/
def ifGlobal (scope : SwarmScope) (check : Except String Unit) : Except String Unit :=
  if scope = .global then check else .ok ()

def announcementRoute (scope : SwarmScope) (lane : PropagationLane) (publicGlobalControl : Bool) :
    Except String EventTransportRoute :=
  orFail "invalid transport route" (X.fromKindLabel scope lane (X.laneStr lane) publicGlobalControl)

section

variable (frame : PublishFrame)

section

variable (session : VerifiedSession)

def validateRuleFrame : Except String ValidatedFrame := do
  let rule ← orFail "invalid Rule" (X.decodeRule frame.payload)
  failIf (frame.recordId ≠ X.hex (.record frame.payload))
    "Rule record id does not match its canonical record bytes"
  ifGlobal rule.scope (verifyAuthorityRecord X session rule.authoritySignerNodeId
    rule.authoritySignatureHex
    (.rule rule.scope rule.ruleSet rule.ruleVersion rule.activationEpoch))
  let route ← announcementRoute X rule.scope .rules (rule.scope = .global)
  failIf (route ≠ frame.route.transport) "Rule transport route mismatch"
  return ⟨route, .timeSensitiveControl, none⟩

def validateCheckpointFrame : Except String ValidatedFrame := do
  let checkpoint ← orFail "invalid Checkpoint" (X.decodeCheckpoint frame.payload)
  failIf (checkpoint.checkpointId ≠ frame.recordId) "Checkpoint record id mismatch"
  ifGlobal checkpoint.scope (verifyAuthorityRecord X session checkpoint.authoritySignerNodeId
    checkpoint.authoritySignatureHex
    (.checkpoint checkpoint.scope checkpoint.checkpointId checkpoint.artifactPath))
  let route ← announcementRoute X checkpoint.scope .checkpoints (checkpoint.scope = .global)
  failIf (route ≠ frame.route.transport) "Checkpoint transport route mismatch"
  return ⟨route, .background, none⟩

def validateSummaryFrame : Except String ValidatedFrame := do
  let summary ← orFail "invalid Summary" (X.decodeSummary frame.payload)
  failIf (summary.summaryId ≠ frame.recordId ∨ summary.sourceNodeId ≠ session.principalId)
    "Summary identity or source does not match session"
  let route ← announcementRoute X summary.scope .summaries false
  failIf (route ≠ frame.route.transport) "Summary transport route mismatch"
  return ⟨route, .background, none⟩

end

end

def maxPublishFrameBytes : Nat := 1024 * 1024

def validateRecordFrame (frame : PublishFrame) (session : VerifiedSession) :
    Except String ValidatedFrame := do
  failIf (frame.payload.length > maxPublishFrameBytes) "publish frame exceeds the V1 size limit"
  match frame.payloadType with
  | .event => validateEventFrame X frame session
  | .message => validateEventFrame X frame session
  | .rule => validateRuleFrame X frame session
  | .checkpoint => validateCheckpointFrame X frame session
  | .summary => validateSummaryFrame X frame session

variable {X}
variable {m : MembershipMutation}

lemma mutationOf_cases {event : Event} (h : mutationOf event = .ok (some m)) :
    (∃ membership threshold signatures,
      m = .snapshot .global membership threshold signatures event.eventId) ∨
    (∃ scope active, m = .principal scope event.authorNodeId active event.eventId ∧
      scope ≠ .global ∧ ∀ id, scope ≠ .node id) := by
  unfold mutationOf at h
  split at h
  · cases h
    exact .inl ⟨_, _, _, rfl⟩
  · obtain ⟨_, h⟩ := rest_ok h
    obtain ⟨_, ha, h⟩ := bind_eq_ok.1 h
    rw [failIf_eq_ok, not_not] at ha
    split at h
    · cases h
    · cases h
    · rename_i hg hno
      cases h
      rw [ha]
      exact .inr ⟨_, _, rfl, hg, hno⟩
  · cases h

/-- The mutation is one of the frame's scope, a snapshot or about the session's own principal. -/
def MutationOf (frame : PublishFrame) (session : VerifiedSession) (vf : ValidatedFrame)
    (m : MembershipMutation) : Prop :=
  m.scope = vf.route.scope ∧ ((∃ membership threshold signatures,
      m = .snapshot .global membership threshold signatures frame.recordId) ∨
    (∃ scope active, m = .principal scope session.principalId active frame.recordId ∧
      scope ≠ .global ∧ ∀ id, scope ≠ .node id))

variable {frame : PublishFrame} {session : VerifiedSession} {vf : ValidatedFrame}

lemma validateEventFrame_mutation (h : validateEventFrame X frame session = .ok vf)
    (hm : vf.membershipMutation = some m) : MutationOf frame session vf m := by
  unfold validateEventFrame at h
  obtain ⟨_, h⟩ := rest_ok h
  obtain ⟨_, h⟩ := rest_ok h
  obtain ⟨_, hi, h⟩ := bind_eq_ok.1 h
  obtain ⟨_, h⟩ := rest_ok h
  obtain ⟨_, h⟩ := rest_ok h
  obtain ⟨_, h⟩ := rest_ok h
  obtain ⟨_, h⟩ := rest_ok h
  obtain ⟨_, h⟩ := rest_ok h
  obtain ⟨mutation, hu, h⟩ := bind_eq_ok.1 h
  obtain ⟨_, hs, h⟩ := bind_eq_ok.1 h
  rw [failIf_eq_ok] at hi hs
  cases h
  replace hm : mutation = some m := hm
  subst hm
  push Not at hi hs
  refine ⟨hs m rfl, ?_⟩
  rw [← hi.1, ← hi.2]
  exact mutationOf_cases hu

lemma validateRecordFrame_mutation (h : validateRecordFrame X frame session = .ok vf)
    (hm : vf.membershipMutation = some m) : MutationOf frame session vf m := by
  unfold validateRecordFrame at h
  obtain ⟨_, h⟩ := rest_ok h
  split at h
  · exact validateEventFrame_mutation h hm
  · exact validateEventFrame_mutation h hm
  · -- the other records carry no mutation
    unfold validateRuleFrame at h
    obtain ⟨_, h⟩ := rest_ok h
    obtain ⟨_, h⟩ := rest_ok h
    obtain ⟨_, h⟩ := rest_ok h
    obtain ⟨route, -, h⟩ := bind_eq_ok.1 h
    obtain ⟨_, h⟩ := rest_ok h
    cases h
    cases hm
  · unfold validateCheckpointFrame at h
    obtain ⟨_, h⟩ := rest_ok h
    obtain ⟨_, h⟩ := rest_ok h
    obtain ⟨_, h⟩ := rest_ok h
    obtain ⟨route, -, h⟩ := bind_eq_ok.1 h
    obtain ⟨_, h⟩ := rest_ok h
    cases h
    cases hm
  · unfold validateSummaryFrame at h
    obtain ⟨_, h⟩ := rest_ok h
    obtain ⟨_, h⟩ := rest_ok h
    obtain ⟨_, h⟩ := rest_ok h
    obtain ⟨_, h⟩ := rest_ok h
    cases h
    cases hm

variable (X)

/-! ## The authority of a membership snapshot -/

def u32Max : Nat := 2 ^ 32 - 1

/-- The principals with the Finalizer role among the active global rows. -/
def finalizersOf (rows : List (String × List Role)) : List String :=
  (rows.filter fun pr => Role.finalizer ∈ pr.2).map Prod.fst

/-- `allowed_signers`: genesis alone for its own snapshot, else the current Finalizers, of which
the author must be one. -/
def allowedSigners (genesis : String) (rows : List (String × List Role)) (author : String) :
    Except String (List String) :=
  if author = genesis then .ok [genesis]
  else if author ∈ finalizersOf rows then .ok (finalizersOf rows)
  else .error "MembershipUpdated author is not a projected Finalizer"

/-- The counting loop over the quorum signatures: a signer counts at its first envelope only. -/
def countValid (membership : Membership) (allowed : List String) :
    List SignatureEnvelope → List String → Nat → Nat
  | [], _, valid => valid
  | s :: rest, unique, valid =>
    if s.signerNodeId ∈ unique then countValid membership allowed rest unique valid
    else if s.signerNodeId ∉ allowed then
      countValid membership allowed rest (s.signerNodeId :: unique) valid
    else if X.verifySignature s.signerNodeId (.membership membership) s.signatureHex then
      countValid membership allowed rest (s.signerNodeId :: unique) (min (valid + 1) u32Max)
    else countValid membership allowed rest (s.signerNodeId :: unique) valid

/-- The quorum rule on the genesis authority and the active global roles that were read. -/
def snapshotAuthority (genesis : Option String) (rows : List (String × List Role))
    (author : String) (membership : Membership) (quorumThreshold : Nat)
    (quorumSignatures : List SignatureEnvelope) : Except String Unit := do
  failIf (quorumThreshold = 0 ∨ quorumSignatures.length < quorumThreshold)
    "membership quorum signatures are insufficient"
  let genesis ← orFail "network Genesis authority is not projected" genesis
  let allowed ← allowedSigners genesis rows author
  failIf (countValid X membership allowed quorumSignatures [] 0 < quorumThreshold)
    "membership quorum signatures are invalid"

end

/-! ## Tenant limits -/

def validateProposedTenantCount (config : Config) (active : Nat) : Except String Unit := do
  failIf (active > config.maxActiveTenants ∨ active > config.maxFanoutRecipients)
    "membership would exceed ClientServer tenant or fanout admission"
  let admittedQueues := satMul config.clusterQueueLimit config.mailboxShardAdmissionPercent / 100
  failIf (satAdd (satMul active 2) 16 > admittedQueues)
    "membership would exceed RabbitMQ queue admission"
  let required := satAdd (satMul config.maxGlobalPublishesPerSecond active)
    config.reservedNonGlobalDeliveriesPerSecond
  let safe := satMul config.maxFanoutDeliveriesPerSecond
    config.fanoutAdmissionUtilizationPercent / 100
  failIf (required > safe) "membership would exceed Global delivery-rate admission"

/-- The limits of `validate_active_tenant_admission`, on the number of active tenants. -/
def validateActiveTenantCount (config : Config) (active : Nat) : Except String Nat := do
  failIf (active > config.maxActiveTenants ∨ active > config.maxFanoutRecipients)
    "active tenant count exceeds ClientServer cell admission"
  let admittedQueues := satMul config.clusterQueueLimit config.mailboxShardAdmissionPercent / 100
  failIf (satAdd (satMul active 2) 16 > admittedQueues)
    "active tenant mailbox queues exceed cell admission threshold"
  let required := satAdd (satMul config.maxGlobalPublishesPerSecond active)
    config.reservedNonGlobalDeliveriesPerSecond
  let safe := satMul config.maxFanoutDeliveriesPerSecond
    config.fanoutAdmissionUtilizationPercent / 100
  failIf (required > safe) "active tenant count violates Global delivery-rate admission"
  return active

end WattGateway.Message
