import WattGateway.Message.Publish

/-!
# Who a published record speaks for

The records behind the five payload types, read as one type. A frame that `validate_record_frame`
accepts speaks for the session's principal only, with one exception that the code makes on purpose:
the authority fields of a Rule or Checkpoint are read in the Global scope alone.
-/

namespace WattGateway.Message

open List Option

variable {scope : SwarmScope}

inductive Record where
  | event (e : Event)
  | rule (r : RuleAnnouncement)
  | checkpoint (c : CheckpointAnnouncement)
  | summary (s : SummaryAnnouncement)

def decodeRecord (X : Wattswarm) (frame : PublishFrame) : Option Record :=
  match frame.payloadType with
  | .event => (X.decodeEvent frame.payload).map .event
  | .message => (X.decodeEvent frame.payload).map .event
  | .rule => (X.decodeRule frame.payload).map .rule
  | .checkpoint => (X.decodeCheckpoint frame.payload).map .checkpoint
  | .summary => (X.decodeSummary frame.payload).map .summary

def EventPayload.subscriber : EventPayload → Option String
  | .feedSubscriptionUpdated p => some p.subscriberNodeId
  | _ => none

namespace Record

/-- The principals named as author, subscriber, source or authority signer. -/
def names : Record → List String
  | event e => e.authorNodeId :: e.payload.subscriber.toList
  | rule r => r.authoritySignerNodeId.toList
  | checkpoint c => c.authoritySignerNodeId.toList
  | summary s => [s.sourceNodeId]

/-- The author or authority signature; a summary has no field for one. -/
def signature : Record → Option String
  | event e => some e.signatureHex
  | rule r => r.authoritySignatureHex
  | checkpoint c => c.authoritySignatureHex
  | summary _ => none

/-- Whether the record is a Rule or Checkpoint of a scope other than Global. -/
def LocalAuthority : Record → Prop
  | event _ => False
  | rule r => r.scope ≠ .global
  | checkpoint c => c.scope ≠ .global
  | summary _ => False

/-- Whether the record is one that must be signed: an event, or an authority record of the Global
scope. -/
def MustSign : Record → Prop
  | event _ => True
  | rule r => r.scope = .global
  | checkpoint c => c.scope = .global
  | summary _ => False

def route (X : Wattswarm) : Record → Option EventTransportRoute
  | event e => do
    let hint ← X.parseScopeHint e.swarmScope
    X.fromKindLabel (scopeFromHint hint)
      (if e.eventKind = "TopicMessagePosted" then .messages else .events) e.eventKind
      (isPublicGlobalControl e.payload)
  | rule r => X.fromKindLabel r.scope .rules (X.laneStr .rules) (r.scope = .global)
  | checkpoint c =>
    X.fromKindLabel c.scope .checkpoints (X.laneStr .checkpoints) (c.scope = .global)
  | summary s => X.fromKindLabel s.scope .summaries (X.laneStr .summaries) false

end Record

/-- The signature checks of `wattswarm_crypto` are sound for `signedBy p r sig`, the fact that
`sig` is a signature of `p`'s key over the record `r`. -/
structure SoundVerify (X : Wattswarm) (signedBy : String → Record → String → Prop) : Prop where
  event : ∀ e, X.verifyEventSignature e = true → signedBy e.authorNodeId (.event e) e.signatureHex
  rule : ∀ p sig (r : RuleAnnouncement),
    X.verifySignature p (.rule r.scope r.ruleSet r.ruleVersion r.activationEpoch) sig = true →
      signedBy p (.rule r) sig
  checkpoint : ∀ p sig (c : CheckpointAnnouncement),
    X.verifySignature p (.checkpoint c.scope c.checkpointId c.artifactPath) sig = true →
      signedBy p (.checkpoint c) sig

/-- The record speaks for `p` alone: every principal it names is `p`, and every signature it
carries is one of `p`'s key. -/
def Record.SpeaksFor (signedBy : String → Record → String → Prop) (p : String) (r : Record) :
    Prop :=
  (∀ q ∈ r.names, q = p) ∧ ∀ sig, r.signature = some sig → signedBy p r sig

section

variable {X : Wattswarm} {signedBy : String → Record → String → Prop} {session : VerifiedSession}
  {frame : PublishFrame} {vf : ValidatedFrame}

lemma subscriber_of_mutationOf {e : Event} {mutation : Option MembershipMutation}
    (h : mutationOf e = .ok mutation) : ∀ q ∈ e.payload.subscriber, q = e.authorNodeId := by
  intro q hq
  unfold mutationOf at h
  unfold EventPayload.subscriber at hq
  split at hq
  · rename_i payload hp
    simp only [hp] at h
    obtain ⟨_, h⟩ := rest_ok h
    obtain ⟨_, ha, -⟩ := bind_eq_ok.1 h
    rw [failIf_eq_ok, not_not] at ha
    rw [← ha]
    exact (Option.some.inj hq).symm
  · cases hq

variable {signer signature : Option String} {message : SignedMessage} {u : Unit}

lemma verifyAuthorityRecord_eq_ok
    (h : verifyAuthorityRecord X session signer signature message = .ok u) :
    ∃ sig, signer = some session.principalId ∧ signature = some sig ∧
      X.verifySignature session.principalId message sig = true := by
  unfold verifyAuthorityRecord at h
  split at h
  · rename_i p sig
    obtain ⟨_, hp, h⟩ := bind_eq_ok.1 h
    rw [failIf_eq_ok, not_not] at hp
    rw [failIf_eq_ok, Bool.not_eq_false] at h
    subst hp
    exact ⟨sig, rfl, rfl, h⟩
  · cases h

lemma speaksFor_of_authority {r : Record} (hn : r.names = signer.toList)
    (hsi : r.signature = signature)
    (ho : ∀ sig, X.verifySignature session.principalId message sig = true →
      signedBy session.principalId r sig)
    (h : verifyAuthorityRecord X session signer signature message = .ok u) :
    r.SpeaksFor signedBy session.principalId ∧ r.signature.isSome := by
  obtain ⟨sig, hi, hg, hv⟩ := verifyAuthorityRecord_eq_ok h
  refine ⟨⟨fun q hq => ?_, fun sig' hs => ?_⟩, ?_⟩
  · rw [hn, hi] at hq
    exact mem_singleton.1 hq
  · rw [hsi, hg] at hs
    rw [← Option.some.inj hs]
    exact ho sig hv
  · rw [hsi, hg]
    rfl

lemma ifGlobal_eq_ok {check : Except String Unit} :
    ifGlobal scope check = .ok u ↔ (scope = .global → check = .ok u) := by
  unfold ifGlobal
  by_cases hs : scope = .global
  · rw [if_pos hs]
    exact ⟨fun h _ => h, fun h => h hs⟩
  · rw [if_neg hs]
    exact ⟨fun _ h => absurd h hs, fun _ => rfl⟩

/-- What acceptance says of a record: it speaks for the session's principal unless it is an
authority record outside the Global scope, a record that must be signed is, its route is its own,
and a mutation is the signed event's. -/
structure Accepted (X : Wattswarm) (signedBy : String → Record → String → Prop)
    (session : VerifiedSession) (vf : ValidatedFrame) (r : Record) : Prop where
  speaks : ¬ r.LocalAuthority → r.SpeaksFor signedBy session.principalId
  signed : r.MustSign → r.signature.isSome
  route : r.route X = some vf.route
  mutation : ∀ m, vf.membershipMutation = some m →
    m.scope = vf.route.scope ∧ ∃ e, r = .event e ∧ mutationOf e = .ok (some m)

lemma validateEventFrame_accepted (hX : SoundVerify X signedBy)
    (h : validateEventFrame X frame session = .ok vf) :
    ∃ e, X.decodeEvent frame.payload = some e ∧ Accepted X signedBy session vf (.event e) := by
  unfold validateEventFrame at h
  obtain ⟨e, hd, h⟩ := bind_eq_ok.1 h
  obtain ⟨_, hg, h⟩ := bind_eq_ok.1 h
  obtain ⟨_, hi, h⟩ := bind_eq_ok.1 h
  obtain ⟨_, hh, h⟩ := bind_eq_ok.1 h
  obtain ⟨_, hr, h⟩ := bind_eq_ok.1 h
  obtain ⟨_, h⟩ := rest_ok h
  obtain ⟨_, h⟩ := rest_ok h
  obtain ⟨_, h⟩ := rest_ok h
  obtain ⟨_, hu, h⟩ := bind_eq_ok.1 h
  obtain ⟨_, hc, h⟩ := bind_eq_ok.1 h
  rw [orFail_eq_ok] at hd hh hr
  rw [failIf_eq_ok] at hg hi hc
  push Not at hi hc
  cases h
  refine ⟨e, hd, fun _ => ⟨fun q hq => ?_, fun sig hs => ?_⟩, fun _ => rfl, ?_,
    fun m hm => ⟨hc m hm, e, rfl, ?_⟩⟩
  · show q = session.principalId
    rw [← hi.2]
    rcases mem_cons.1 hq with rfl | hq
    · rfl
    · exact subscriber_of_mutationOf hu q (mem_toList.1 hq)
  · cases hs
    rw [← hi.2]
    exact hX.event e (Bool.not_eq_false _ ▸ hg)
  · show (X.parseScopeHint e.swarmScope).bind _ = _
    rw [hh, bind_some]
    exact hr
  · rw [hu]
    exact congrArg Except.ok hm

lemma announcementRoute_eq_ok {lane : PropagationLane} {b : Bool}
    {route : EventTransportRoute} : announcementRoute X scope lane b = .ok route ↔
      X.fromKindLabel scope lane (X.laneStr lane) b = some route := by
  unfold announcementRoute
  exact orFail_eq_ok

lemma validateRuleFrame_accepted (hX : SoundVerify X signedBy)
    (h : validateRuleFrame X frame session = .ok vf) :
    ∃ r, X.decodeRule frame.payload = some r ∧ Accepted X signedBy session vf (.rule r) := by
  unfold validateRuleFrame at h
  obtain ⟨r, hd, h⟩ := bind_eq_ok.1 h
  obtain ⟨_, h⟩ := rest_ok h
  obtain ⟨_, ha, h⟩ := bind_eq_ok.1 h
  obtain ⟨_, hr, h⟩ := bind_eq_ok.1 h
  obtain ⟨_, h⟩ := rest_ok h
  rw [orFail_eq_ok] at hd
  rw [ifGlobal_eq_ok] at ha
  rw [announcementRoute_eq_ok] at hr
  cases h
  have ho := fun hs => speaksFor_of_authority (r := .rule r) rfl rfl
    (fun sig => hX.rule _ sig r) (ha hs)
  exact ⟨r, hd, fun hs => (ho (not_not.1 hs)).1, fun hs => (ho hs).2, hr, fun m hm => by cases hm⟩

lemma validateCheckpointFrame_accepted (hX : SoundVerify X signedBy)
    (h : validateCheckpointFrame X frame session = .ok vf) :
    ∃ c, X.decodeCheckpoint frame.payload = some c ∧
      Accepted X signedBy session vf (.checkpoint c) := by
  unfold validateCheckpointFrame at h
  obtain ⟨c, hd, h⟩ := bind_eq_ok.1 h
  obtain ⟨_, h⟩ := rest_ok h
  obtain ⟨_, ha, h⟩ := bind_eq_ok.1 h
  obtain ⟨_, hr, h⟩ := bind_eq_ok.1 h
  obtain ⟨_, h⟩ := rest_ok h
  rw [orFail_eq_ok] at hd
  rw [ifGlobal_eq_ok] at ha
  rw [announcementRoute_eq_ok] at hr
  cases h
  have ho := fun hs => speaksFor_of_authority (r := .checkpoint c) rfl rfl
    (fun sig => hX.checkpoint _ sig c) (ha hs)
  exact ⟨c, hd, fun hs => (ho (not_not.1 hs)).1, fun hs => (ho hs).2, hr, fun m hm => by cases hm⟩

variable (signedBy) in
lemma validateSummaryFrame_accepted (h : validateSummaryFrame X frame session = .ok vf) :
    ∃ s, X.decodeSummary frame.payload = some s ∧ Accepted X signedBy session vf (.summary s) := by
  unfold validateSummaryFrame at h
  obtain ⟨s, hd, h⟩ := bind_eq_ok.1 h
  obtain ⟨_, hi, h⟩ := bind_eq_ok.1 h
  obtain ⟨_, hr, h⟩ := bind_eq_ok.1 h
  obtain ⟨_, h⟩ := rest_ok h
  rw [orFail_eq_ok] at hd
  rw [failIf_eq_ok] at hi
  push Not at hi
  rw [announcementRoute_eq_ok] at hr
  cases h
  refine ⟨s, hd, fun _ => ⟨fun q hq => ?_, fun sig hs => by cases hs⟩, False.elim, hr,
    fun m hm => by cases hm⟩
  rw [mem_singleton.1 hq]
  exact hi.2

/-- Nobody publishes in another's name: an accepted frame's record, authority records outside the
Global scope apart, names and is signed by the session's principal only; the records that must be
signed are; the route is the record's own; a mutation comes from the signed event and concerns the
scope it is routed to. -/
theorem accepted_speaksFor_session (hX : SoundVerify X signedBy)
    (h : validateRecordFrame X frame session = .ok vf) :
    ∃ r, decodeRecord X frame = some r ∧ Accepted X signedBy session vf r := by
  unfold validateRecordFrame at h
  obtain ⟨_, h⟩ := rest_ok h
  unfold decodeRecord
  split at h
  · obtain ⟨e, he, ha⟩ := validateEventFrame_accepted hX h
    exact ⟨.event e, by simp [*], ha⟩
  · obtain ⟨e, _, ha⟩ := validateEventFrame_accepted hX h
    exact ⟨.event e, by simp [*], ha⟩
  · obtain ⟨r, _, ha⟩ := validateRuleFrame_accepted hX h
    exact ⟨.rule r, by simp [*], ha⟩
  · obtain ⟨c, _, ha⟩ := validateCheckpointFrame_accepted hX h
    exact ⟨.checkpoint c, by simp [*], ha⟩
  · obtain ⟨s, _, ha⟩ := validateSummaryFrame_accepted signedBy h
    exact ⟨.summary s, by simp [*], ha⟩

end

namespace Sample

def groupRule : RuleAnnouncement :=
  ⟨.group "a", "rules", 1, 0, some "g", some "no signature"⟩

def signedRecords : Wattswarm :=
  { wattswarm [policyTuned "e"] with decodeRule := fun _ => some groupRule }

def bearsSignature (p : String) (_ : Record) (sig : String) : Prop := sig = signatureOf p

lemma signedRecords_sound : SoundVerify signedRecords bearsSignature where
  event _ := of_decide_eq_true
  rule _ _ _ := of_decide_eq_true
  checkpoint _ _ _ := of_decide_eq_true

def groupRuleFrame : PublishFrame :=
  ⟨"1", 1, "digest", ⟨"n", ⟨.group "a", .rules, "ws.group:a.lane"⟩⟩, .rule, []⟩

def policyFrame : PublishFrame :=
  ⟨"1", 1, "e", ⟨"n", ⟨.global, .events, "ws.global.PolicyTuned"⟩⟩, .event, []⟩

end Sample

open Sample in
theorem accepted_speaksFor_session_policyTuned :
    validateRecordFrame signedRecords policyFrame ⟨"n", "g"⟩ =
      .ok ⟨⟨.global, .events, "ws.global.PolicyTuned"⟩, .timeSensitiveControl, none⟩ ∧
    ∃ r, decodeRecord signedRecords policyFrame = some r ∧
      Accepted signedRecords bearsSignature ⟨"n", "g"⟩
        ⟨⟨.global, .events, "ws.global.PolicyTuned"⟩, .timeSensitiveControl, none⟩ r :=
  ⟨rfl, accepted_speaksFor_session signedRecords_sound rfl⟩

open Sample in
/-- A Group's rule is accepted from a session whose principal is not the authority it names, with
a signature that nobody made. -/
theorem groupRule_of_other_accepted : SoundVerify signedRecords bearsSignature ∧
    validateRecordFrame signedRecords groupRuleFrame ⟨"n", "mallory"⟩ =
      .ok ⟨⟨.group "a", .rules, "ws.group:a.lane"⟩, .timeSensitiveControl, none⟩ ∧
    decodeRecord signedRecords groupRuleFrame = some (.rule groupRule) ∧
    "g" ∈ (Record.rule groupRule).names ∧ ("g" : String) ≠ "mallory" ∧
    (Record.rule groupRule).signature = some "no signature" ∧
    ¬ bearsSignature "mallory" (.rule groupRule) "no signature" := by
  refine ⟨signedRecords_sound, rfl, rfl, ?_, ?_, rfl, ?_⟩
  · exact mem_singleton.2 rfl
  · decide
  · show ¬ "no signature" = signatureOf "mallory"
    decide

end WattGateway.Message
