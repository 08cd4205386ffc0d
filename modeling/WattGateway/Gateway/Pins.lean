import WattGateway.Gateway.Traces

/-!
# Pinned identities

A source may pin a node id to the signer it expects. The ingest paths look at one source only: a
push at the first match of `findNodeSourceForIdentity`, a pull at the source it fetches from, and
the fetch after an announcement at none. So the pins hold in the runs in which these choices agree
with the pin (`pins_hold`), and an announcement is enough to get past one (`announced_past_pin`).
-/

namespace WattGateway.Gateway

open List Option Sys Table

/-- The source pins the node to the signer. -/
def NodeSourceRow.Pins (source : NodeSourceRow) (nodeId signer : String) : Prop :=
  source.expectedWattswarmNodeId = some nodeId ∧ source.expectedSignerAgentDid = some signer

def P2pCommand.nodeId : P2pCommand → String
  | .snapshotAnnounceV1 nodeId _ _ => nodeId
  | .eventV1 event => event.payload.nodeId

/-- Snapshots and events that are stored, with the node they name: rows, artifacts and the outbox. -/
def Output.StoredFor (nodeId : String) : Output → Prop
  | .row (.snapshot nodeId' _) => nodeId' = nodeId
  | .row (.uiEvent _ stored) => stored.nodeId = nodeId
  | .row (.outbox _ stored) => stored.command.nodeId = nodeId
  | .artifact _ nodeId' _ => nodeId' = nodeId
  | _ => False

def Output.MadeOf (X : Deployment) : Output → Submission → Prop
  | .row (.snapshot nodeId stored), .snapshot s => nodeId = s.payload.nodeId ∧
      stored.payload = s.payload ∧ stored.signerAgentDid = s.signerAgentDid ∧
      stored.signature = s.signature
  | .row (.uiEvent eventId stored), sub => ∃ sourceId r cursor now, UiRecordOf X sourceId r sub ∧
      eventId = r.eventId ∧ stored = r.row cursor now
  | .row (.outbox dedupeKey stored), sub => ∃ r, OutboxOf r sub ∧ dedupeKey = r.dedupeKey ∧
      stored.command = r.command
  | .artifact _ nodeId s', .snapshot s => nodeId = s.payload.nodeId ∧ s' = s
  | _, _ => False

/-- Whatever is stored of a pinned node comes from a submission that a call admitted and the pinned
signer signed, and the source is active. -/
def PinsHold (X : Deployment) (sources : Sources) (calls : Nat → Call) (s : GatewaySys) : Prop :=
  ∀ id source nodeId signer, sources.get? id = some source → source.Pins nodeId signer →
    ∀ out, s.world.Holds out → out.StoredFor nodeId → source.sourceStatus = .active ∧
      ∃ sub t sourceId, Admitted X (calls t) (s.threads t).hist sub sourceId ∧
        out.MadeOf X sub ∧ sub.nodeId = nodeId ∧ sub.SignedBy X.toCrypto signer

/-! ## The condition -/

/-- Another source expects the same signer and has the same status. -/
def NodeSourceRow.Agrees (source other : NodeSourceRow) : Prop :=
  other.expectedSignerAgentDid = source.expectedSignerAgentDid ∧
    other.sourceStatus = source.sourceStatus

def Call.Submits (c : Call) (nodeId signer : String) : Prop :=
  (∃ s, c = .ingestSnapshot s ∧ s.payload.nodeId = nodeId ∧ s.signerAgentDid = signer) ∨
    ∃ e, c.event? = some e ∧ e.payload.nodeId = nodeId ∧ e.payload.signerAgentDid = signer

def Call.Announces (c : Call) (nodeId signer : String) : Prop :=
  ∃ propagationSource gatewayPeerId generatedAt contact, c = .gossip propagationSource
      (.snapshotAnnounceV1 gatewayPeerId nodeId signer generatedAt contact)

/-- What a call brings of a pinned node finds only sources that agree with the pin; no other active
source serves a snapshot of the node unless it agrees; and an announcement of the node names the
pinned signer while the source is active. -/
def Undisputed (sources : Sources) (calls : Nat → Call) (s : GatewaySys) : Action Env → Prop
  | .env _ => True
  | .run t _ => ∀ id source nodeId signer, sources.get? id = some source →
      source.Pins nodeId signer →
      (∀ claimed id' other, (calls t).Submits nodeId claimed → sources.get? id' = some other →
        (Db.identityRank nodeId claimed other).isSome → source.Agrees other) ∧
      (∀ id' other endpoint snapshot, sources.get? id' = some other →
        other.sourceStatus = .active → other.Serves endpoint →
        s.world.remote (.signedSnapshot endpoint) = some snapshot →
        snapshot.payload.nodeId = nodeId → source.Agrees other) ∧
      ∀ claimed, (calls t).Announces nodeId claimed →
        claimed = signer ∧ source.sourceStatus = .active

/-! ## What is stored comes from what is admitted -/

variable {nodeId : String}

lemma madeOf_of_derives {X : Deployment} {c : Call} {h : History} {t : Nat} {q : Query}
    {out : Output} (hd : Derives X c h q) (hm : Makes t q out) (hs : out.StoredFor nodeId) :
    ∃ sub sourceId, Admitted X c h sub sourceId ∧ out.MadeOf X sub := by
  cases q with
  | stmt s =>
    cases out with
    | row write =>
      cases s with
      | upsertSnapshot =>
        obtain ⟨s, sourceId, ha, rfl⟩ := hd
        cases write with
        | snapshot =>
          obtain ⟨rfl, now, _, rfl⟩ := hm
          exact ⟨.snapshot s, sourceId, ha, rfl, rfl, rfl, rfl⟩
        | _ => cases hm
      | insertUiEvent r =>
        obtain ⟨sub, sourceId, ha, hr⟩ := hd
        cases write with
        | uiEvent =>
          obtain ⟨hi, cursor, now, ho⟩ := hm
          exact ⟨sub, sourceId, ha, sourceId, r, cursor, now, hr, hi, ho⟩
        | _ => cases hm
      | insertP2pOutbox r =>
        obtain ⟨sub, sourceId, ha, hr⟩ := hd
        cases write with
        | outbox => exact ⟨sub, sourceId, ha, r, hr, hm⟩
        | _ => cases hm
      | _ =>
        -- the tables of the spaces are no part of what is stored of a node here
        cases write <;> first | exact False.elim hm | exact False.elim hs
    | _ => cases hm
  | persistSnapshotArtifact s =>
    cases out with
    | artifact =>
      obtain ⟨sourceId, ha⟩ := hd
      exact ⟨.snapshot s, sourceId, ha, hm⟩
    | _ => cases hm
  | write a =>
    cases a with
    | upsertProjectionRow =>
      cases out with
      | projection => cases hs
      | _ => cases hm
    | insertAuditRecord =>
      cases out with
      | audit => cases hs
      | _ => cases hm
    | updateSourceSyncStatus => cases out <;> cases hm
  | publishUiEvent =>
    cases out with
    | queued => cases hs
    | _ => cases hm
  | send =>
    cases out with
    | sent => cases hs
    | _ => cases hm
  | _ => cases out <;> cases hm

lemma nodeId_of_madeOf {X : Deployment} {out : Output} {sub : Submission} (hm : out.MadeOf X sub)
    (hs : out.StoredFor nodeId) : sub.nodeId = nodeId := by
  cases out with
  | row write =>
    cases write with
    | snapshot =>
      cases sub with
      | snapshot => exact hm.1.symm.trans hs
      | event => cases hm
    | uiEvent =>
      obtain ⟨_, r, _, _, hr, -, rfl⟩ := hm
      refine Eq.trans ?_ hs
      cases sub with
      | snapshot =>
        obtain ⟨_, _, _, _, _, -, rfl⟩ := hr
        rfl
      | event =>
        obtain ⟨-, ⟨-, rfl⟩ | ⟨-, _, -, rfl⟩⟩ := hr
        · rfl
        · rfl
    | outbox =>
      obtain ⟨_, hr, -, hc⟩ := hm
      refine Eq.trans ?_ hs
      rw [hc]
      cases sub with
      | snapshot | event =>
        cases hr
        rfl
    | _ => cases hs
  | artifact =>
    cases sub with
    | snapshot => exact hm.1.symm.trans hs
    | event => cases hm
  | _ => cases hs

/-! ## The lookup of a source -/

section

variable {db : Db} {nodeId claimed : String} {id : Nat} {source : NodeSourceRow}

lemma matches_of_find (h : db.findNodeSourceForIdentity nodeId claimed = some (id, source)) :
    db.nodeSources.get? id = some source ∧ (Db.identityRank nodeId claimed source).isSome := by
  unfold Db.findNodeSourceForIdentity at h
  obtain ⟨⟨_, _⟩, hh, hf⟩ := map_eq_some_iff.1 h
  cases hf
  have hm := (mem_insertionSort _).1 (mem_of_mem_head? hh)
  obtain ⟨_, ho, ha⟩ := mem_filterMap.1 hm
  obtain ⟨_, ha', heq⟩ := map_eq_some_iff.1 ha
  cases heq
  exact ⟨get?_eq_some.2 ho, isSome_of_eq_some ha'⟩

lemma find_of_matches (hg : db.nodeSources.get? id = some source)
    (ha : (Db.identityRank nodeId claimed source).isSome) :
    db.findNodeSourceForIdentity nodeId claimed ≠ none := by
  intro hno
  unfold Db.findNodeSourceForIdentity at hno
  rw [map_eq_none_iff, head?_eq_none_iff] at hno
  obtain ⟨rank, ha⟩ := isSome_iff_exists.1 ha
  have hm : (rank, (id, source)) ∈ db.nodeSources.rows.filterMap fun row =>
      (Db.identityRank nodeId claimed row.2).map (·, row) := by
    refine mem_filterMap.2 ⟨(id, source), get?_eq_some.1 hg, ?_⟩
    rw [ha]
    rfl
  have hs := (mem_insertionSort (r := fun a b : Nat × Nat × NodeSourceRow =>
    a.1 < b.1 ∨ a.1 = b.1 ∧ a.2.2.createdAt ≤ b.2.2.createdAt)).2 hm
  rw [hno] at hs
  cases hs

lemma rank_of_pins {signer : String} (h : source.Pins nodeId signer) (claimed : String) :
    (Db.identityRank nodeId claimed source).isSome := by
  unfold Db.identityRank
  rw [if_pos h.1]
  split <;> rfl

end

/-! ## What is admitted is signed by the pinned signer -/

section

variable {X : Deployment} {sources : Sources} {calls : Nat → Call} {instances : Nat → Nat}
  {s s' : GatewaySys} {t : Nat} {o : Outcome} {id : Nat} {source : NodeSourceRow} {signer : String}

section

variable
  (hr : Reaches (machine instances) (Undisputed sources calls) (gatewayStart X sources calls) s)
include hr

lemma agrees_of_found (hu : Undisputed sources calls s' (.run t o))
    (hg : sources.get? id = some source) {claimed : String} (hp : source.Pins nodeId signer)
    (hs : (calls t).Submits nodeId claimed) {found : Option (Nat × NodeSourceRow)}
    (hf : (s.threads t).hist.Heard (.read (.findNodeSourceForIdentity nodeId claimed))
      (.ok found)) : ∃ id' other, found = some (id', other) ∧ sources.get? id' = some other ∧
      source.Agrees other := by
  obtain ⟨s'', _, hr'', -, -, hf⟩ := read_of_heard hr hf
  have ho := nodeSources_of_reaches hr''
  cases found with
  | none =>
    have hg' : s''.world.db.nodeSources.get? id = some source := ho ▸ hg
    exact absurd hf.symm (find_of_matches hg' (rank_of_pins hp claimed))
  | some found =>
    obtain ⟨hg', ha⟩ := matches_of_find hf.symm
    rw [ho] at hg'
    exact ⟨found.1, found.2, rfl, hg',
      (hu id source nodeId signer hg hp).1 claimed found.1 found.2 hs hg' ha⟩

variable {other : NodeSourceRow}

lemma get_of_pulled {id' : Nat} (h : Pulled (s.threads t).hist id' other) :
    sources.get? id' = some other := by
  rcases h.2 with hg | ⟨_, hl, hm⟩
  · obtain ⟨s'', _, hr'', -, -, he⟩ := read_of_heard hr hg
    rw [← nodeSources_of_reaches hr'']
    exact he.symm
  · obtain ⟨_, _, hr'', -, -, he⟩ := read_of_heard hr hl
    rw [he] at hm
    rw [← nodeSources_of_reaches hr'', get?_eq_some]
    exact (mem_insertionSort _).1 hm

lemma agrees_of_fetched (hg : sources.get? id = some source)
    {snapshot : SignedPublicClientSnapshot} (hp : source.Pins snapshot.payload.nodeId signer)
    {id' : Nat} (hg' : sources.get? id' = some other) (ha : other.sourceStatus = .active)
    {endpoint : Endpoint} (hs : other.Serves endpoint)
    (hf : (s.threads t).hist.Heard (.fetch (.signedSnapshot endpoint)) (.ok snapshot)) :
    source.Agrees other := by
  obtain ⟨_, _, -, hc, he⟩ := fetched_of_heard hr hf
  exact (hc id source _ signer hg hp).2.1 id' other endpoint snapshot hg' ha hs
    he rfl

end

lemma pinned_of_agrees (hp : source.Pins nodeId signer) (hg : source.Agrees other)
    (ha : other.sourceStatus = .active) :
    source.sourceStatus = .active ∧ other.expectedSignerAgentDid = some signer :=
  ⟨hg.2.symm.trans ha, hg.1.trans hp.2⟩

lemma signedBy_of_admitted (hr : Reaches (machine instances) (Undisputed sources calls)
      (gatewayStart X sources calls) s)
    (hu : Undisputed sources calls s' (.run t o)) (hget : sources.get? id = some source)
    {sub : Submission} {sourceId : Option Nat}
    (ha : Admitted X (calls t) (s.threads t).hist sub sourceId)
    (hp : source.Pins sub.nodeId signer) :
    source.sourceStatus = .active ∧ sub.SignedBy X.toCrypto signer := by
  cases ha with
  | pushedSnapshot snapshot _ hc hf ht hv =>
    obtain ⟨id', other, rfl, -, hg⟩ := agrees_of_found hr hu hget hp
      (Or.inl ⟨snapshot, hc, rfl, rfl⟩) hf
    obtain ⟨hst, he⟩ := pinned_of_agrees hp hg (ht _ rfl)
    refine ⟨hst, signedBy_of_snapshot (u := ()) ?_⟩
    rw [← he]
    exact hv
  | pushedEvent e _ hc hf ht hv =>
    obtain ⟨_, _, rfl, -, hg⟩ := agrees_of_found hr hu hget hp
      (Or.inr ⟨e, hc, rfl, rfl⟩) hf
    obtain ⟨hst, he⟩ := pinned_of_agrees hp hg (ht _ rfl)
    refine ⟨hst, signedBy_of_event (u := ()) ?_⟩
    rw [← he]
    exact hv
  | pulled _ _ _ _ hpu hse hfe hv =>
    have hg := agrees_of_fetched hr hget hp (get_of_pulled hr hpu) hpu.1 hse
      hfe
    obtain ⟨hst, he⟩ := pinned_of_agrees hp hg hpu.1
    rw [he] at hv
    exact ⟨hst, signedBy_of_snapshot hv⟩
  | refreshed _ _ _ _ _ hf ht hfe hv =>
    obtain ⟨_, _, hr'', -, -, hev⟩ := read_of_heard hr hf
    have hget' := (matches_of_find hev.symm).1
    rw [nodeSources_of_reaches hr''] at hget'
    have hg := agrees_of_fetched hr hget hp hget' ht (Or.inl rfl) hfe
    obtain ⟨hst, he⟩ := pinned_of_agrees hp hg ht
    rw [he] at hv
    exact ⟨hst, signedBy_of_snapshot hv⟩
  | announced snapshot _ propagationSource gatewayPeerId contact hc hv =>
    obtain ⟨hs, hst⟩ := (hu id source _ signer hget hp).2.2 snapshot.signerAgentDid
      ⟨propagationSource, gatewayPeerId, snapshot.payload.generatedAt, contact, hc⟩
    rw [hs] at hv
    exact ⟨hst, signedBy_of_snapshot hv⟩

end

/-- In every run whose steps are undisputed the pins hold in every state. -/
theorem pins_hold (X : Deployment) (sources : Sources) (calls : Nat → Call) (instances : Nat → Nat)
    (s : GatewaySys)
    (hr : Reaches (machine instances) (Undisputed sources calls)
      (gatewayStart X sources calls) s) : PinsHold X sources calls s := by
  intro _ _ _ _ hg hp _ hh hst
  obtain ⟨t, _, _, hx, hk⟩ := made_of_holds hr hh
  obtain ⟨_, hs, hd⟩ := hr.heard_allowed (follows_gatewayStart X sources calls) (fun _ => rfl) hx
  obtain ⟨_, _, -, -, -, hu, -⟩ := answered_of_heard hr hx
  obtain ⟨sub, sourceId, ha, hm⟩ := madeOf_of_derives hd hk hst
  have hno := nodeId_of_madeOf hm hst
  obtain ⟨ht, hi⟩ := signedBy_of_admitted hr hu hg (ha.mono hs) (hno ▸ hp)
  exact ⟨ht, sub, t, sourceId, ha.mono hs, hm, hno, hi⟩

/-! ## An announcement and a push -/

namespace Pinned

def sources (status : SourceStatus) : Sources := .ofList [(1, smallSource status)]

def contact : ContactMaterial := ⟨irohDirect, "peer", irohDirect, none, some "peer"⟩

def remote : Remote
  | .signedSnapshot (.iroh _ _) => some (smallSnapshot "k2" "s2")
  | _ => none

def announces (_ : Nat) : Call := .gossip "peer" (.snapshotAnnounceV1 "peer" "n" "k2" 1 contact)

def pushes (_ : Nat) : Call := .ingestSnapshot (smallSnapshot "k1" "s1")

def announced (status : SourceStatus) : GatewaySys :=
  (gatewayStart smallDeployment (sources status) announces).runActions (machine fun _ => 0)
    (.env (.serve remote) :: List.replicate 20 (.run 0 .ok))

def pushed : GatewaySys :=
  (gatewayStart smallDeployment (sources .active) pushes).runActions (machine fun _ => 0)
    (List.replicate 20 (.run 0 .ok))

lemma source_unique {status : SourceStatus} {id : Nat} {source : NodeSourceRow}
    (h : (sources status).get? id = some source) : source = smallSource status := by
  rw [get?_eq_some] at h
  cases mem_singleton.1 h
  rfl

lemma undisputed (s : GatewaySys) (a : Action Env) : Undisputed (sources .active) pushes s a := by
  cases a with
  | env => trivial
  | run =>
    intro _ _ _ _ hg _
    cases source_unique hg
    refine ⟨?_, ?_, ?_⟩
    · intro _ _ _ _ hg' _
      cases source_unique hg'
      exact ⟨rfl, rfl⟩
    · intro _ _ _ _ hg' _ _ _ _
      cases source_unique hg'
      exact ⟨rfl, rfl⟩
    · rintro _ ⟨_, _, _, _, hc⟩
      cases hc

lemma not_pinsHold {status : SourceStatus} {row : SnapshotRow}
    (ho : (announced status).world.db.nodeSnapshots.get? "n" = some row)
    (hs : row.signature = "s2") :
    ¬ PinsHold smallDeployment (sources status) announces (announced status) := by
  intro h
  obtain ⟨-, sub, -, -, -, hm, -, hi⟩ := h 1 (smallSource status) "n" "k1" rfl ⟨rfl, rfl⟩
    (.row (.snapshot "n" row)) (Or.inl ho) rfl
  cases sub with
  | event => cases hm
  | snapshot =>
    obtain ⟨_, hk, hv⟩ := hi
    cases hk
    rw [← hm.2.2.2, hs] at hv
    exact not_verifies_s2 _ hv

end Pinned

set_option maxRecDepth 100000

open Pinned in
/-- A snapshot that the pinned signer never signed is stored, with the source active and with the
source suspended. -/
theorem announced_past_pin : Reaches (machine fun _ => 0) anyStep
      (gatewayStart smallDeployment (sources .active) announces) (announced .active) ∧
    ¬ PinsHold smallDeployment (sources .active) announces (announced .active) ∧
    Reaches (machine fun _ => 0) anyStep
      (gatewayStart smallDeployment (sources .suspended) announces) (announced .suspended) ∧
    ¬ PinsHold smallDeployment (sources .suspended) announces (announced .suspended) := by
  have ha : ((announced .active).world.db.nodeSnapshots.get? "n").map SnapshotRow.signature =
      some "s2" := by decide
  have hs : ((announced .suspended).world.db.nodeSnapshots.get? "n").map
      SnapshotRow.signature = some "s2" := by decide
  obtain ⟨_, ho, hi⟩ := map_eq_some_iff.1 ha
  obtain ⟨_, ho', hi'⟩ := map_eq_some_iff.1 hs
  exact ⟨reaches_runActions _ _, not_pinsHold ho hi, reaches_runActions _ _,
    not_pinsHold ho' hi'⟩

open Pinned in
theorem pins_hold_pushed :
    (pushed.world.db.nodeSnapshots.get? "n").map SnapshotRow.signature = some "s1" ∧
      PinsHold smallDeployment (sources .active) pushes pushed :=
  ⟨by decide, pins_hold smallDeployment (sources .active) pushes (fun _ => 0) pushed
    (reaches_runActions_of _ _ fun a _ s => undisputed s a)⟩

end WattGateway.Gateway
