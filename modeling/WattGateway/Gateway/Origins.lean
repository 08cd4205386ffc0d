import WattGateway.Gateway.Stream

/-!
# Where stored and streamed data comes from

`Admitted` says how a signed snapshot or event came to be accepted: by which call, after which
lookup of its source, checked against which signer. `Derives` says of each query that leaves a trace
which admitted data it is made of. Every call follows this rule (`call_follows`), and later results
are drawn from the rule alone.
-/

namespace WattGateway.Gateway

open List Prog

abbrev History := Hist Empty Query Ans

inductive Submission where
  | snapshot (snapshot : SignedPublicClientSnapshot)
  | event (event : SignedNodeEvent)

namespace Submission

def nodeId : Submission → String
  | .snapshot s => s.payload.nodeId
  | .event e => e.payload.nodeId

def SignedBy (C : Crypto) (signer : String) : Submission → Prop
  | .snapshot s => Gateway.SignedBy C signer (.snapshot s.payload) s.signature
  | .event e => Gateway.SignedBy C signer (.nodeEvent e.payload) e.signature

end Submission

section

variable (source : Option (Nat × NodeSourceRow))

/-- A source that is absent or active. -/
def Active : Prop :=
  ∀ src, source = some src → src.2.sourceStatus = .active

def expectedOf : Option String :=
  source.bind fun src => src.2.expectedSignerAgentDid

end

/-- The endpoints at which a source is pulled. -/
def NodeSourceRow.Serves (source : NodeSourceRow) (endpoint : Endpoint) : Prop :=
  endpoint = .http (snapshotUrl source) ∨
    ∃ contact nodeId, source.transportContactMaterial = some contact ∧
      endpoint = .iroh contact nodeId

def Call.event? : Call → Option SignedNodeEvent
  | .ingestNodeEvent event => some event
  | .gossip _ (.eventV1 _ event) => some event
  | _ => none

/-- The call found this active source, or the listing of sources named it. -/
def Pulled (h : History) (sourceId : Nat) (source : NodeSourceRow) : Prop :=
  source.sourceStatus = .active ∧ (h.Heard (.read (.getNodeSource sourceId)) (.ok (some source)) ∨
      ∃ sources, h.Heard (.read .listNodeSources) (.ok sources) ∧ (sourceId, source) ∈ sources)

/-- How a call came to accept a submission, under the id of a source. -/
inductive Admitted (X : Deployment) (c : Call) (h : History) : Submission → Option Nat → Prop
  | pushedSnapshot (s : SignedPublicClientSnapshot) (source : Option (Nat × NodeSourceRow))
      (hc : c = .ingestSnapshot s)
      (hfound : h.Heard (.read (.findNodeSourceForIdentity s.payload.nodeId s.signerAgentDid))
        (.ok source))
      (hactive : Active source)
      (hv : verifySignedSnapshot X.toCrypto s (expectedOf source) = .ok ()) :
      Admitted X c h (.snapshot s) (source.map Prod.fst)
  | pushedEvent (e : SignedNodeEvent) (source : Option (Nat × NodeSourceRow))
      (hc : c.event? = some e)
      (hfound : h.Heard (.read
        (.findNodeSourceForIdentity e.payload.nodeId e.payload.signerAgentDid)) (.ok source))
      (hactive : Active source)
      (hv : verifySignedNodeEvent X.toCrypto e (expectedOf source) = .ok ())
      (hvalid : validateEvent X e = .ok ()) : Admitted X c h (.event e) (source.map Prod.fst)
  | pulled (s : SignedPublicClientSnapshot) (sourceId : Nat) (source : NodeSourceRow)
      (endpoint : Endpoint) (hpulled : Pulled h sourceId source)
      (hserves : source.Serves endpoint)
      (hfetched : h.Heard (.fetch (.signedSnapshot endpoint)) (.ok s))
      (hv : verifySignedSnapshot X.toCrypto s source.expectedSignerAgentDid = .ok ()) :
      Admitted X c h (.snapshot s) (some sourceId)
  | refreshed (s : SignedPublicClientSnapshot) (e : SignedNodeEvent) (sourceId : Nat)
      (source : NodeSourceRow) (hc : c.event? = some e)
      (hfound : h.Heard (.read
        (.findNodeSourceForIdentity e.payload.nodeId e.payload.signerAgentDid))
        (.ok (some (sourceId, source))))
      (hactive : source.sourceStatus = .active)
      (hfetched : h.Heard (.fetch (.signedSnapshot (.http (snapshotUrl source)))) (.ok s))
      (hv : verifySignedSnapshot X.toCrypto s source.expectedSignerAgentDid = .ok ()) :
      Admitted X c h (.snapshot s) (some sourceId)
  | announced (s : SignedPublicClientSnapshot) (source : Option (Nat × NodeSourceRow))
      (propagationSource gatewayPeerId : String) (contact : ContactMaterial)
      (hc : c = .gossip propagationSource (.snapshotAnnounceV1 gatewayPeerId s.payload.nodeId
        s.signerAgentDid s.payload.generatedAt contact))
      (hv : verifySignedSnapshot X.toCrypto s (some s.signerAgentDid) = .ok ()) :
      Admitted X c h (.snapshot s) (source.map Prod.fst)

lemma Pulled.mono {h h' : History} {sourceId : Nat} {source : NodeSourceRow}
    (hp : Pulled h sourceId source) (hs : h <:+ h') : Pulled h' sourceId source := by
  refine ⟨hp.1, ?_⟩
  rcases hp.2 with hg | ⟨sources, hl, hm⟩
  · exact .inl (hg.mono hs)
  · exact .inr ⟨sources, hl.mono hs, hm⟩

lemma Admitted.mono {X : Deployment} {c : Call} {h h' : History} {sub : Submission}
    {sourceId : Option Nat} (ha : Admitted X c h sub sourceId) (hs : h <:+ h') :
    Admitted X c h' sub sourceId := by
  cases ha with
  | pushedSnapshot s source hc hf ht hv =>
    exact .pushedSnapshot s source hc (hf.mono hs) ht hv
  | pushedEvent e source hc hf ht hv hva =>
    exact .pushedEvent e source hc (hf.mono hs) ht hv hva
  | pulled s sourceId source endpoint hp hse he hv =>
    exact .pulled s sourceId source endpoint (hp.mono hs) hse (he.mono hs) hv
  | refreshed s e sourceId source hc hf ht he hv =>
    exact .refreshed s e sourceId source hc (hf.mono hs) ht (he.mono hs) hv
  | announced s source propagationSource gatewayPeerId contact hc hv =>
    exact .announced s source propagationSource gatewayPeerId contact hc hv

/-! ## What is made of a submission -/

def UiRecordOf (X : Deployment) (sourceId : Option Nat) (r : UiEventRecord) : Submission → Prop
  | .event e => e.payload.provisionalPolicy ≠ .ephemeralOnly ∧
      (isSpaceEvent e = true ∧ r = spaceEventRecord e.payload sourceId ∨
        isSpaceEvent e = false ∧ ∃ projection, trustedProjection X e.payload = .ok projection ∧
          r = uiEventRecord e.payload sourceId projection)
  | .snapshot s => ∃ eventId dataKind eventKind generatedAt payload,
      dataKind ∈ [DataKind.spacePresence, .presence, .worldEvent] ∧
      r = snapshotUiRecord sourceId s.payload s.signerAgentDid eventId dataKind eventKind
        generatedAt payload

def ProjectionOf (X : Deployment) (sourceId : Option Nat) (r : ProjectionRecord) : Submission → Prop
  | .event e => e.payload.provisionalPolicy ≠ .ephemeralOnly ∧ ∃ dataKind payload,
      trustedProjection X e.payload = .ok (some (dataKind, payload)) ∧
      r = eventProjectionRecord e.payload sourceId (isProvisional e.payload) dataKind payload
  | .snapshot s => r ∈ snapshotProjectionSeeds sourceId s.payload X

def OutboxOf (r : OutboxRecord) : Submission → Prop
  | .event e => r = eventOutbox e
  | .snapshot s => r = snapshotOutbox s

def collectedKinds : List DataKind := [.networkProjection, .hiveSubscription, .hiveActivity]

/-- The call was answered with this row: it inserted or read it. -/
def RowHeard (h : History) (eventId : String) (row : UiEventRow) : Prop :=
  (∃ r, r.eventId = eventId ∧ h.Heard (.stmt (.insertUiEvent r)) (.ok (some row))) ∨
    h.Heard (.read (.getUiEventById eventId)) (.ok (some row))

/-- What a query that leaves a trace is made of. -/
def Derives (X : Deployment) (c : Call) (h : History) : Query → Prop
  | .stmt (.upsertSnapshot r) => ∃ s sourceId, Admitted X c h (.snapshot s) sourceId ∧
      r = snapshotRecord s sourceId
  | .stmt (.insertUiEvent r) => ∃ sub sourceId, Admitted X c h sub sourceId ∧
      UiRecordOf X sourceId r sub
  | .stmt (.insertP2pOutbox r) => ∃ sub sourceId, Admitted X c h sub sourceId ∧ OutboxOf r sub
  | .persistSnapshotArtifact s => ∃ sourceId, Admitted X c h (.snapshot s) sourceId
  | .write (.upsertProjectionRow r) =>
      (∃ sub sourceId, Admitted X c h sub sourceId ∧ ProjectionOf X sourceId r sub) ∨
        r.dataKind ∈ collectedKinds ∧ c.event? = none
  | .write (.insertAuditRecord r) =>
      (∃ sub sourceId record, Admitted X c h sub sourceId ∧ UiRecordOf X sourceId record sub ∧
        r = insertAudit record) ∨ ∃ sourceId source nodeId missingFromSeq missingToSeq outcome,
          r = gapAudit sourceId source nodeId missingFromSeq missingToSeq outcome
  | .publishUiEvent e =>
      (∃ event sourceId, Admitted X c h (.event event) sourceId ∧
        event.payload.provisionalPolicy = .ephemeralOnly ∧ e = ephemeralUiEvent event.payload) ∨
        ∃ eventId row, RowHeard h eventId row ∧ e = .ofRow eventId row
  | .send (.event e) => ∃ query turns, c = .stream query turns ∧
      eventMatchesQuery e query (allowsProtected X query) = true ∧
      (h.Heard .recv (.ok (.event e)) ∨ ∃ rows eventId row,
        h.Heard (.read (.listUiEventsAfter (listQuery query))) (.ok rows) ∧
        (eventId, row) ∈ rows ∧ e = .ofRow eventId row)
  | _ => True

def derives (X : Deployment) (c : Call) : Rule Empty Query Ans where
  onCmd := fun _ _ => True
  onAsk := Derives X c

/-! ## Steps of a proof -/

section

variable {X : Deployment} {c : Call} {h : History} {α : Type}

lemma follows_exec {q : Query} {Q : q.Result → History → Prop} (hq : Derives X c h q)
    (ha : ∀ a (h' : History), h <:+ h' → h'.Heard q (.ok a) → Q a h') :
    (exec q).Follows (derives X c) Q h := by
  refine .bind (follows_query hq fun τ a => ?_)
  refine follows_ofExcept fun x hx => ?_
  exact ha x _ (suffix_cons _ _) (hx ▸ Hist.heard_self τ q a h)

lemma follows_tryRead {r : Read} {Q : Except String r.Result → History → Prop}
    (ha : ∀ x (h' : History), h <:+ h' → h'.Heard (.read r) x → Q x h') :
    (tryRead r).Follows (derives X c) Q h :=
  follows_query trivial fun τ x => ha x _ (suffix_cons _ _) (Hist.heard_self τ _ x h)

/-- A program that goes no further than the rule, with nothing said of its result. -/
def Keeps (X : Deployment) (c : Call) (h : History) (p : Proc α) : Prop :=
  p.Follows (derives X c) (fun _ h' => h <:+ h') h

variable {p : Proc α} {β : Type}

lemma Keeps.bind {f : α → Proc β} (hp : Keeps X c h p)
    (hf : ∀ a h', h <:+ h' → Keeps X c h' (f a)) : Keeps X c h (p >>= f) := by
  refine Follows.bind (Follows.mono hp fun a h' hs => ?_)
  exact Follows.mono (hf a h' hs) fun b h'' hs' => hs.trans hs'

lemma keeps_pure (a : α) : Keeps X c h (pure a : Proc α) := suffix_refl h

lemma keeps_exec {q : Query} (hq : Derives X c h q) : Keeps X c h (exec q) :=
  follows_exec hq fun _ _ hs _ => hs

lemma keeps_writeAnyway {a : AutoWrite} (ha : Derives X c h (.write a)) :
    Keeps X c h (writeAnyway a) :=
  Follows.bind (follows_query ha fun _ _ => suffix_cons _ _)

lemma keeps_forEach {xs : List β} {f : β → Proc Unit}
    (hf : ∀ x ∈ xs, ∀ h', h <:+ h' → Keeps X c h' (f x)) : Keeps X c h (forEach xs f) :=
  follows_turns (suffix_refl h) List.IsSuffix.trans hf

lemma Keeps.attempt (hp : Keeps X c h p) : Keeps X c h p.attempt :=
  Follows.attempt hp fun _ _ hs => hs

end

end WattGateway.Gateway
