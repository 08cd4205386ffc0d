import WattGateway.Gateway.Traces

/-!
# What the public sees

The catalogue of `contracts.rs` gives every data kind a visibility, which decides what a subscriber
without the token is streamed and what a projection shows. What a node signs as the visibility of an
event decides nothing. So `Hides` holds of the events whose kind is not public
(`hides_protected_kinds`), and not of those that are signed as protected
(`protected_event_streamed`).
-/

namespace WattGateway.Gateway

open Sys

variable {query : UiStreamQuery}

/-- The stream event is what the signed event is streamed as, live or on replay. -/
def StreamedAs (X : Deployment) (event : SignedNodeEvent) (e : GatewayUiEvent) : Prop :=
  e = ephemeralUiEvent event.payload ∨
    ∃ sourceId r cursor now, UiRecordOf X sourceId r (.event event) ∧
      e = .ofRow r.eventId (r.row cursor now)

/-- The projection row is one that the signed event is made into. -/
def ProjectedAs (X : Deployment) (event : SignedNodeEvent)
    (key : DataKind × String × String) (row : ProjectionRow) : Prop :=
  ∃ sourceId r, ProjectionOf X sourceId r (.event event) ∧ key = r.key ∧
    row.payload = r.payload ∧ row.visibility = r.visibility

/-- No event of this description that a call admitted is sent to a stream without the token or
stands in a public projection. -/
def Hides (X : Deployment) (calls : Nat → Call) (hidden : NodeEventPayload → Prop)
    (s : GatewaySys) : Prop :=
  ∀ t event sourceId, Admitted X (calls t) (s.threads t).hist (.event event) sourceId →
    hidden event.payload →
    (∀ t' query turns e, calls t' = .stream query turns → allowsProtected X query = false →
      s.world.Holds (.sent t' (.event e)) → ¬ StreamedAs X event e) ∧
    ∀ key row, s.world.Holds (.projection key row) → row.visibility = .public →
      ¬ ProjectedAs X event key row

/-! ## Kinds -/

variable {X : Deployment}

lemma kind_of_uiRecord {sourceId : Option Nat} {r : UiEventRecord} {event : SignedNodeEvent}
    (h : UiRecordOf X sourceId r (.event event)) : r.dataKind = event.payload.dataKind := by
  obtain ⟨-, ⟨-, rfl⟩ | ⟨-, _, -, rfl⟩⟩ := h
  · rfl
  · rfl

variable {e : GatewayUiEvent}

lemma kind_of_streamedAs {event : SignedNodeEvent} (h : StreamedAs X event e) :
    e.dataKind = event.payload.dataKind := by
  rcases h with rfl | ⟨_, _, _, _, hr, rfl⟩
  · rfl
  · exact kind_of_uiRecord hr

lemma public_of_matches (h : eventMatchesQuery e query false = true) :
    visibilityForKind e.dataKind = .public := by
  unfold eventMatchesQuery at h
  simp only [Bool.false_or, Bool.and_eq_true] at h
  obtain ⟨⟨⟨⟨⟨hp, -⟩, -⟩, -⟩, -⟩, -⟩ := h
  unfold allowsPublicStream at hp
  rw [Bool.and_eq_true, decide_eq_true_eq] at hp
  exact hp.1

lemma public_of_projection {event : NodeEventPayload} {projection : DataKind × Json}
    (h : trustedProjection X event = .ok (some projection)) :
    visibilityForKind event.dataKind = .public := by
  have hs : eventProjection event ≠ none := by
    intro hno
    unfold trustedProjection at h
    rw [hno] at h
    cases h
  cases hk : event.dataKind with
  | missionLifecycle => rfl
  | hiveMetadata => rfl
  | hiveActivity => rfl
  | hiveMessagePosted => rfl
  | boardActivity => rfl
  | rankingProjection => rfl
  | _ =>
    refine absurd ?_ hs
    unfold eventProjection
    rw [hk]

/-- In every run the events of kinds that are not public stay hidden. -/
theorem hides_protected_kinds (X : Deployment) (sources : Sources) (calls : Nat → Call)
    (instances : Nat → Nat) (s : GatewaySys)
    (hr : Reaches (machine instances) anyStep (gatewayStart X sources calls) s) :
    Hides X calls (fun event => visibilityForKind event.dataKind ≠ .public) s := by
  intro _ _ _ _ hh
  refine ⟨?_, ?_⟩
  · intro _ _ _ _ hc hp hs ht
    obtain ⟨⟨_, _, hc', hm⟩, -⟩ := eventFrom_of_sent hr hs
    rw [hc] at hc'
    cases hc'
    rw [hp] at hm
    exact hh (kind_of_streamedAs ht ▸ public_of_matches hm)
  · rintro _ _ - - ⟨_, _, ⟨-, _, _, hpr, -⟩, -⟩
    exact hh (public_of_projection hpr)

/-! ## A protected event of a public kind -/

lemma signed_public_of_sent {sources : Sources} {calls : Nat → Call} {instances : Nat → Nat}
    {s : GatewaySys}
    (hr : Reaches (machine instances) anyStep (gatewayStart X sources calls) s)
    (hh : Hides X calls (fun event => event.visibility ≠ .public) s) {t turns : Nat}
    (hc : calls t = .stream query turns)
    (hp : allowsProtected X query = false) (hs : s.world.Holds (.sent t (.event e))) :
    e.visibility = .public := by
  by_contra hne
  obtain ⟨-, t', hf⟩ := eventFrom_of_sent hr hs
  rcases hf with ⟨event, sourceId, ha, -, rfl⟩ |
    ⟨_, _, ⟨sub, sourceId, r, cursor, now, ha, he, rfl, rfl⟩, rfl⟩
  · exact (hh t' event sourceId ha hne).1 t query turns _ hc hp hs (Or.inl rfl)
  · cases sub with
    | snapshot =>
      obtain ⟨_, _, _, _, _, -, rfl⟩ := he
      exact hne rfl
    | event event =>
      have hv : event.payload.visibility ≠ .public := by
        obtain ⟨-, ⟨-, rfl⟩ | ⟨-, _, -, rfl⟩⟩ := id he
        · exact absurd rfl hne
        · exact hne
      exact (hh t' event sourceId ha hv).1 t query turns _ hc hp hs
        (Or.inr ⟨sourceId, r, cursor, now, he, rfl⟩)

namespace Protected

def event (kind : DataKind) : SignedNodeEvent where
  payload :=
    { eventId := "e", nodeId := "n", publicKey := "k1", signerAgentDid := "k1", seq := 1
      timestamp := 1, dataKind := kind, eventKind := "posted", visibility := .protected
      provisionalPolicy := .neverBeforeConfirmation, scope := ⟨none, none, none, none⟩
      identityKey := none, payload := .object [("text", .string "private")] }
  signature := "s1"

def calls (kind : DataKind) : Nat → Call
  | 0 => .stream ⟨none, none, none, none, none, none, none, none⟩ 1
  | _ => .ingestNodeEvent (event kind)

def run (kind : DataKind) : GatewaySys :=
  (gatewayStart smallDeployment .empty (calls kind)).runActions (machine fun _ => 0)
    (List.replicate 4 (.run 0 .ok) ++ List.replicate 11 (.run 1 .ok) ++
      List.replicate 2 (.run 0 .ok))

def shown : WsMessage → Bool
  | .event e => e.visibility = .protected
  | _ => false

end Protected

set_option maxRecDepth 100000

open Protected in
/-- A subscriber without a token is sent an event that is signed as protected, and its projection is
public. -/
theorem protected_event_streamed : Reaches (machine fun _ => 0) anyStep
      (gatewayStart smallDeployment .empty (calls .hiveActivity)) (run .hiveActivity) ∧
    ((run .hiveActivity).world.db.projectionRows.get? (.hiveActivity, "e", "n")).map
      ProjectionRow.visibility = some .public ∧
    ¬ Hides smallDeployment (calls .hiveActivity) (fun event => event.visibility ≠ .public)
      (run .hiveActivity) := by
  have hr : Reaches (machine fun _ => 0) anyStep
    (gatewayStart smallDeployment .empty (calls .hiveActivity)) (run .hiveActivity) :=
    reaches_runActions _ _
  refine ⟨hr, by decide, fun hh => ?_⟩
  have ha : ((run .hiveActivity).world.sent 0).any shown = true := by decide
  obtain ⟨m, hm, hs⟩ := List.any_eq_true.1 ha
  cases m with
  | event =>
    have hp := signed_public_of_sent hr hh (t := 0) rfl rfl hm
    simp only [shown, decide_eq_true_eq] at hs
    rw [hp] at hs
    cases hs
  | _ => cases hs

open Protected in
theorem hides_protected_kinds_dm : (run .dmMessage).world.db.uiEvents.rows.length = 1 ∧
      ((run .dmMessage).world.sent 0).length = 1 ∧ Hides smallDeployment (calls .dmMessage)
        (fun event => visibilityForKind event.dataKind ≠ .public) (run .dmMessage) :=
  ⟨by decide, by decide,
    hides_protected_kinds smallDeployment .empty (calls .dmMessage) (fun _ => 0) (run .dmMessage)
      (reaches_runActions _ _)⟩

end WattGateway.Gateway
