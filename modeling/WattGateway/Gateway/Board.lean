import WattGateway.Gateway.Traces

/-!
# No forged event on the board

`BoardHonest` says that a board payload has a `world_event` only where it was rebuilt from a signed
announcement that the payload carries. The filter of `space.rs` stands before every table and before
the board endpoint, but an ephemeral event is streamed without it (`forged_event_streamed`).
-/

namespace WattGateway.Gateway

open List Option Sys

variable {payload : Json} {X : Deployment} {t : Nat} {sourceId : Option Nat} {r : ProjectionRecord}
  {calls : Nat → Call} {sub : Submission}

section

/-! ## Payloads behind the filter -/

lemma merged_ne_nil (nestedKeys : List String) (fields object : Json.Fields)
    (h : object ≠ [] ∨ ∃ kv ∈ fields, kv.1 ∉ nestedKeys) :
    fields.foldl (fun (object : Json.Fields) kv =>
      if kv.1 ∉ nestedKeys ∧ object.containsKey kv.1 = false then object.insert kv.1 kv.2
      else object) object ≠ [] := by
  induction fields generalizing object with
  | nil =>
    rcases h with h | ⟨kv, hk, -⟩
    · exact h
    · cases hk
  | cons kv _ ih =>
    rw [foldl_cons]
    apply ih
    by_cases hk : kv.1 ∉ nestedKeys ∧ object.containsKey kv.1 = false
    · rw [if_pos hk]
      exact .inl Json.Fields.insert_ne_nil
    · rw [if_neg hk]
      by_cases ho : object = []
      · -- nothing is there yet, so this field is a nested one
        subst ho
        have hne : kv.1 ∈ nestedKeys := by
          by_contra hn
          exact hk ⟨hn, rfl⟩
        rcases h with h | ⟨kv', hm, hk'⟩
        · exact absurd rfl h
        · rcases mem_cons.1 hm with rfl | hm
          · exact absurd hne hk'
          · exact .inr ⟨kv', hm, hk'⟩
      · exact .inl ho

/-- A payload without anything to project has no field beside the nested one. -/
lemma get_of_unmerged {k : String}
    (h : mergedPayloadObject payload ["board_message"] = none) (hk : k ≠ "board_message") :
    payload.get k = none := by
  cases ho : payload.asObject with
  | none =>
    unfold Json.get
    rw [ho]
    rfl
  | some fields =>
    by_contra hg
    unfold Json.get Json.Fields.get at hg
    rw [ho, bind_some, map_eq_none_iff, find?_eq_none] at hg
    push Not at hg
    obtain ⟨kv, hv, hy⟩ := hg
    rw [decide_eq_true_eq] at hy
    unfold mergedPayloadObject at h
    simp only [ho, getD_some] at h
    split at h
    · rename_i he
      refine merged_ne_nil ["board_message"] fields _ (Or.inr ⟨kv, hv, ?_⟩)
        (isEmpty_iff.1 he)
      simpa [hy] using hk
    · cases h

variable {event : NodeEventPayload}

lemma trusted_of_projection
    (h : trustedProjection X event = .ok (some (.boardActivity, payload))) : Trusted X payload := by
  unfold trustedProjection at h
  split at h
  · obtain ⟨_, hr, h⟩ := bind_eq_ok.1 h
    cases h
    exact trusted_of_filter hr
  · rename_i ho
    rw [Except.ok.injEq] at h
    exact absurd h (ho payload)

variable {projection : Option (DataKind × Json)}

section

variable (hki : event.dataKind = .boardActivity) (h : trustedProjection X event = .ok projection)
include hki h

lemma boardProjection_cases :
    (∃ object merged row, mergedPayloadObject event.payload ["board_message"] = some merged ∧
      Json.Fields.get object "source_node_id" =
        some ((Json.Fields.get merged "source_node_id").getD (.string event.nodeId)) ∧
      trustedBoardMessage X (.object object) = .ok row ∧ projection = some (.boardActivity, row)) ∨
    mergedPayloadObject event.payload ["board_message"] = none ∧ projection = none := by
  have heq : eventProjection event =
      (normalizedBoardActivityPayload event).map (.boardActivity, ·) := by
    unfold eventProjection
    rw [hki]
  unfold trustedProjection at h
  rw [heq] at h
  cases hm : mergedPayloadObject event.payload ["board_message"] with
  | none =>
    have hno : normalizedBoardActivityPayload event = none := by
      unfold normalizedBoardActivityPayload
      rw [hm]
      rfl
    rw [hno] at h
    cases h
    exact .inr ⟨rfl, rfl⟩
  | some merged =>
    unfold normalizedBoardActivityPayload at h
    rw [hm] at h
    obtain ⟨row, hr, h⟩ := bind_eq_ok.1 h
    cases h
    exact .inl ⟨_, merged, row, rfl, by simp, hr, rfl⟩

/-- The stored payload of a board event is the filtered one, or has no `world_event`. -/
lemma trusted_uiPayload : Trusted X (uiPayload event projection) := by
  rcases boardProjection_cases hki h with ⟨_, _, _, -, -, hr, rfl⟩ | ⟨hno, rfl⟩
  · unfold uiPayload
    simp only [hki, if_true]
    exact trusted_of_filter hr
  · exact trusted_of_not_field (get_of_unmerged hno (by decide))

end

lemma trusted_attachGeneratedAt {value : Json} (h : Trusted X value) (generatedAt : Int) :
    Trusted X (attachGeneratedAt value generatedAt) := by
  unfold attachGeneratedAt
  cases ho : value.asObject with
  | none => exact h
  | some object =>
    have hg : ∀ k, value.get k = Json.Fields.get object k := by
      intro _
      unfold Json.get
      rw [ho]
      rfl
    exact h.congr (by simp [hg]) (by simp [hg]) (by simp [hg])

/-! ## Records -/

lemma trusted_of_uiRecord {r : UiEventRecord} (h : UiRecordOf X sourceId r sub)
    (hki : r.dataKind = .boardActivity) : Trusted X r.payload := by
  cases sub with
  | event e =>
    obtain ⟨-, ⟨hs, rfl⟩ | ⟨-, _, hp, rfl⟩⟩ := h
    · have hb : e.payload.dataKind = .boardActivity := hki
      unfold isSpaceEvent at hs
      rw [hb] at hs
      cases hs
    · exact trusted_uiPayload hki hp
  | snapshot =>
    obtain ⟨_, dataKind, _, _, _, hm, rfl⟩ := h
    have hb : dataKind = .boardActivity := hki
    rw [hb] at hm
    exact absurd hm (by decide)

lemma trusted_of_seed {snapshot : PublicClientSnapshot}
    (h : r ∈ snapshotProjectionSeeds sourceId snapshot X) (hki : r.dataKind = .boardActivity) :
    Trusted X r.payload := by
  have hf : ∀ dataKind values, r ∈ fanoutArray sourceId snapshot dataKind values →
      dataKind = .boardActivity ∧ ∃ v ∈ values, r.payload = attachGeneratedAt v
        snapshot.generatedAt := by
    intro _ _ hr
    obtain ⟨v, hv, rfl⟩ := mem_map.1 hr
    exact ⟨hki, v, hv, rfl⟩
  unfold snapshotProjectionSeeds at h
  simp only [mem_append, mem_cons, not_mem_nil, or_false] at h
  rcases h with (((((((rfl | rfl) | h) | h) | h) | h) | h) | h) | h
  · cases hki
  · cases hki
  · exact absurd (hf _ _ h).1 (by decide)
  · exact absurd (hf _ _ h).1 (by decide)
  · exact absurd (hf _ _ h).1 (by decide)
  · obtain ⟨-, _, hv, hp⟩ := hf _ _ h
    rw [hp]
    exact trusted_attachGeneratedAt (trusted_of_mem_filter hv) _
  · exact absurd (hf _ _ h).1 (by decide)
  · exact absurd (hf _ _ h).1 (by decide)
  · exact absurd (hf _ _ h).1 (by decide)

lemma trusted_of_projectionOf
    (h : ProjectionOf X sourceId r sub) (hki : r.dataKind = .boardActivity) :
    Trusted X r.payload := by
  cases sub with
  | event =>
    obtain ⟨-, dataKind, _, hp, rfl⟩ := h
    have hb : dataKind = .boardActivity := hki
    subst hb
    exact trusted_of_projection hp
  | snapshot => exact trusted_of_seed h hki

end

/-! ## Runs -/

def Output.board? : Output → Option Json
  | .row (.uiEvent _ stored) => if stored.dataKind = .boardActivity then some stored.payload else none
  | .projection key stored => if key.1 = .boardActivity then some stored.payload else none
  | .audit r => if r.dataKind = some .boardActivity then some r.payload else none
  | .queued _ e => if e.dataKind = .boardActivity then some e.payload else none
  | .sent _ (.event e) => if e.dataKind = .boardActivity then some e.payload else none
  | _ => none

/-- Every board payload that is stored, queued or sent, and every row that the board endpoint
answers, has a `world_event` only where it was rebuilt. What is streamed without being a row has none
in its `board_message` either, from which a row takes its fields. -/
def BoardHonest (X : Deployment) (calls : Nat → Call) (s : GatewaySys) : Prop :=
  (∀ out payload, s.world.Holds out → out.board? = some payload → Trusted X payload) ∧
    (∀ t query peers reply, calls t = .board query peers → (s.threads t).prog = .ret reply →
      BoardTrusted X reply) ∧
    ∀ t e, s.world.Holds (.queued t e) ∨ s.world.Holds (.sent t (.event e)) →
      e.dataKind = .boardActivity →
      (∃ t' eventId row, RowFrom X (calls t') (s.threads t').hist eventId row ∧
        e = .ofRow eventId row) ∨
      ∀ nested ∈ e.payload.get "board_message", Trusted X nested

/-- The value has no `world_event`, or is what the filter makes of it. -/
def Filtered (X : Deployment) (value : Json) : Prop :=
  value.get "world_event" = none ∨ trustedBoardMessage X value = .ok value

/-- An ephemeral board event that a call brings is filtered, and so is its `board_message`. -/
def Vetted (X : Deployment) (calls : Nat → Call) (_ : GatewaySys) : Action Env → Prop
  | .env _ => True
  | .run t _ => ∀ e, (calls t).event? = some e → e.payload.dataKind = .boardActivity →
      e.payload.provisionalPolicy = .ephemeralOnly → Filtered X e.payload.payload ∧
        ∀ nested ∈ e.payload.payload.get "board_message", Filtered X nested

section

variable {sources : Sources} {instances : Nat → Nat} {s : GatewaySys}

lemma Filtered.trusted {value : Json} (h : Filtered X value) : Trusted X value :=
  h.elim trusted_of_not_field trusted_of_filter

lemma vetted_of_admitted
    (hr : Reaches (machine instances) (Vetted X calls) (gatewayStart X sources calls) s)
    {e : SignedNodeEvent}
    (ha : Admitted X (calls t) (s.threads t).hist (.event e) sourceId)
    (hki : e.payload.dataKind = .boardActivity)
    (hp : e.payload.provisionalPolicy = .ephemeralOnly) : Trusted X e.payload.payload ∧
      ∀ nested ∈ e.payload.payload.get "board_message", Trusted X nested := by
  cases ha with
  | pushedEvent _ _ hc hf =>
    obtain ⟨_, _, -, -, hv, -⟩ := read_of_heard hr hf
    obtain ⟨h, hn⟩ := hv e hc hki hp
    exact ⟨h.trusted, fun nested hm => (hn nested hm).trusted⟩

lemma trusted_of_row {c : Call} {h : History} {eventId : String} {row : UiEventRow}
    (ho : RowFrom X c h eventId row) (hki : row.dataKind = .boardActivity) :
    Trusted X row.payload := by
  obtain ⟨_, _, _, _, _, -, hr, -, rfl⟩ := ho
  exact trusted_of_uiRecord hr hki

lemma trusted_of_event
    (hr : Reaches (machine instances) (Vetted X calls) (gatewayStart X sources calls) s)
    {e : GatewayUiEvent} (he : EventFrom X (calls t) (s.threads t).hist e)
    (hki : e.dataKind = .boardActivity) : Trusted X e.payload := by
  rcases he with ⟨_, _, ha, hp, rfl⟩ | ⟨_, _, ho, rfl⟩
  · exact (vetted_of_admitted hr ha hki hp).1
  · exact trusted_of_row ho hki

/-- What a query makes of a projection or an audit row is behind the filter. -/
lemma trusted_of_makes {c : Call} {h : History} {q : Query} {out : Output}
    (hd : Derives X c h q) (hm : Makes t q out)
    (ho : (∃ key row, out = .projection key row) ∨ ∃ r, out = .audit r)
    (hb : out.board? = some payload) : Trusted X payload := by
  rcases ho with ⟨_, _, rfl⟩ | ⟨r, rfl⟩
  · cases q with
    | write a =>
      cases a with
      | upsertProjectionRow r =>
        obtain ⟨rfl, ha, -⟩ := hm
        obtain ⟨hki, hb⟩ := ite_none_right_eq_some.1 hb
        cases hb
        rw [ha]
        rcases hd with ⟨sub, sourceId, -, hp⟩ | ⟨he, -⟩
        · exact trusted_of_projectionOf hp hki
        · have hbo : r.dataKind = .boardActivity := hki
          rw [hbo] at he
          exact absurd he (by decide)
      | _ => cases hm
    | _ => cases hm
  · cases q with
    | write a =>
      cases a with
      | insertAuditRecord =>
        cases hm
        obtain ⟨hki, hb⟩ := ite_none_right_eq_some.1 hb
        cases hb
        rcases hd with ⟨_, _, _, -, hr, rfl⟩ | ⟨_, _, _, _, _, _, rfl⟩
        · exact trusted_of_uiRecord hr (Option.some.inj hki)
        · cases hki
      | _ => cases hm
    | _ => cases hm

end

/-- In every run in which no ephemeral board event needs the filter the board is honest in every
state. -/
theorem board_honest (X : Deployment) (sources : Sources) (calls : Nat → Call)
    (instances : Nat → Nat) (s : GatewaySys)
    (hr : Reaches (machine instances) (Vetted X calls) (gatewayStart X sources calls) s) :
    BoardHonest X calls s := by
  refine ⟨?_, ?_, ?_⟩
  · intro out _ hh hb
    cases out with
    | row write =>
      cases write with
      | uiEvent =>
        obtain ⟨hki, hb⟩ := ite_none_right_eq_some.1 hb
        cases hb
        obtain ⟨t, ho⟩ := rowFrom_of_holds hr hh
        exact trusted_of_row ho hki
      | _ => cases hb
    | projection key row =>
      obtain ⟨t, q, h', -, hd, hm⟩ := derived_of_holds hr hh
      exact trusted_of_makes hd hm (Or.inl ⟨key, row, rfl⟩) hb
    | audit r =>
      obtain ⟨t, _, _, -, hd, hm⟩ := derived_of_holds hr hh
      exact trusted_of_makes hd hm (Or.inr ⟨r, rfl⟩) hb
    | artifact => cases hb
    | queued =>
      obtain ⟨hki, hb⟩ := ite_none_right_eq_some.1 hb
      cases hb
      obtain ⟨t', he⟩ := eventFrom_of_queued hr hh
      exact trusted_of_event hr he hki
    | sent _ m =>
      cases m with
      | event =>
        obtain ⟨hki, hb⟩ := ite_none_right_eq_some.1 hb
        cases hb
        obtain ⟨-, _, he⟩ := eventFrom_of_sent hr hh
        exact trusted_of_event hr he hki
      | _ => cases hb
  · intro t query peers _ hc ht
    have hf := hr.follows (follows_gatewayStart X sources calls) t
    rw [ht] at hf
    exact hf ⟨query, peers, hc⟩
  · intro t e hh hki
    obtain ⟨t', ⟨_, _, ha, hp, rfl⟩ | ⟨eventId, row, ho, he⟩⟩ :
        ∃ t', EventFrom X (calls t') (s.threads t').hist e :=
      hh.elim (eventFrom_of_queued hr) fun h => (eventFrom_of_sent hr h).2
    · exact .inr (vetted_of_admitted hr ha hki hp).2
    · exact .inl ⟨t', eventId, row, ho, he⟩

/-! ## The filter on one row -/

/-- The content of the row carries an announcement that the authority pinned for its network signed,
and the value is the event of the signed content. -/
def CarriesSigned (X : Deployment) (authorities : Authorities) (row value : Json) : Prop :=
  ∃ content payload announcement world, row.get "content" = some content ∧
    content.get "payload" = some payload ∧ SignedPayload X authorities payload announcement ∧
    X.worldEventOfValue announcement.content = .ok world ∧ value = X.worldEventToValue world

/-- An announcement whose content can be read stands in the content of the row, and is an object. -/
lemma carried_of_index {row carried : Json} (hb : boardAnnouncement row = some carried)
    (ho : carried.index "content" ≠ .null) :
    (∃ content, row.get "content" = some content ∧ content.get "payload" = some carried) ∧
      ∃ o, carried = .object o := by
  unfold boardAnnouncement at hb
  simp only [ite_none_right_eq_some, Option.some.injEq] at hb
  obtain ⟨-, rfl⟩ := hb
  refine ⟨?_, ?_⟩
  · cases hc : row.get "content" with
    | none =>
      rw [hc] at ho
      exact absurd rfl ho
    | some content =>
      cases hp : content.get "payload" with
      | none =>
        simp only [hc, bind_some, hp] at ho
        exact absurd rfl ho
      | some => exact ⟨content, rfl, by simp [hp]⟩
  · cases hj : ((row.get "content").bind fun c => c.get "payload").getD .null with
    | object o => exact ⟨o, rfl⟩
    | _ =>
      rw [hj] at ho
      exact absurd rfl ho

/-- An object has the `content` of an announcement under that name, and null is no event: then a row
that the filter lets through differs in `world_event` only, has one only where a signed announcement
stands behind it, and passes again as it is. -/
theorem filter_sound_idempotent (X : Deployment)
    (hcontent : ∀ o announcement, X.announcementOfValue (.object o) = .ok announcement →
      (Json.object o).index "content" = announcement.content)
    (hnull : ∀ world, X.worldEventOfValue .null ≠ .ok world) (v w : Json)
    (authorities : Authorities) (h : trustedBoardMessageWithAuthorities X v authorities = .ok w) :
    ((v.asObject = none → w = v) ∧ (v.asObject.isSome → w.asObject.isSome) ∧
      ∀ k, k ≠ "world_event" → w.get k = v.get k) ∧
    (∀ value, w.get "world_event" = some value → CarriesSigned X authorities w value) ∧
    trustedBoardMessageWithAuthorities X w authorities = .ok w := by
  cases v with
  | object o =>
    unfold trustedBoardMessageWithAuthorities at h
    simp only [Json.asObject] at h
    cases hb : boardAnnouncement (.object o) with
    | none =>
      simp only [hb] at h
      cases h
      have hs : boardAnnouncement (.object (Json.Fields.remove o "world_event")) = none := by
        rw [← hb]
        exact boardAnnouncement_congr (by simp) (by simp)
      refine ⟨⟨fun h => (by cases h), fun _ => rfl, fun k hk => by simp [hk]⟩, by simp, ?_⟩
      unfold trustedBoardMessageWithAuthorities
      simp only [Json.asObject, hs, Json.Fields.remove_remove]
    | some carried =>
      simp only [hb] at h
      obtain ⟨_, hv, h⟩ := bind_eq_ok.1 h
      obtain ⟨world, hw, h⟩ := bind_eq_ok.1 h
      cases h
      have hs : boardAnnouncement (.object
          (Json.Fields.insert o "world_event" (X.worldEventToValue world))) = some carried := by
        rw [← hb]
        exact boardAnnouncement_congr (by simp) (by simp)
      refine ⟨⟨fun h => (by cases h), fun _ => rfl, fun k hk => by simp [hk]⟩, ?_, ?_⟩
      · intro _ ha
        obtain ⟨announcement, hi⟩ := signed_of_validate hv
        obtain ⟨⟨content, hc, hp⟩, o', rfl⟩ :=
          carried_of_index hs fun hn => hnull world (hn ▸ hw)
        rw [hcontent o' announcement hi.1] at hw
        exact ⟨content, .object o', announcement, world, hc, hp, hi, hw,
          by simpa using ha.symm⟩
      · unfold trustedBoardMessageWithAuthorities
        simp only [Json.asObject, hs, hv, hw, bind, Except.bind, Json.Fields.insert_insert]
        rfl
  | _ =>
    cases h
    exact ⟨⟨fun _ => rfl, fun h => h, fun _ _ => rfl⟩, fun _ h => (by cases h), rfl⟩

/-! ## An ephemeral and a confirmed event -/

namespace Forged

def event (policy : ProvisionalExportPolicy) (payload : Json) : SignedNodeEvent where
  payload :=
    { eventId := "e", nodeId := "n", publicKey := "k1", signerAgentDid := "k1", seq := 1
      timestamp := 1, dataKind := .boardActivity, eventKind := "board.message.posted"
      visibility := .public, provisionalPolicy := policy, scope := ⟨none, none, none, none⟩
      identityKey := none, payload := payload }
  signature := "s1"

def bare : Json := .object [("world_event", .string "forged")]

def announced : Json :=
  .object [("world_event", .string "forged"),
    ("content", .object [("type", .string "EventAnnouncement"), ("payload", .object [])])]

def query : UiStreamQuery := ⟨none, none, none, some .boardActivity, none, none, none, none⟩

def ephemeralCalls : Nat → Call
  | 0 => .stream query 1
  | _ => .ingestNodeEvent (event .ephemeralOnly bare)

def confirmedCalls (_ : Nat) : Call :=
  .ingestNodeEvent (event .neverBeforeConfirmation announced)

def streamed : GatewaySys :=
  (gatewayStart smallDeployment .empty ephemeralCalls).runActions (machine fun _ => 0)
    (List.replicate 4 (.run 0 .ok) ++ List.replicate 4 (.run 1 .ok) ++ List.replicate 2 (.run 0 .ok))

def confirmed : GatewaySys :=
  (gatewayStart smallDeployment .empty confirmedCalls).runActions (machine fun _ => 0)
    (List.replicate 12 (.run 0 .ok))

def shown : WsMessage → Bool
  | .event e => e.dataKind = .boardActivity && (e.payload.get "world_event").isSome &&
      (boardAnnouncement e.payload).isNone
  | _ => false

lemma not_honest {s : GatewaySys}
    (h : (s.world.sent t).any shown = true) : ¬ BoardHonest X calls s := by
  intro hb
  obtain ⟨m, hm, hs⟩ := any_eq_true.1 h
  cases m with
  | event e =>
    simp only [shown, Bool.and_eq_true, decide_eq_true_eq] at hs
    obtain ⟨⟨hki, hw⟩, hno⟩ := hs
    obtain ⟨value, hv⟩ := isSome_iff_exists.1 hw
    have ht := hb.1 (.sent t (.event e)) e.payload hm (if_pos hki)
    obtain ⟨_, _, _, _, _, _, _, hc, -⟩ := ht value hv
    rw [hc] at hno
    cases hno
  | _ => cases hs

/-- As the small deployment, with an announcement and an event read from objects only. -/
def strict : Deployment :=
  { smallDeployment with
    announcementOfValue := fun payload =>
      .ok { smallAnnouncement with content := payload.index "content" }
    worldEventOfValue := fun
      | .object _ => smallDeployment.worldEventOfValue .null
      | _ => .error "expected struct WorldEvent" }

def row (event : String) : Json :=
  .object [("world_event", .string event),
    ("content", .object [("type", .string "EventAnnouncement"),
      ("payload", .object [("content", .object [])])])]

end Forged

set_option maxRecDepth 100000

open Forged in
/-- A subscriber is sent a `world_event` that no announcement stands behind. -/
theorem forged_event_streamed : Reaches (machine fun _ => 0) anyStep
      (gatewayStart smallDeployment .empty ephemeralCalls) streamed ∧
    ¬ BoardHonest smallDeployment ephemeralCalls streamed :=
  ⟨reaches_runActions _ _, not_honest (t := 0) (by decide)⟩

open Forged in
theorem board_honest_confirmed : ((confirmed.world.db.uiEvents.get? "e").bind fun row =>
      (row.payload.get "world_event").bind Json.asStr) = some "title" ∧
      BoardHonest smallDeployment confirmedCalls confirmed := by
  refine ⟨by decide, board_honest smallDeployment .empty confirmedCalls (fun _ => 0)
    confirmed (reaches_runActions_of _ _ fun a _ s => ?_)⟩
  cases a with
  | env => trivial
  | run =>
    intro _ he _ hp
    cases he
    cases hp

open Forged in
theorem filter_sound_idempotent_row :
    CarriesSigned strict [("net", "k1")] (row "title") (.string "title") ∧
      trustedBoardMessageWithAuthorities strict (row "title") [("net", "k1")] =
        .ok (row "title") := by
  have h := filter_sound_idempotent strict (fun o announcement h => by cases h; rfl)
    (fun world h => by cases h) (row "forged") (row "title") [("net", "k1")] rfl
  exact ⟨h.2.1 _ rfl, h.2.2⟩

end WattGateway.Gateway
