import WattGateway.Lib.Record
import WattGateway.Gateway.Verify

/-!
# The signed shape of a payload

`models.rs`: what `serde` reads a snapshot and a manifest from and writes of them, by the attributes
of their fields. The contract crate's own types and the numbers of `serde_jcs` are the parameters
`Wire`. The object as it was sent and the decoded payload have the same canonical bytes exactly if
the sender wrote every field as this gateway writes it (`signed_shape_kept_iff`).
-/

namespace WattGateway.Gateway

open Json Jcs List Option Slot

/-- What is decided outside of the gateway's crates. -/
structure Wire where
  /-- How `serde_jcs` writes numbers. -/
  numbers : NumberFormat
  spacePresence : Jcs.Codec SignedSpacePresence
  nodePresence : Jcs.Codec NodePresence

variable {p : PublicClientSnapshot} {o : Fields} {W : Wire} {payload : Canonical}
  {m : GatewayManifest}

/-! ## `PublicClientSnapshot` -/

namespace SnapshotSlot

def generatedAt : Slot Int := .plain "generated_at" .i64
def nodeId : Slot String := .plain "node_id" .string
def agentIdentity : Slot (Option String) := .skipNone "agent_identity" .string
def publicId : Slot (Option String) := .skipNone "public_id" .string
def publicKey : Slot String := .plain "public_key" .string
def networkName : Slot (Option String) := .skipNone "network_name" .string
def networkOrgName : Slot (Option String) := .skipNone "network_org_name" .string
def networkStatus : Slot Json := .plain "network_status" .value
def nodes : Slot (Option (List Json)) := .skipNone "nodes" (.list .value)
def peers : Slot (List Json) := .plain "peers" (.list .value)
def operator : Slot Json := .plain "operator" .value
def rpcLogs : Slot (List Json) := .plain "rpc_logs" (.list .value)
def publicBlocks : Slot (List Json) := .withDefault "public_blocks" (.list .value) []
def publicTopics : Slot (List Json) := .withDefault "public_topics" (.list .value) []
def publicTopicMessages : Slot (List Json) := .withDefault "public_topic_messages" (.list .value) []
def publicBoardMessages : Slot (List Json) := .skipEmpty "public_board_messages" .value
def spacePresences (W : Wire) : Slot (List SignedSpacePresence) :=
  .skipEmpty "space_presences" W.spacePresence
def nodePresence (W : Wire) : Slot (Option NodePresence) := .skipNone "node_presence" W.nodePresence
def worldEvents : Slot (List Json) := .skipEmpty "world_events" .value
def swarmTaskActivity : Slot Json := .withDefault "swarm_task_activity" .value .null
def tasks : Slot (List Json) := .plain "tasks" (.list .value)
def organizations : Slot (List Json) := .plain "organizations" (.list .value)
def leaderboard : Slot (List Json) := .plain "leaderboard" (.list .value)

end SnapshotSlot

section

open SnapshotSlot

variable (W : Wire)

def snapshotColumns : List (Column PublicClientSnapshot) :=
  [⟨_, generatedAt, fun p => p.generatedAt⟩, ⟨_, nodeId, fun p => p.nodeId⟩,
    ⟨_, agentIdentity, fun p => p.agentIdentity⟩, ⟨_, publicId, fun p => p.publicId⟩,
    ⟨_, publicKey, fun p => p.publicKey⟩, ⟨_, networkName, fun p => p.networkName⟩,
    ⟨_, networkOrgName, fun p => p.networkOrgName⟩, ⟨_, networkStatus, fun p => p.networkStatus⟩,
    ⟨_, nodes, fun p => p.nodes⟩, ⟨_, peers, fun p => p.peers⟩, ⟨_, operator, fun p => p.operator⟩,
    ⟨_, rpcLogs, fun p => p.rpcLogs⟩, ⟨_, publicBlocks, fun p => p.publicBlocks⟩,
    ⟨_, publicTopics, fun p => p.publicTopics⟩,
    ⟨_, publicTopicMessages, fun p => p.publicTopicMessages⟩,
    ⟨_, publicBoardMessages, fun p => p.publicBoardMessages⟩,
    ⟨_, spacePresences W, fun p => p.spacePresences⟩, ⟨_, nodePresence W, fun p => p.nodePresence⟩,
    ⟨_, worldEvents, fun p => p.worldEvents⟩, ⟨_, swarmTaskActivity, fun p => p.swarmTaskActivity⟩,
    ⟨_, tasks, fun p => p.tasks⟩, ⟨_, organizations, fun p => p.organizations⟩,
    ⟨_, leaderboard, fun p => p.leaderboard⟩]

def deserializeSnapshot (o : Fields) : Option PublicClientSnapshot := do
  let generatedAt ← generatedAt.read o
  let nodeId ← nodeId.read o
  let agentIdentity ← agentIdentity.read o
  let publicId ← publicId.read o
  let publicKey ← publicKey.read o
  let networkName ← networkName.read o
  let networkOrgName ← networkOrgName.read o
  let networkStatus ← networkStatus.read o
  let nodes ← nodes.read o
  let peers ← peers.read o
  let operator ← operator.read o
  let rpcLogs ← rpcLogs.read o
  let publicBlocks ← publicBlocks.read o
  let publicTopics ← publicTopics.read o
  let publicTopicMessages ← publicTopicMessages.read o
  let publicBoardMessages ← publicBoardMessages.read o
  let spacePresences ← (spacePresences W).read o
  let nodePresence ← (nodePresence W).read o
  let worldEvents ← worldEvents.read o
  let swarmTaskActivity ← swarmTaskActivity.read o
  let tasks ← tasks.read o
  let organizations ← organizations.read o
  let leaderboard ← leaderboard.read o
  return {
    generatedAt, nodeId, agentIdentity, publicId, publicKey, networkName, networkOrgName
    networkStatus, nodes, peers, operator, rpcLogs, publicBlocks, publicTopics, publicTopicMessages
    publicBoardMessages, spacePresences, nodePresence, worldEvents, swarmTaskActivity, tasks
    organizations, leaderboard }

def serializeSnapshot (payload : PublicClientSnapshot) : Fields := write (snapshotColumns W) payload

lemma reads_snapshot (h : deserializeSnapshot W o = some p) : Reads (snapshotColumns W) o p := by
  unfold deserializeSnapshot at h
  iterate 23 obtain ⟨_, _, h⟩ := bind_eq_some_iff.1 h
  cases h
  simp only [Reads, snapshotColumns, forall_mem_cons, not_mem_nil, false_implies,
    implies_true, and_true]
  repeat' apply And.intro
  all_goals assumption

def snapshotNames : List String :=
  ["generated_at", "node_id", "agent_identity", "public_id", "public_key", "network_name",
    "network_org_name", "network_status", "nodes", "peers", "operator", "rpc_logs", "public_blocks",
    "public_topics", "public_topic_messages", "public_board_messages", "space_presences",
    "node_presence", "world_events", "swarm_task_activity", "tasks", "organizations", "leaderboard"]

lemma names_snapshotColumns : names (snapshotColumns W) = snapshotNames := rfl

end

/-! ## `GatewayManifest` -/

namespace ManifestSlot

def generatedAt : Slot Int := .plain "generated_at" .i64
def gatewayId : Slot String := .plain "gateway_id" .string
def displayName : Slot String := .plain "display_name" .string
def baseUrl : Slot String := .plain "base_url" .string
def publicKey : Slot String := .plain "public_key" .string
def region : Slot (Option String) := .optional "region" [] .string
def operatorDid : Slot (Option String) := .optional "operator_did" ["operator_id"] .string
def roles : Slot (List String) := .plain "roles" (.list .string)
def supportedEndpoints : Slot (List String) := .plain "supported_endpoints" (.list .string)
def federationPeers : Slot (List String) := .plain "federation_peers" (.list .string)
def allowsPublicIngest : Slot Bool := .plain "allows_public_ingest" .bool

end ManifestSlot

section

open ManifestSlot

def manifestColumns : List (Column GatewayManifest) :=
  [⟨_, generatedAt, fun m => m.generatedAt⟩, ⟨_, gatewayId, fun m => m.gatewayId⟩,
    ⟨_, displayName, fun m => m.displayName⟩, ⟨_, baseUrl, fun m => m.baseUrl⟩,
    ⟨_, publicKey, fun m => m.publicKey⟩, ⟨_, region, fun m => m.region⟩,
    ⟨_, operatorDid, fun m => m.operatorDid⟩, ⟨_, roles, fun m => m.roles⟩,
    ⟨_, supportedEndpoints, fun m => m.supportedEndpoints⟩,
    ⟨_, federationPeers, fun m => m.federationPeers⟩,
    ⟨_, allowsPublicIngest, fun m => m.allowsPublicIngest⟩]

def deserializeManifest (o : Fields) : Option GatewayManifest := do
  let generatedAt ← generatedAt.read o
  let gatewayId ← gatewayId.read o
  let displayName ← displayName.read o
  let baseUrl ← baseUrl.read o
  let publicKey ← publicKey.read o
  let region ← region.read o
  let operatorDid ← operatorDid.read o
  let roles ← roles.read o
  let supportedEndpoints ← supportedEndpoints.read o
  let federationPeers ← federationPeers.read o
  let allowsPublicIngest ← allowsPublicIngest.read o
  return {
    generatedAt, gatewayId, displayName, baseUrl, publicKey, region, operatorDid, roles
    supportedEndpoints, federationPeers, allowsPublicIngest }

def serializeManifest (payload : GatewayManifest) : Fields := write manifestColumns payload

lemma reads_manifest (h : deserializeManifest o = some m) : Reads manifestColumns o m := by
  unfold deserializeManifest at h
  iterate 11 obtain ⟨_, _, h⟩ := bind_eq_some_iff.1 h
  cases h
  simp only [Reads, manifestColumns, forall_mem_cons, not_mem_nil, false_implies,
    implies_true, and_true]
  repeat' apply And.intro
  all_goals assumption

def manifestNames : List String :=
  ["generated_at", "gateway_id", "display_name", "base_url", "public_key", "region", "operator_did",
    "operator_id", "roles", "supported_endpoints", "federation_peers", "allows_public_ingest"]

lemma names_manifestColumns : names manifestColumns = manifestNames := rfl

end

/-! ## What has to be sent -/

/-- The sender leaves out of a snapshot what the gateway leaves out, and nothing else. -/
structure SnapshotAsWritten (W : Wire) (o : Fields) : Prop where
  present : ∀ k ∈ ["public_blocks", "public_topics", "public_topic_messages", "swarm_task_activity"],
    o.get k ≠ none
  notNull : ∀ k ∈ ["agent_identity", "public_id", "network_name", "network_org_name", "nodes",
    "node_presence"], o.get k ≠ some .null
  notEmpty : ∀ k ∈ ["public_board_messages", "space_presences", "world_events"],
    o.get k ≠ some (.array [])
  /-- The presences are written as the contract crate writes them. -/
  spacePresences : ∀ items, o.get "space_presences" = some (.array items) →
    ∀ item ∈ items, W.spacePresence.Rewrites W.numbers item
  nodePresence : ∀ v, o.get "node_presence" = some v → W.nodePresence.Rewrites W.numbers v

/-- The sender of a manifest writes its region and its operator, null if there is none, and the
operator under its present name. -/
structure ManifestAsWritten (o : Fields) : Prop where
  region : o.get "region" ≠ none
  operatorDid : o.get "operator_did" ≠ none

set_option maxRecDepth 100000

/-- What is written of a snapshot has the text of the object it was read from, exactly if the object
is as the gateway writes it. -/
lemma snapshot_text_iff (hk : ∀ f ∈ o, f.1 ∈ snapshotNames) (h : deserializeSnapshot W o = some p) :
    text W.numbers (.object (serializeSnapshot W p)) = text W.numbers (.object o) ↔
      SnapshotAsWritten W o := by
  have hr := reads_snapshot W h
  unfold serializeSnapshot
  rw [text_write_eq_iff (by rw [names_snapshotColumns]; decide) hk hr]
  simp only [Reads, snapshotColumns, forall_mem_cons, not_mem_nil, false_implies,
    implies_true, and_true] at hr ⊢
  obtain ⟨h₁, h₂, _, _, h₅, _, _, h₈, _, h₁₀, h₁₁, h₁₂, h₁₃, h₁₄, h₁₅, h₁₆, h₁₇, _, h₁₉, h₂₀,
    h₂₁, h₂₂, h₂₃⟩ := hr
  have ha := Codec.exact_value
  have hl := Codec.exact_list ha
  have hs := Codec.exact_string
  constructor
  · rintro ⟨-, -, k₃, k₄, -, k₆, k₇, -, k₉, -, -, -, k₁₃, k₁₄, k₁₅, k₁₆, k₁₇, k₁₈, k₁₉, k₂₀, -⟩
    have hsp := (kept_skipEmpty h₁₇).1 k₁₇
    have hno := kept_skipNone.1 k₁₈
    refine ⟨?_, ?_, ?_, fun items h => (hsp items h).2, fun v h => (hno v h).2⟩ <;>
      simp only [forall_mem_cons, not_mem_nil, false_implies, implies_true, and_true]
    · exact ⟨(kept_withDefault hl h₁₃).1 k₁₃, (kept_withDefault hl h₁₄).1 k₁₄,
        (kept_withDefault hl h₁₅).1 k₁₅, (kept_withDefault ha h₂₀).1 k₂₀⟩
    · exact ⟨(kept_skipNone_exact hs).1 k₃, (kept_skipNone_exact hs).1 k₄,
        (kept_skipNone_exact hs).1 k₆, (kept_skipNone_exact hs).1 k₇,
        (kept_skipNone_exact hl).1 k₉, fun h => (hno .null h).1 rfl⟩
    · exact ⟨(kept_skipEmpty_exact ha h₁₆).1 k₁₆, fun h => (hsp [] h).1 rfl,
        (kept_skipEmpty_exact ha h₁₉).1 k₁₉⟩
  · rintro ⟨hp, hu, he, hsp, hno⟩
    simp only [forall_mem_cons, not_mem_nil, false_implies, implies_true, and_true]
      at hp hu he
    obtain ⟨p₁₃, p₁₄, p₁₅, p₂₀⟩ := hp
    obtain ⟨n₃, n₄, n₆, n₇, n₉, n₁₈⟩ := hu
    obtain ⟨e₁₆, e₁₇, e₁₉⟩ := he
    exact ⟨kept_plain Codec.exact_i64 h₁, kept_plain hs h₂,
      (kept_skipNone_exact hs).2 n₃, (kept_skipNone_exact hs).2 n₄,
      kept_plain hs h₅, (kept_skipNone_exact hs).2 n₆,
      (kept_skipNone_exact hs).2 n₇, kept_plain ha h₈,
      (kept_skipNone_exact hl).2 n₉, kept_plain hl h₁₀, kept_plain ha h₁₁,
      kept_plain hl h₁₂, (kept_withDefault hl h₁₃).2 p₁₃,
      (kept_withDefault hl h₁₄).2 p₁₄, (kept_withDefault hl h₁₅).2 p₁₅,
      (kept_skipEmpty_exact ha h₁₆).2 e₁₆,
      (kept_skipEmpty h₁₇).2 fun items h => ⟨fun hn => e₁₇ (hn ▸ h), hsp items h⟩,
      kept_skipNone.2 fun v h => ⟨fun hv => n₁₈ (hv ▸ h), hno v h⟩,
      (kept_skipEmpty_exact ha h₁₉).2 e₁₉, (kept_withDefault ha h₂₀).2 p₂₀,
      kept_plain hl h₂₁, kept_plain hl h₂₂, kept_plain hl h₂₃⟩

lemma manifest_text_iff {F : NumberFormat}
    (hk : ∀ f ∈ o, f.1 ∈ manifestNames) (h : deserializeManifest o = some m) :
    text F (.object (serializeManifest m)) = text F (.object o) ↔ ManifestAsWritten o := by
  have he := reads_manifest h
  unfold serializeManifest
  rw [text_write_eq_iff (by rw [names_manifestColumns]; decide) hk he]
  simp only [Reads, manifestColumns, forall_mem_cons, not_mem_nil, false_implies,
    implies_true, and_true] at he ⊢
  obtain ⟨h₁, h₂, h₃, h₄, h₅, h₆, h₇, h₈, h₉, h₁₀, h₁₁⟩ := he
  constructor
  · rintro ⟨-, -, -, -, -, hr, ho, -⟩
    exact ⟨(kept_optional Codec.exact_string h₆).1 hr, (kept_optional Codec.exact_string h₇).1 ho⟩
  · rintro ⟨hr, ho⟩
    have hl := Codec.exact_list Codec.exact_string
    exact ⟨kept_plain Codec.exact_i64 h₁, kept_plain Codec.exact_string h₂,
      kept_plain Codec.exact_string h₃, kept_plain Codec.exact_string h₄,
      kept_plain Codec.exact_string h₅, (kept_optional Codec.exact_string h₆).2 hr,
      (kept_optional Codec.exact_string h₇).2 ho, kept_plain hl h₈,
      kept_plain hl h₉, kept_plain hl h₁₀, kept_plain Codec.exact_bool h₁₁⟩

/-! ## Signatures -/

def Wire.canonicalJson (W : Wire) (v : Json) : List UInt8 :=
  (String.ofList (text W.numbers v)).toUTF8.data.toList

/-- `canonical_bytes` of a snapshot and of a manifest is the canonical JSON of what is serialized. -/
def Crypto.over (C : Crypto) (W : Wire) : Crypto :=
  { C with
    canonicalBytes := fun
      | .snapshot p => some (W.canonicalJson (.object (serializeSnapshot W p)))
      | .manifest m => some (W.canonicalJson (.object (serializeManifest m)))
      | payload => C.canonicalBytes payload }

lemma canonicalJson_eq_iff {v v' : Json} :
    W.canonicalJson v = W.canonicalJson v' ↔ text W.numbers v = text W.numbers v' := by
  unfold Wire.canonicalJson
  constructor
  · intro h
    exact String.ofList_injective (String.toByteArray_inj.1 (ByteArray.ext (Array.toList_inj.1 h)))
  · intro h
    rw [h]

def SignedBytes (C : Crypto) (message : List UInt8) (signatureB64 publicKeyB64 : String) : Prop :=
  ∃ key signature, C.base64Decode publicKeyB64 = some key ∧
    C.base64Decode signatureB64 = some signature ∧ key.length = 32 ∧ C.isVerifyingKey key = true ∧
    signature.length = 64 ∧ C.ed25519Verify key message signature = true

/-- The payload has the canonical bytes of the object it was decoded from, and every signature over
them passes the check. -/
def ShapeKept (C : Crypto) (W : Wire) (o : Fields) (payload : Canonical) : Prop :=
  (C.over W).canonicalBytes payload = some (W.canonicalJson (.object o)) ∧
    ∀ signatureB64 publicKeyB64 contextLabel,
      SignedBytes C (W.canonicalJson (.object o)) signatureB64 publicKeyB64 →
      verifyCanonicalSignature (C.over W) payload signatureB64 publicKeyB64 contextLabel = .ok ()

lemma shapeKept_iff {C : Crypto} : ShapeKept C W o payload ↔
      (C.over W).canonicalBytes payload = some (W.canonicalJson (.object o)) := by
  refine ⟨fun h => h.1, fun h => ⟨h, fun signatureB64 publicKeyB64 label hs => ?_⟩⟩
  obtain ⟨key, signature, hk, hi, hl, hv, hl', he⟩ := hs
  exact verifyCanonicalSignature_eq_ok.2
    ⟨key, signature, _, hk, hi, hl, hv, hl', h, he⟩

/-- Of an object with the known fields that can be decoded, the signed shape is kept exactly if it
was sent as the gateway writes it. -/
theorem signed_shape_kept_iff (C : Crypto) (W : Wire) :
    (∀ o p, (∀ f ∈ o, f.1 ∈ snapshotNames) → deserializeSnapshot W o = some p →
      (ShapeKept C W o (.snapshot p) ↔ SnapshotAsWritten W o)) ∧
    (∀ o m, (∀ f ∈ o, f.1 ∈ manifestNames) → deserializeManifest o = some m →
      (ShapeKept C W o (.manifest m) ↔ ManifestAsWritten o)) := by
  constructor
  · intro _ _ hk h
    rw [shapeKept_iff, ← snapshot_text_iff hk h, ← canonicalJson_eq_iff]
    exact some_inj
  · intro _ _ hk h
    rw [shapeKept_iff, ← manifest_text_iff (F := W.numbers) hk h, ← canonicalJson_eq_iff]
    exact some_inj

/-! ## Two senders -/

namespace Sender

lemma plain_of_isDigit {c : Char} (h : c.isDigit = true) :
    c ∉ ['"', ',', '[', ']', '\x7b', '\x7d'] := by
  intro hc
  simp only [mem_cons, not_mem_nil, or_false] at hc
  rcases hc with rfl | rfl | rfl | rfl | rfl | rfl <;> cases h

def numbers : NumberFormat where
  text
    | .int n => (if n < 0 then ['-'] else []) ++ Nat.toDigits 10 n.natAbs
    | .float bits => Nat.toDigits 10 bits.toNat
  ne_nil := by
    intro n
    cases n <;> simp
  plain := by
    have hdigits : ∀ n : Nat, ∀ c ∈ Nat.toDigits 10 n, c ∉ ['"', ',', '[', ']', '\x7b', '\x7d'] :=
      fun n c hc => plain_of_isDigit (Nat.isDigit_of_mem_toDigits (by decide) (by decide) hc)
    intro n c hc
    cases n with
    | float => exact hdigits _ c hc
    | int =>
      rcases mem_append.1 hc with hc | hc
      · split at hc
        · rw [mem_singleton] at hc
          subst hc
          decide
        · cases hc
      · exact hdigits _ c hc

def wire : Wire where
  numbers := numbers
  spacePresence := ⟨fun _ => none, fun _ => .null⟩
  nodePresence := ⟨fun _ => none, fun _ => .null⟩

def signing (message : List UInt8) : Crypto :=
  { twoKeys with ed25519Verify := fun _ message' _ => message' == message }

def whole : Fields :=
  [("node_id", .string "n"), ("generated_at", .ofNat 1), ("public_key", .string "k1"),
    ("network_status", .object []), ("peers", .array []), ("operator", .object []),
    ("rpc_logs", .array []), ("public_blocks", .array []), ("public_topics", .array []),
    ("public_topic_messages", .array []), ("swarm_task_activity", .object []), ("tasks", .array []),
    ("organizations", .array []), ("leaderboard", .array [])]

def sparse : Fields := Fields.remove whole "public_blocks"

def manifest (operator : String) : Fields :=
  [("generated_at", .ofNat 1), ("gateway_id", .string "g"), ("display_name", .string "G"),
    ("base_url", .string "https://g"), ("public_key", .string "k1"), ("region", .null),
    (operator, .string "did:key:a"), ("roles", .array [.string "query"]),
    ("supported_endpoints", .array []), ("federation_peers", .array []),
    ("allows_public_ingest", .bool true)]

lemma signedBytes (message : List UInt8) : SignedBytes (signing message) message "s1" "k1" :=
  ⟨List.replicate 32 1, List.replicate 64 1, rfl, rfl, rfl, rfl, rfl, beq_self_eq_true message⟩

lemma refused {message message' : List UInt8} {label : String}
    (h : ((signing message).over wire).canonicalBytes payload = some message')
    (hne : message' ≠ message) :
    verifyCanonicalSignature ((signing message).over wire) payload "s1" "k1" label =
      .error ("verify " ++ label) := by
  have hb : ((signing message).over wire).ed25519Verify (List.replicate 32 1) message'
      (List.replicate 64 1) = false := beq_eq_false_iff_ne.2 hne
  unfold verifyCanonicalSignature
  rw [h]
  show failIf (((signing message).over wire).ed25519Verify (List.replicate 32 1) message'
    (List.replicate 64 1) = false) ("verify " ++ label) = _
  rw [hb]
  rfl

/-- What is sent whole is accepted. -/
theorem signed_shape_kept_iff_whole : ∃ p m, deserializeSnapshot wire whole = some p ∧
      deserializeManifest (manifest "operator_did") = some m ∧
      ShapeKept twoKeys wire whole (.snapshot p) ∧
      ShapeKept twoKeys wire (manifest "operator_did") (.manifest m) := by
  have hs : (deserializeSnapshot wire whole).isSome = true := by decide
  have ha : (deserializeManifest (manifest "operator_did")).isSome = true := by
    decide
  obtain ⟨p, hp⟩ := isSome_iff_exists.1 hs
  obtain ⟨m, hm⟩ := isSome_iff_exists.1 ha
  refine ⟨p, m, hp, hm, ((signed_shape_kept_iff twoKeys wire).1 whole p (by decide) hp).2 ?_,
    ((signed_shape_kept_iff twoKeys wire).2 _ m (by decide) hm).2 ?_⟩
  · refine ⟨?_, ?_, ?_, ?_, ?_⟩ <;> simp [whole, Fields.get_cons]
  · refine ⟨?_, ?_⟩ <;> simp [manifest, Fields.get_cons]

/-- Valid signatures over a snapshot without `public_blocks`, which may be missing, and over a
manifest with `operator_id`, which is an alias, are refused. -/
theorem sparse_and_renamed_refused :
    (∀ f ∈ sparse, f.1 ∈ snapshotNames) ∧ (∀ f ∈ manifest "operator_id", f.1 ∈ manifestNames) ∧
    (∃ p message, deserializeSnapshot wire sparse = some p ∧
      message = wire.canonicalJson (.object sparse) ∧ SignedBytes (signing message) message "s1" "k1" ∧
      verifyCanonicalSignature ((signing message).over wire) (.snapshot p) "s1" "k1"
        "snapshot signature" = .error "verify snapshot signature") ∧
    ∃ m message, deserializeManifest (manifest "operator_id") = some m ∧
      message = wire.canonicalJson (.object (manifest "operator_id")) ∧
      SignedBytes (signing message) message "s1" "k1" ∧
      verifyCanonicalSignature ((signing message).over wire) (.manifest m) "s1" "k1"
        "gateway manifest signature" = .error "verify gateway manifest signature" := by
  obtain ⟨hn, ha, hs, hr⟩ : (deserializeSnapshot wire sparse).isSome = true ∧
      (deserializeManifest (manifest "operator_id")).isSome = true ∧
      (∀ f ∈ sparse, f.1 ∈ snapshotNames) ∧ ∀ f ∈ manifest "operator_id", f.1 ∈ manifestNames := by
    decide
  obtain ⟨p, hp⟩ := isSome_iff_exists.1 hn
  obtain ⟨m, hm⟩ := isSome_iff_exists.1 ha
  refine ⟨hs, hr, ⟨p, _, hp, rfl, signedBytes _, refused rfl fun heq => ?_⟩,
    ⟨m, _, hm, rfl, signedBytes _, refused rfl fun heq => ?_⟩⟩
  · have hw := (snapshot_text_iff hs hp).1 (canonicalJson_eq_iff.1 heq)
    exact hw.present "public_blocks" (by decide) (by simp [sparse])
  · have hw := (manifest_text_iff hr hm).1 (canonicalJson_eq_iff.1 heq)
    exact hw.operatorDid (by simp [manifest, Fields.get_cons])

end Sender

end WattGateway.Gateway
