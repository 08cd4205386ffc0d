import WattGateway.Gateway.Models

/-!
# Signatures

`verify.rs`: signatures over the canonical JSON of a payload, and who a payload says signed it. The
base64, Ed25519, `serde_jcs` and `watt_did` crates are the parameters `Crypto`; a failed check
carries the text that the handlers answer with.
-/

namespace WattGateway.Gateway

/-- The payloads that are signed in canonical JSON. -/
inductive Canonical where
  | snapshot (payload : PublicClientSnapshot)
  | manifest (payload : GatewayManifest)
  | nodeEvent (payload : NodeEventPayload)
  | spacePresence (record : SpacePresenceRecord)
  | announcement (payload : UnsignedAnnouncement)

inductive DidKeyPublicKey where
  | ed25519 (bytes : List UInt8)
  | other

structure Crypto where
  /-- `STANDARD.decode`. -/
  base64Decode : String → Option (List UInt8)
  /-- `STANDARD.encode`. -/
  base64Encode : List UInt8 → String
  /-- `hex::decode`. -/
  hexDecode : String → Option (List UInt8)
  /-- `VerifyingKey::from_bytes` accepts the bytes. -/
  isVerifyingKey : List UInt8 → Bool
  /-- `verify` of the key, over the message, of the signature. -/
  ed25519Verify : List UInt8 → List UInt8 → List UInt8 → Bool
  /-- The canonical bytes of a payload, if it can be serialized. -/
  canonicalBytes : Canonical → Option (List UInt8)
  /-- The key of a `did:key`, or the text of the error. -/
  decodeDidKey : String → Except String DidKeyPublicKey

section

variable (C : Crypto)

def verifyCanonicalSignature (payload : Canonical) (signatureB64 publicKeyB64 contextLabel : String) :
    Except String Unit := do
  let key ← orFail "decode public key base64" (C.base64Decode publicKeyB64)
  let signature ← orFail "decode signature base64" (C.base64Decode signatureB64)
  failIf (key.length ≠ 32) "invalid public key length"
  failIf (C.isVerifyingKey key = false) "decode ed25519 verifying key"
  failIf (signature.length ≠ 64) "invalid signature length"
  let message ← orFail "canonicalize payload" (C.canonicalBytes payload)
  failIf (C.ed25519Verify key message signature = false) ("verify " ++ contextLabel)

/-- The signature is one of the key over the payload. -/
def Verifies (payload : Canonical) (signatureB64 publicKeyB64 : String) : Prop :=
  ∃ key signature message, C.base64Decode publicKeyB64 = some key ∧
    C.base64Decode signatureB64 = some signature ∧ key.length = 32 ∧ C.isVerifyingKey key = true ∧
    signature.length = 64 ∧ C.canonicalBytes payload = some message ∧
    C.ed25519Verify key message signature = true

variable {C}
variable {u : Unit}

lemma verifyCanonicalSignature_eq_ok {payload : Canonical} {signature key label : String} :
    verifyCanonicalSignature C payload signature key label = .ok u ↔
      Verifies C payload signature key := by
  unfold verifyCanonicalSignature Verifies
  simp only [bind_eq_ok, orFail_eq_ok, failIf_eq_ok, not_not, Bool.not_eq_false, exists_const]
  constructor
  · rintro ⟨k, hk, s, hs, hl, he, hl', m, hm, hv⟩
    exact ⟨k, s, m, hk, hs, hl, he, hl', hm, hv⟩
  · rintro ⟨k, s, m, hk, hs, hl, he, hl', hm, hv⟩
    exact ⟨k, hk, s, hs, hl, he, hl', m, hm, hv⟩

variable (C)

def publicKeyB64FromDidKey (agentDid : String) : Except String String := do
  match ← C.decodeDidKey agentDid with
  | .ed25519 bytes => return C.base64Encode bytes
  | .other => .error "did:key is not an Ed25519 verification key"

/-- A `did:` names its key; any other text is the key itself. -/
def publicKeyB64FromRef (publicKeyRef : String) : Except String String :=
  if publicKeyRef.startsWith "did:" then publicKeyB64FromDidKey C publicKeyRef else .ok publicKeyRef

def verifySignedSpacePresence (presence : SignedSpacePresence) : Except String Unit := do
  let key ← publicKeyB64FromDidKey C presence.record.agentDid
  failIf (key ≠ presence.publicKey) "space presence agent_did does not resolve to public_key"
  verifyCanonicalSignature C (.spacePresence presence.record) presence.signature presence.publicKey
    "space presence signature"

/-- The check of an expected signer: the same reference, or one to the same key. -/
def checkExpectedSigner (context message signer signerKey : String) :
    Option String → Except String Unit
  | none => .ok ()
  | some expected => do
    let expectedKey ← withContext context (publicKeyB64FromRef C expected)
    failIf (signer ≠ expected ∧ signerKey ≠ expectedKey)
      (message ++ ": expected " ++ expected ++ ", got " ++ signer)

def verifySignedSnapshot (snapshot : SignedPublicClientSnapshot)
    (expectedSignerAgentDid : Option String) : Except String Unit := do
  let signerKey ← withContext "resolve signer_agent_did public key"
    (publicKeyB64FromRef C snapshot.signerAgentDid)
  failIf (isBlank snapshot.payload.nodeId) "snapshot node_id is empty"
  failIf (isBlank snapshot.payload.publicKey) "snapshot public_key is empty"
  checkExpectedSigner C "resolve expected_signer_agent_did public key"
    "unexpected signer_agent_did" snapshot.signerAgentDid signerKey expectedSignerAgentDid
  failIf (signerKey ≠ snapshot.payload.publicKey)
    "signer_agent_did does not resolve to payload public_key"
  verifyCanonicalSignature C (.snapshot snapshot.payload) snapshot.signature
    snapshot.payload.publicKey "snapshot signature"

def verifySignedGatewayManifest (manifest : SignedGatewayManifest) : Except String Unit := do
  failIf (isBlank manifest.payload.gatewayId) "manifest gateway_id is empty"
  failIf (isBlank manifest.payload.displayName) "manifest display_name is empty"
  failIf (isBlank manifest.payload.baseUrl) "manifest base_url is empty"
  failIf (isBlank manifest.payload.publicKey) "manifest public_key is empty"
  failIf manifest.payload.roles.isEmpty "manifest roles must not be empty"
  verifyCanonicalSignature C (.manifest manifest.payload) manifest.signature
    manifest.payload.publicKey "gateway manifest signature"

def verifySignedNodeEvent (event : SignedNodeEvent) (expectedSignerAgentDid : Option String) :
    Except String Unit := do
  let signerKey ← withContext "resolve node event signer_agent_did public key"
    (publicKeyB64FromRef C event.payload.signerAgentDid)
  failIf (isBlank event.payload.eventId) "node event event_id is empty"
  failIf (isBlank event.payload.nodeId) "node event node_id is empty"
  failIf (isBlank event.payload.publicKey) "node event public_key is empty"
  failIf (isBlank event.payload.eventKind) "node event event_kind is empty"
  checkExpectedSigner C "resolve expected_signer_agent_did public key for node event"
    "unexpected node event signer_agent_did" event.payload.signerAgentDid signerKey
    expectedSignerAgentDid
  failIf (signerKey ≠ event.payload.publicKey)
    "node event signer_agent_did does not resolve to payload public_key"
  verifyCanonicalSignature C (.nodeEvent event.payload) event.signature event.payload.publicKey
    "node event signature"

variable {C}

/-- The payload is signed by the key that the reference `signer` names. -/
def SignedBy (C : Crypto) (signer : String) (payload : Canonical) (signature : String) : Prop :=
  ∃ key, publicKeyB64FromRef C signer = .ok key ∧ Verifies C payload signature key

lemma verifies_of_manifest {manifest : SignedGatewayManifest}
    (h : verifySignedGatewayManifest C manifest = .ok u) :
    Verifies C (.manifest manifest.payload) manifest.signature manifest.payload.publicKey := by
  unfold verifySignedGatewayManifest at h
  simp only [bind_eq_ok] at h
  obtain ⟨-, -, -, -, -, -, -, -, -, -, h⟩ := h
  exact verifyCanonicalSignature_eq_ok.1 h

variable {expected : String}

lemma key_of_expected {context message signer signerKey : String}
    (hs : publicKeyB64FromRef C signer = .ok signerKey)
    (h : checkExpectedSigner C context message signer signerKey (some expected) = .ok u) :
    publicKeyB64FromRef C expected = .ok signerKey := by
  unfold checkExpectedSigner at h
  obtain ⟨_, hy, h⟩ := bind_eq_ok.1 h
  rw [withContext_eq_ok] at hy
  rw [failIf_eq_ok] at h
  by_cases he : signer = expected
  · rw [← he, hs]
  · rw [hy, not_not.1 fun hne => h ⟨he, fun hk => hne (congrArg Except.ok hk.symm)⟩]

lemma signedBy_of_snapshot {snapshot : SignedPublicClientSnapshot}
    (h : verifySignedSnapshot C snapshot (some expected) = .ok u) :
    SignedBy C expected (.snapshot snapshot.payload) snapshot.signature := by
  unfold verifySignedSnapshot at h
  obtain ⟨key, hk, h⟩ := bind_eq_ok.1 h
  obtain ⟨_, h⟩ := rest_ok h
  obtain ⟨_, h⟩ := rest_ok h
  obtain ⟨_, he, h⟩ := bind_eq_ok.1 h
  obtain ⟨_, heq, h⟩ := bind_eq_ok.1 h
  rw [withContext_eq_ok] at hk
  rw [failIf_eq_ok, not_not] at heq
  exact ⟨key, key_of_expected hk he, heq ▸ verifyCanonicalSignature_eq_ok.1 h⟩

lemma signedBy_of_event {event : SignedNodeEvent}
    (h : verifySignedNodeEvent C event (some expected) = .ok u) :
    SignedBy C expected (.nodeEvent event.payload) event.signature := by
  unfold verifySignedNodeEvent at h
  obtain ⟨key, hk, h⟩ := bind_eq_ok.1 h
  obtain ⟨_, h⟩ := rest_ok h
  obtain ⟨_, h⟩ := rest_ok h
  obtain ⟨_, h⟩ := rest_ok h
  obtain ⟨_, h⟩ := rest_ok h
  obtain ⟨_, he, h⟩ := bind_eq_ok.1 h
  obtain ⟨_, heq, h⟩ := bind_eq_ok.1 h
  rw [withContext_eq_ok] at hk
  rw [failIf_eq_ok, not_not] at heq
  exact ⟨key, key_of_expected hk he, heq ▸ verifyCanonicalSignature_eq_ok.1 h⟩

end

/-! ## Two keys -/

def twoKeysDecode (s : String) : Option (List UInt8) :=
  if s = "k1" then some (List.replicate 32 1)
  else if s = "k2" then some (List.replicate 32 2)
  else if s = "s1" then some (List.replicate 64 1)
  else if s = "s2" then some (List.replicate 64 2)
  else none

/-- Two keys, each with one signature that is good for every payload. -/
def twoKeys : Crypto where
  base64Decode := twoKeysDecode
  base64Encode bytes :=
    (if bytes.length = 32 then "k" else "s") ++ (if bytes.head? = some 1 then "1" else "2")
  hexDecode := twoKeysDecode
  isVerifyingKey _ := true
  ed25519Verify key _ signature := key.head? = signature.head?
  canonicalBytes _ := some []
  decodeDidKey _ := .error "parse did:key"

lemma not_verifies_s2 (payload : Canonical) : ¬ Verifies twoKeys payload "s2" "k1" := by
  rintro ⟨_, _, _, hk, hs, -, -, -, -, hv⟩
  cases hk
  cases hs
  cases hv

end WattGateway.Gateway
