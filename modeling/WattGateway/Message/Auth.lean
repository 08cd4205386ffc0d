import WattGateway.Message.World

/-!
# Session proofs

`prove_session` of `auth.rs` with `register_principal_instance`, in one transaction, which locks the
challenge row (`FOR UPDATE`) and the instance row it upserts and asks `principal_is_admitted`
through the pool. The principals of a challenge are stored as a list instead of JSON; columns that
nothing modelled reads are left out.
-/

namespace WattGateway.Message

open Prog Table

/-! ## Requests -/

structure PrincipalClaim where
  principalId : String
  publicKeyHex : String
  tenantInstanceId : Option String
  deriving DecidableEq

structure PrincipalProof where
  principalId : String
  signatureHex : String
  deriving DecidableEq

structure SessionProofRequest where
  networkId : String
  challengeId : String
  deliveryPolicyVersion : Nat
  principals : List PrincipalClaim
  proofs : List PrincipalProof
  deriving DecidableEq

structure ChallengeResponse where
  challengeId : String
  nonce : String
  expiresAt : Nat
  deriving DecidableEq

inductive HistoryStatus where
  | historyUnavailable
  | currentMailboxOnly
  deriving DecidableEq

structure SessionResponse where
  sessionToken : String
  networkId : String
  principalId : String
  deliveryPolicyVersion : Nat
  historyStatus : HistoryStatus
  expiresAt : Nat
  deriving DecidableEq

/-- The functions of other crates that `prove_session` calls. -/
structure AuthCrates where
  /-- `Uuid::parse_str`, to the canonical text. -/
  parseUuid : String → Option String
  sessionProofMessage : String → List PrincipalClaim → ChallengeResponse → Option Bytes
  /-- `wattswarm_crypto::verify_signature`. -/
  verifySignature : String → Bytes → String → Bool

/-! ## Tables -/

/-- A row of `gateway_challenges`. -/
structure ChallengeRow where
  networkId : String
  principals : List PrincipalClaim
  nonce : String
  expiresAt : Nat
  consumedAt : Option Nat
  deriving DecidableEq

/-- A row of `gateway_sessions`. -/
structure SessionRow where
  tokenHash : Digest
  networkId : String
  expiresAt : Nat
  deriving DecidableEq

/-- A row of `gateway_principal_instances`. -/
structure InstanceRow where
  tenantInstanceId : String
  historyUnavailable : Bool
  deriving DecidableEq

/-- A `session_proof` row of `gateway_audit`. -/
structure SessionAuditRow where
  networkId : String
  principalId : String
  deliveryPolicyVersion : Nat
  historyStatus : HistoryStatus
  deriving DecidableEq

structure AuthDb where
  challenges : Table String ChallengeRow
  sessions : Table String SessionRow
  /-- By session and principal, with the expiry. -/
  sessionPrincipals : Table (String × String) Nat
  /-- By network and principal. -/
  instances : Table (String × String) InstanceRow
  audit : List SessionAuditRow

inductive AuthStmt where
  | registerPrincipalInstance (network principal instanceId : String)
  | consumeChallenge (challengeId : String)
  | insertSession (sessionId : String) (row : SessionRow)
  | insertSessionPrincipal (sessionId principal : String) (expiresAt : Nat)
  | recordAudit (row : SessionAuditRow)

def nextInstance (instanceId : String) : Option InstanceRow → InstanceRow
  | none => ⟨instanceId, false⟩
  | some r => ⟨instanceId, r.historyUnavailable || r.tenantInstanceId ≠ instanceId⟩

def AuthStmt.run (now : Nat) (db : AuthDb) : AuthStmt → Except String AuthDb
  | registerPrincipalInstance n p i =>
    .ok { db with instances := db.instances.upsert (n, p) (nextInstance i) }
  | consumeChallenge id =>
    .ok { db with
      challenges := db.challenges.update (fun k _ => k = id) fun r =>
        { r with consumedAt := some now } }
  | insertSession id row =>
    if ∃ x ∈ db.sessions.rows, x.2.tokenHash = row.tokenHash then
      .error "duplicate key value violates unique constraint"
    else match db.sessions.insert? id row with
      | some t => .ok { db with sessions := t }
      | none => .error "duplicate key value violates unique constraint"
  | insertSessionPrincipal id p expires =>
    match db.sessionPrincipals.insert? (id, p) expires with
    | some t => .ok { db with sessionPrincipals := t }
    | none => .error "duplicate key value violates unique constraint"
  | recordAudit row => .ok { db with audit := row :: db.audit }

/-! ## Transactions -/

inductive RowKey where
  | challenge (id : String)
  | principalInstance (network principal : String)
  deriving DecidableEq

/-- An open transaction: the rows it has locked, and its statements with their times. -/
structure AuthTx where
  locks : List RowKey
  writes : List (Nat × AuthStmt)

def AuthTx.view (tx : AuthTx) (db : AuthDb) : Except String AuthDb :=
  tx.writes.foldlM (fun db w => w.2.run w.1 db) db

def AuthTx.push (tx : AuthTx) (w : Nat × AuthStmt) : AuthTx :=
  { tx with writes := tx.writes ++ [w] }

def AuthTx.lock (tx : AuthTx) (key : RowKey) : AuthTx := { tx with locks := key :: tx.locks }

structure AuthState where
  db : AuthDb
  txs : Table Nat AuthTx
  /-- How many UUIDs have been made. -/
  uuids : Nat

namespace AuthState

def LockedByOther (a : AuthState) (t : Nat) (key : RowKey) : Prop :=
  ∃ x ∈ a.txs.rows, x.1 ≠ t ∧ key ∈ x.2.locks

instance (a : AuthState) (t : Nat) (key : RowKey) : Decidable (a.LockedByOther t key) :=
  inferInstanceAs (Decidable (∃ x ∈ a.txs.rows, _))

def setTx (a : AuthState) (t : Nat) (tx : AuthTx) : AuthState :=
  { a with txs := a.txs.upsert t fun _ => tx }

def dropTx (a : AuthState) (t : Nat) : AuthState :=
  { a with txs := a.txs.delete fun t' _ => t' = t }

end AuthState

lemma get?_authSetTx (a : AuthState) (t t' : Nat) (tx : AuthTx) :
    (a.setTx t tx).txs.get? t' = if t' = t then some tx else a.txs.get? t' :=
  get?_upsert _ _ _ _

lemma get?_authDropTx (a : AuthState) (t t' : Nat) :
    (a.dropTx t).txs.get? t' = if t' = t then none else a.txs.get? t' := by
  show (a.txs.delete _).get? t' = _
  rw [get?_delete]
  by_cases ht : t' = t
  · simp [ht]
  · cases a.txs.get? t' <;> simp [ht]

/-! ## Commands and queries -/

inductive AuthCmd where
  /-- `pool.begin()`. -/
  | begin
  /-- A statement in the open transaction. -/
  | stmt (s : AuthStmt)
  | commit

inductive AuthQuery where
  /-- The unconsumed challenge, `FOR UPDATE`. -/
  | challengeForUpdate (id : String)
  /-- `register_principal_instance`, which returns `history_unavailable`. -/
  | registerPrincipalInstance (network principal instanceId : String)
  /-- `principal_is_admitted`, through the pool. -/
  | principalIsAdmitted (network principal : String)
  /-- `Utc::now()`. -/
  | clock
  /-- `Uuid::new_v4()`. -/
  | newUuid

abbrev AuthAns : AuthQuery → Type
  | .challengeForUpdate _ => Option ChallengeRow
  | .registerPrincipalInstance _ _ _ => Bool
  | .principalIsAdmitted _ _ => Bool
  | .clock => Nat
  | .newUuid => String

section

variable (t : Nat)

def authPerform (c : AuthCmd) (o : Outcome) (now : Nat) (a : AuthState) :
    Except String Unit × AuthState :=
  if o ≠ .ok then (.error "database error", a)
  else match c with
    | .begin => (.ok (), a.setTx t ⟨[], []⟩)
    | .stmt s =>
      match a.txs.get? t with
      | none => (.error "no open transaction", a)
      | some tx =>
        match (tx.push (now, s)).view a.db with
        | .ok _ => (.ok (), a.setTx t (tx.push (now, s)))
        | .error e => (.error e, a)
    | .commit =>
      match a.txs.get? t with
      | none => (.error "no open transaction", a)
      | some tx =>
        match tx.view a.db with
        | .ok db => (.ok (), { a.dropTx t with db := db })
        | .error e => (.error e, a)

def readChallenge (id : String) (a : AuthState) (tx : AuthTx) :
    Except String (Option ChallengeRow) × AuthState :=
  match tx.view a.db with
  | .error e => (.error e, a)
  | .ok db =>
    match (db.challenges.get? id).filter fun r => r.consumedAt = none with
    | none => (.ok none, a)
    | some row => (.ok (some row), a.setTx t (tx.lock (.challenge id)))

def registerInstance (n p i : String) (now : Nat) (a : AuthState) (tx : AuthTx) :
    Except String Bool × AuthState :=
  match tx.view a.db with
  | .error e => (.error e, a)
  | .ok db =>
    (.ok (nextInstance i (db.instances.get? (n, p))).historyUnavailable,
      a.setTx t ((tx.push (now, .registerPrincipalInstance n p i)).lock (.principalInstance n p)))

def authReply (w : World) (a : AuthState) :
    (q : AuthQuery) → Option (Except String (AuthAns q) × AuthState)
  | .challengeForUpdate id =>
    if a.LockedByOther t (.challenge id) then none
    else match a.txs.get? t with
      | none => some (.error "no open transaction", a)
      | some tx => some (readChallenge t id a tx)
  | .registerPrincipalInstance n p i =>
    if a.LockedByOther t (.principalInstance n p) then none
    else match a.txs.get? t with
      | none => some (.error "no open transaction", a)
      | some tx => some (registerInstance t n p i w.now a tx)
  | .principalIsAdmitted n p => some (.ok (Select.run w.now w.db (.principalIsAdmitted n p)), a)
  | .clock => some (.ok w.now, a)
  | .newUuid => some (.ok (toString a.uuids), { a with uuids := a.uuids + 1 })

def authAnswer (q : AuthQuery) (o : Outcome) (w : World) (a : AuthState) :
    Option (Except String (AuthAns q) × AuthState) :=
  if o = .ok then authReply t w a q else some (.error "database error", a)

end

/-! ## The program -/

abbrev Auth := Prog AuthCmd AuthQuery AuthAns

/-- `Duration::from_std`, in milliseconds. -/
def durationFromStd (ms : Nat) : Option Nat := if ms ≤ i64Max then some ms else none

/-- `history_status`, with the registration of the claim's instance. -/
def historyStatus (network : String) (claim : PrincipalClaim) : Auth HistoryStatus :=
  match claim.tenantInstanceId with
  | none => return .currentMailboxOnly
  | some instanceId => do
    let unavailable ← query (.registerPrincipalInstance network claim.principalId instanceId)
    return if unavailable then .historyUnavailable else .currentMailboxOnly

/-- The part of `prove_session` after the proof is verified: consume the challenge and store the
session. -/
def storeSession (sessionTtlMs : Nat) (network challengeId : String) (claim : PrincipalClaim)
    (policyVersion : Nat) (status : HistoryStatus) : Auth SessionResponse := do
  run (.stmt (.consumeChallenge challengeId))
  let sessionId ← query .newUuid
  let suffix ← query .newUuid
  let token := sessionId ++ "." ++ suffix
  let now ← query .clock
  let ttl ← ofOption "session TTL outside chrono range" (durationFromStd sessionTtlMs)
  let expires := now + ttl
  run (.stmt (.insertSession sessionId ⟨.text token, network, expires⟩))
  run (.stmt (.insertSessionPrincipal sessionId claim.principalId expires))
  run (.stmt (.recordAudit ⟨network, claim.principalId, policyVersion, status⟩))
  run .commit
  return ⟨token, network, claim.principalId, policyVersion, status, expires⟩

/-- The part of `prove_session` in its transaction. -/
def proveClaim (A : AuthCrates) (sessionTtlMs : Nat) (request : SessionProofRequest)
    (challengeId : String) (claim : PrincipalClaim) (proof : PrincipalProof) :
    Auth SessionResponse := do
  run .begin
  let row ← query (.challengeForUpdate challengeId)
  let row ← ofOption "unknown or consumed challenge" row
  let now ← query .clock
  bailIf (row.networkId ≠ request.networkId ∨ row.principals ≠ request.principals ∨
    row.expiresAt ≤ now) "challenge binding or expiry validation failed"
  bailIf (proof.principalId ≠ claim.principalId) "principal proof is not admitted"
  let admitted ← query (.principalIsAdmitted row.networkId claim.principalId)
  bailIf (admitted = false) "principal proof is not admitted"
  let message ← ofOption "invalid session proof message"
    (A.sessionProofMessage row.networkId request.principals ⟨challengeId, row.nonce, row.expiresAt⟩)
  bailIf (A.verifySignature claim.publicKeyHex message proof.signatureHex = false)
    "invalid signature"
  let status ← historyStatus row.networkId claim
  storeSession sessionTtlMs row.networkId challengeId claim request.deliveryPolicyVersion status

def proveSession (X : Wattswarm) (A : AuthCrates) (sessionTtlMs : Nat)
    (request : SessionProofRequest) : Auth SessionResponse :=
  match request.principals, request.proofs with
  | [claim], [proof] => do
    bailIf (request.deliveryPolicyVersion ≠ X.deliveryPolicyVersion)
      "delivery policy version mismatch"
    let challengeId ← ofOption "invalid challenge id" (A.parseUuid request.challengeId)
    proveClaim A sessionTtlMs request challengeId claim proof
  | _, _ => fail "Message Gateway V1 requires one complete principal proof"

end WattGateway.Message
