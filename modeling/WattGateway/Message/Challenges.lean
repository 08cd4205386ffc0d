import WattGateway.Lib.Rust
import WattGateway.Message.Auth

/-!
# Challenges

`create_challenge` and `cleanup_expired_metadata` beside the session proofs of `Auth`, on any
instances. The deletion of expired challenges waits for a row that a proof has locked. The log holds
the committed transactions of session proofs. The count that `cleanup_expired_metadata` returns is
left out, and its four other deletes are one statement without an effect here.
-/

namespace WattGateway.Message

open Prog

/-! ## Programs -/

structure ChallengeRequest where
  networkId : String
  principals : List PrincipalClaim
  deriving DecidableEq

inductive SessionCmd where
  /-- A command of a session proof. -/
  | auth (c : AuthCmd)
  | insertChallenge (id : String) (row : ChallengeRow)
  | deleteExpiredChallenges
  | deleteExpiredSessions
  /-- A statement on another table. -/
  | deleteElsewhere

inductive SessionQuery where
  | auth (q : AuthQuery)
  /-- 32 random bytes, in hex. -/
  | nonce

abbrev SessionAns : SessionQuery → Type
  | .auth q => AuthAns q
  | .nonce => String

abbrev SessionProg := Prog SessionCmd SessionQuery SessionAns

abbrev SessionHist := Hist SessionCmd SessionQuery SessionAns

def challengeTtlMs : Nat := 120000

def createChallenge (request : ChallengeRequest) : SessionProg ChallengeResponse :=
  match request.principals with
  | [claim] => do
    bailIf (claim.principalId ≠ claim.publicKeyHex)
      "principal id must match its Ed25519 public key"
    bailIf (claim.tenantInstanceId.any fun value => isBlank value || 128 < value.utf8ByteSize)
      "tenant instance id must be non-empty and at most 128 bytes"
    let admitted ← query (.auth (.principalIsAdmitted request.networkId claim.principalId))
    bailIf (admitted = false) "principal is not an active network member"
    let challengeId ← query (.auth .newUuid)
    let nonce ← query .nonce
    let now ← query (.auth .clock)
    let expiresAt := now + challengeTtlMs
    run (.insertChallenge challengeId ⟨request.networkId, request.principals, nonce, expiresAt, none⟩)
    return ⟨challengeId, nonce, expiresAt⟩
  | _ => fail "Message Gateway V1 accepts exactly one principal"

def cleanupExpiredMetadata (acknowledgedGapRetentionMs : Nat) : SessionProg Unit := do
  bailIf (i64Max < acknowledgedGapRetentionMs) "acknowledged gap retention is too large"
  run .deleteExpiredChallenges
  run .deleteExpiredSessions
  -- receipts, delivery owners, gaps, and the audit
  run .deleteElsewhere
  run .deleteElsewhere
  run .deleteElsewhere
  run .deleteElsewhere

inductive SessionCall where
  | createChallenge (request : ChallengeRequest)
  /-- On an instance with this `session_ttl`. -/
  | proveSession (sessionTtlMs : Nat) (request : SessionProofRequest)
  | cleanupExpiredMetadata (acknowledgedGapRetentionMs : Nat)

inductive SessionReply where
  | challenge (r : ChallengeResponse)
  | session (r : SessionResponse)
  | cleaned

def SessionCall.prog (X : Wattswarm) (A : AuthCrates) : SessionCall → SessionProg SessionReply
  | createChallenge request => do
    let r ← Message.createChallenge request
    return .challenge r
  | proveSession sessionTtlMs request => do
    let r ← (Message.proveSession X A sessionTtlMs request).lift .auth .auth fun _ a => a
    return .session r
  | cleanupExpiredMetadata retentionMs => do
    Message.cleanupExpiredMetadata retentionMs
    return .cleaned

/-! ## The machine -/

structure SessionWorld where
  gateway : World
  auth : AuthState
  /-- The random texts to come. -/
  nonces : Nat → String
  drawn : Nat
  /-- The committed transactions of session proofs with their calls, newest first. -/
  log : List (Nat × AuthTx)

namespace SessionWorld

section

variable (w : SessionWorld)

def setDb (db : AuthDb) : SessionWorld := { w with auth := { w.auth with db := db } }

def throughPool (o : Outcome) : Except String AuthDb → Except String Unit × SessionWorld
  | .error e => (.error e, w)
  | .ok db =>
    match o with
    | .ok => (.ok (), w.setDb db)
    | .lost => (.error "database error", w.setDb db)
    | _ => (.error "database error", w)

def committed (t : Nat) (tx : AuthTx) (db : AuthDb) : SessionWorld :=
  { w with auth := { w.auth.dropTx t with db := db }, log := (t, tx) :: w.log }

def commit (t : Nat) (o : Outcome) : Except String Unit × SessionWorld :=
  match w.auth.txs.get? t with
  | none => (.error "no open transaction", w)
  | some tx =>
    match tx.view w.auth.db with
    | .error e => (.error e, w)
    | .ok db =>
      match o with
      | .ok => (.ok (), w.committed t tx db)
      | .lost => (.error "commit failed", w.committed t tx db)
      | _ => (.error "commit failed", w)

/-- A session proof has locked a challenge that has expired. -/
def ExpiredLocked : Prop :=
  ∃ x ∈ w.auth.db.challenges.rows, x.2.expiresAt ≤ w.gateway.now ∧
    ∃ y ∈ w.auth.txs.rows, RowKey.challenge x.1 ∈ y.2.locks

end

instance (w : SessionWorld) : Decidable w.ExpiredLocked :=
  inferInstanceAs (Decidable (∃ x ∈ w.auth.db.challenges.rows, _))

end SessionWorld

/-- The challenges that have not expired. -/
def AuthDb.dropExpiredChallenges (db : AuthDb) (now : Nat) : AuthDb :=
  { db with challenges := db.challenges.delete fun _ row => row.expiresAt ≤ now }

/-- The sessions that have not expired, and their principals (`ON DELETE CASCADE`). -/
def AuthDb.dropExpiredSessions (db : AuthDb) (now : Nat) : AuthDb :=
  { db with
    sessions := db.sessions.delete fun _ row => row.expiresAt ≤ now
    sessionPrincipals := db.sessionPrincipals.delete fun key _ =>
      (db.sessions.get? key.1).any fun row => row.expiresAt ≤ now }

def sessionPerform (t : Nat) (c : SessionCmd) (o : Outcome) (w : SessionWorld) :
    Option (Except String Unit × SessionWorld) :=
  match c with
  | .auth .commit => some (w.commit t o)
  | .auth c =>
    let (r, auth) := authPerform t c o w.gateway.now w.auth
    some (r, { w with auth := auth })
  | .insertChallenge id row =>
    some (w.throughPool o (match w.auth.db.challenges.insert? id row with
      | some challenges => .ok { w.auth.db with challenges := challenges }
      | none => .error "duplicate key value violates unique constraint"))
  | .deleteExpiredChallenges =>
    if w.ExpiredLocked then none
    else some (w.throughPool o (.ok (w.auth.db.dropExpiredChallenges w.gateway.now)))
  | .deleteExpiredSessions =>
    some (w.throughPool o (.ok (w.auth.db.dropExpiredSessions w.gateway.now)))
  | .deleteElsewhere => some (w.throughPool o (.ok w.auth.db))

def sessionAnswer (t : Nat) (q : SessionQuery) (o : Outcome) (w : SessionWorld) :
    Option (Except String (SessionAns q) × SessionWorld) :=
  match q with
  | .auth q => (authAnswer t q o w.gateway w.auth).map fun x => (x.1, { w with auth := x.2 })
  | .nonce => some (.ok (w.nonces w.drawn), { w with drawn := w.drawn + 1 })

/-- What happens besides the calls: time passes, and other calls change the tables of networks and
their members. -/
inductive SessionEnv where
  | tick (ms : Nat)
  | gatewayDb (db : Db)

def SessionEnv.run : SessionEnv → SessionWorld → SessionWorld
  | .tick ms, w => { w with gateway := { w.gateway with now := w.gateway.now + ms } }
  | .gatewayDb db, w => { w with gateway := { w.gateway with db := db } }

def sessions : Machine SessionCmd SessionQuery SessionAns SessionWorld SessionEnv where
  clock w := w.gateway.now
  perform := sessionPerform
  answer := sessionAnswer
  finish t w := { w with auth := w.auth.dropTx t }
  env := SessionEnv.run

abbrev SessionState := Sys SessionCmd SessionQuery SessionAns SessionWorld SessionReply

def AuthDb.empty : AuthDb := ⟨.empty, .empty, .empty, .empty, []⟩

def sessionInitial (X : Wattswarm) (A : AuthCrates) (calls : Nat → SessionCall) (gateway : World)
    (nonces : Nat → String) : SessionState :=
  Sys.start ⟨gateway, ⟨.empty, .empty, 0⟩, nonces, 0, []⟩ fun t => (calls t).prog X A

end WattGateway.Message
