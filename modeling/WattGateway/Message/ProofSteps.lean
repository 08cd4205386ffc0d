import WattGateway.Lib.Progress
import WattGateway.Message.Challenges

/-!
# The steps of session proofs

What a session proof has asked and checked before each of its statements, and what one step of a run
of `sessions` can do: at each command and each query, the worlds that can follow.
-/

namespace WattGateway.Message

open Prog List Sys

variable {w w' : SessionWorld} {r : Except String Unit} {t : Nat}

/-! ## What a call does -/

def proofTx : SessionHist → Option AuthTx
  | [] => none
  | (_, .did (.auth .begin)) :: _ => some ⟨[], []⟩
  | (τ, .did (.auth (.stmt s))) :: h => (proofTx h).map fun tx => tx.push (τ, s)
  | (_, .did (.auth .commit)) :: _ => none
  | (_, .heard (.auth (.challengeForUpdate id)) (some _)) :: h =>
    (proofTx h).map fun tx => tx.lock (.challenge id)
  | (τ, .heard (.auth (.registerPrincipalInstance n p i)) _) :: h =>
    (proofTx h).map fun tx =>
      (tx.push (τ, .registerPrincipalInstance n p i)).lock (.principalInstance n p)
  | _ :: h => proofTx h

def AuthTx.stmts (tx : AuthTx) : List AuthStmt := tx.writes.map Prod.snd

/-- A session with the challenge it was proved on. -/
structure Grant where
  challengeId : String
  challenge : ChallengeRow
  claim : PrincipalClaim
  sessionId : String
  session : SessionRow

/-- What a session proof has checked before it writes. -/
structure Checked (A : AuthCrates) (request : SessionProofRequest) (h : SessionHist) (id : String)
    (row : ChallengeRow) (claim : PrincipalClaim) : Prop where
  parsed : A.parseUuid request.challengeId = some id
  claims : request.principals = [claim]
  named : row.principals = [claim]
  network : row.networkId = request.networkId
  challenge : h.Heard (.auth (.challengeForUpdate id)) (some row)
  admitted : h.Heard (.auth (.principalIsAdmitted row.networkId claim.principalId)) true
  signed : ∃ proof message, request.proofs = [proof] ∧
    A.sessionProofMessage row.networkId row.principals ⟨id, row.nonce, row.expiresAt⟩ = some message ∧
    A.verifySignature claim.publicKeyHex message proof.signatureHex = true

/-- The statements that store a session, after those that register an instance. -/
def Grant.Stored (g : Grant) (stmts : List AuthStmt) : Prop :=
  ∃ audit, stmts = [.consumeChallenge g.challengeId, .insertSession g.sessionId g.session,
    .insertSessionPrincipal g.sessionId g.claim.principalId g.session.expiresAt, .recordAudit audit]

def Registers (stmts : List AuthStmt) : Prop :=
  ∀ s ∈ stmts, ∃ n p i, s = .registerPrincipalInstance n p i

structure Grants (g : Grant) (tx : AuthTx) : Prop where
  locked : .challenge g.challengeId ∈ tx.locks
  stmts : ∃ before after, tx.stmts = before ++ after ∧ Registers before ∧ g.Stored after

def AuthTx.consumed (tx : AuthTx) : List String :=
  tx.stmts.filterMap fun
    | .consumeChallenge id => some id
    | _ => none

def AuthTx.stored (tx : AuthTx) : List (String × SessionRow) :=
  tx.stmts.filterMap fun
    | .insertSession id row => some (id, row)
    | _ => none

def AuthTx.owners (tx : AuthTx) : List (String × String) :=
  tx.stmts.filterMap fun
    | .insertSessionPrincipal id principal _ => some (id, principal)
    | _ => none

section Grants

variable {g : Grant} {tx : AuthTx}

lemma Registers.filterMap {stmts : List AuthStmt} (h : Registers stmts) {β : Type}
    {f : AuthStmt → Option β} (hf : ∀ n p i, f (.registerPrincipalInstance n p i) = none) :
    stmts.filterMap f = [] := by
  rw [filterMap_eq_nil_iff]
  intro s hs
  obtain ⟨n, p, i, rfl⟩ := h s hs
  exact hf n p i

lemma Grants.consumed (h : Grants g tx) : tx.consumed = [g.challengeId] := by
  obtain ⟨_, _, heq, hr, _, rfl⟩ := h.stmts
  rw [AuthTx.consumed, heq, filterMap_append, hr.filterMap fun _ _ _ => rfl]
  rfl

lemma Grants.stored (h : Grants g tx) : tx.stored = [(g.sessionId, g.session)] := by
  obtain ⟨_, _, heq, hr, _, rfl⟩ := h.stmts
  rw [AuthTx.stored, heq, filterMap_append, hr.filterMap fun _ _ _ => rfl]
  rfl

lemma Grants.owners (h : Grants g tx) : tx.owners = [(g.sessionId, g.claim.principalId)] := by
  obtain ⟨_, _, heq, hr, _, rfl⟩ := h.stmts
  rw [AuthTx.owners, heq, filterMap_append, hr.filterMap fun _ _ _ => rfl]
  rfl

lemma view_registers {writes : List (Nat × AuthStmt)} (h : Registers (writes.map Prod.snd))
    {db db' : AuthDb} (hv : writes.foldlM (fun db w => w.2.run w.1 db) db = .ok db') :
    db'.challenges = db.challenges ∧ db'.sessions = db.sessions ∧
      db'.sessionPrincipals = db.sessionPrincipals := by
  induction writes generalizing db with
  | nil =>
    cases hv
    exact ⟨rfl, rfl, rfl⟩
  | cons x writes ih =>
    obtain ⟨_, s⟩ := x
    obtain ⟨n, p, i, rfl⟩ := h s (by simp)
    have hr : Registers (writes.map Prod.snd) := fun s hs => h s (mem_cons_of_mem _ hs)
    have hne : writes.foldlM (fun db w => w.2.run w.1 db)
        { db with instances := db.instances.upsert (n, p) (nextInstance i) } = .ok db' := hv
    have hk := ih hr hne
    exact hk

lemma Grants.view (h : Grants g tx) {db db' : AuthDb} (hv : tx.view db = .ok db') :
    (∃ τ, db'.challenges = db.challenges.update (fun k _ => k = g.challengeId) fun r =>
        { r with consumedAt := some τ }) ∧
      db.sessions.insert? g.sessionId g.session = some db'.sessions ∧
      db.sessionPrincipals.insert? (g.sessionId, g.claim.principalId) g.session.expiresAt =
        some db'.sessionPrincipals := by
  obtain ⟨_, _, heq, hr, _, rfl⟩ := h.stmts
  obtain ⟨_, _, hw, rfl, ha⟩ := map_eq_append_iff.1 heq
  obtain ⟨⟨τ₁, _⟩, _, rfl, rfl, h₁⟩ := map_eq_cons_iff.1 ha
  obtain ⟨⟨_, _⟩, _, rfl, rfl, h₂⟩ := map_eq_cons_iff.1 h₁
  obtain ⟨⟨_, _⟩, _, rfl, rfl, h₃⟩ := map_eq_cons_iff.1 h₂
  obtain ⟨⟨_, _⟩, _, rfl, rfl, h₄⟩ := map_eq_cons_iff.1 h₃
  cases map_eq_nil_iff.1 h₄
  rw [AuthTx.view, hw, foldlM_append] at hv
  obtain ⟨_, hv₁, hv₂⟩ := bind_eq_ok.1 hv
  obtain ⟨hh, hs, hp⟩ := view_registers hr hv₁
  simp only [foldlM_cons, foldlM_nil] at hv₂
  obtain ⟨_, hu₂, hv₃⟩ := bind_eq_ok.1 hv₂
  obtain ⟨_, hu₃, hv₄⟩ := bind_eq_ok.1 hv₃
  obtain ⟨_, hu₄, hv₅⟩ := bind_eq_ok.1 hv₄
  obtain ⟨_, hu₅, hd⟩ := bind_eq_ok.1 hv₅
  cases hd
  cases hu₂
  cases hu₅
  simp only [AuthStmt.run] at hu₃ hu₄
  split at hu₃
  · cases hu₃
  · split at hu₃ <;> cases hu₃
    rename_i sessions he
    split at hu₄ <;> cases hu₄
    rename_i principals hpr
    rw [← hh, ← hs, ← hp]
    exact ⟨⟨τ₁, rfl⟩, he, hpr⟩

end Grants

/-- What a session proof may issue; nothing after its commit. -/
def proofRule (A : AuthCrates) (request : SessionProofRequest) :
    Rule SessionCmd SessionQuery SessionAns where
  onCmd h c := ¬ h.Did (.auth .commit) ∧
    match c with
    | .auth .begin => ∀ id x, ¬ h.Heard (.auth (.challengeForUpdate id)) x
    | .auth (.stmt _) => True
    | .auth .commit =>
      ∃ g tx, proofTx h = some tx ∧ Grants g tx ∧
        Checked A request h g.challengeId g.challenge g.claim ∧
        h.Heard (.auth .newUuid) g.sessionId ∧ g.session.networkId = g.challenge.networkId
    | _ => False
  onAsk h q := ¬ h.Did (.auth .commit) ∧
    match q with
    | .auth (.challengeForUpdate id) =>
      A.parseUuid request.challengeId = some id ∧
        (∀ x, ¬ h.Heard (.auth (.challengeForUpdate id)) x) ∧ proofTx h = some ⟨[], []⟩
    | .auth .clock => ∃ id row, A.parseUuid request.challengeId = some id ∧
        h.Heard (.auth (.challengeForUpdate id)) (some row)
    | .auth (.principalIsAdmitted n _) =>
      ∃ id row now, A.parseUuid request.challengeId = some id ∧
        h.Heard (.auth (.challengeForUpdate id)) (some row) ∧ h.Heard (.auth .clock) now ∧
        now < row.expiresAt ∧ row.networkId = n
    | _ => True

def sessionRule (A : AuthCrates) : SessionCall → Rule SessionCmd SessionQuery SessionAns
  | .proveSession _ request => proofRule A request
  | .createChallenge _ =>
    { onCmd := fun h c =>
        match c with
        | .insertChallenge id row =>
          h.Heard (.auth .newUuid) id ∧ row.consumedAt = none ∧
            (∃ claim, row.principals = [claim] ∧ claim.principalId = claim.publicKeyHex) ∧
            ∀ id' row', ¬ h.Did (.insertChallenge id' row')
        | _ => False
      onAsk := fun _ q => q = .nonce ∨ q = .auth .newUuid ∨ q = .auth .clock ∨
        ∃ n p, q = .auth (.principalIsAdmitted n p) }
  | .cleanupExpiredMetadata _ =>
    { onCmd := fun _ c => c = .deleteExpiredChallenges ∨ c = .deleteExpiredSessions ∨
        c = .deleteElsewhere
      onAsk := fun _ _ => False }

section Follows

variable {A : AuthCrates} {call : SessionCall} {h : SessionHist} {request : SessionProofRequest}
  {ttl : Nat}

lemma createChallenge_follows (request : ChallengeRequest) :
    (createChallenge request).Follows (sessionRule A (.createChallenge request)) (fun _ _ => True)
      [] := by
  unfold createChallenge
  split
  · rename_i claim hl
    refine .bind (follows_bailIf fun hk => ?_)
    refine .bind (follows_bailIf fun _ => ?_)
    refine .bind (follows_query (by simp [sessionRule]) fun τ₁ admitted => ?_)
    refine .bind (follows_bailIf fun _ => ?_)
    refine .bind (follows_query (by simp [sessionRule]) fun τ₂ id => ?_)
    refine .bind (follows_query (by simp [sessionRule]) fun τ₃ nonce => ?_)
    refine .bind (follows_query (by simp [sessionRule]) fun τ₄ now => ?_)
    refine .bind (follows_run ⟨?_, rfl, ⟨claim, hl, not_not.1 hk⟩, by simp⟩ fun τ₅ => trivial)
    exact ((Hist.heard_self _ _ _ _).cons _).cons _
  · trivial

lemma cleanupExpiredMetadata_follows (retentionMs : Nat) :
    (cleanupExpiredMetadata retentionMs).Follows
      (sessionRule A (.cleanupExpiredMetadata retentionMs)) (fun _ _ => True) h := by
  unfold cleanupExpiredMetadata
  refine .bind (follows_bailIf fun _ => ?_)
  refine .bind (follows_run (by simp [sessionRule]) fun _ => ?_)
  refine .bind (follows_run (by simp [sessionRule]) fun _ => ?_)
  refine .bind (follows_run (by simp [sessionRule]) fun _ => ?_)
  refine .bind (follows_run (by simp [sessionRule]) fun _ => ?_)
  refine .bind (follows_run (by simp [sessionRule]) fun _ => ?_)
  exact follows_run (by simp [sessionRule]) fun _ => trivial

variable {claim : PrincipalClaim} {row : ChallengeRow} {id : String}

section

variable (hc : Checked A request h id row claim)
include hc

lemma Checked.mono {h' : SessionHist} (hs : h <:+ h') : Checked A request h' id row claim :=
  { hc with challenge := hc.challenge.mono hs, admitted := hc.admitted.mono hs }

lemma storeSession_follows {tx : AuthTx}
    (ht : proofTx h = some tx) (hl : .challenge id ∈ tx.locks) (hr : Registers tx.stmts)
    (ho : ¬ h.Did (.auth .commit)) (version : Nat) (status : HistoryStatus) :
    ((storeSession ttl row.networkId id claim version status).lift SessionCmd.auth SessionQuery.auth
      fun _ a => a).Follows (sessionRule A (.proveSession ttl request)) (fun _ _ => True) h := by
  unfold storeSession
  simp only [lift_bind, lift_ofOption]
  refine .bind (follows_lift_run ⟨ho, trivial⟩ fun τ₁ => ?_)
  refine .bind (follows_lift_query ⟨by simpa using ho, trivial⟩ fun τ₂ sessionId => ?_)
  refine .bind (follows_lift_query ⟨by simpa using ho, trivial⟩ fun τ₃ suffix => ?_)
  refine .bind (follows_lift_query ⟨by simpa using ho, id, row, hc.parsed, ?_⟩
    fun τ₄ now => ?_)
  · exact hc.challenge.mono ⟨[_, _, _], rfl⟩
  refine .bind (follows_ofOption fun sessionTtl _ => ?_)
  refine .bind (follows_lift_run ⟨by simpa using ho, trivial⟩ fun τ₅ => ?_)
  refine .bind (follows_lift_run ⟨by simpa using ho, trivial⟩ fun τ₆ => ?_)
  refine .bind (follows_lift_run ⟨by simpa using ho, trivial⟩ fun τ₇ => ?_)
  refine .bind (follows_lift_run ⟨by simpa using ho, ?_⟩ fun τ₈ => trivial)
  let session : SessionRow := ⟨.text (sessionId ++ "." ++ suffix), row.networkId, now + sessionTtl⟩
  let writes : List (Nat × AuthStmt) := [(τ₁, .consumeChallenge id), (τ₅, .insertSession sessionId session),
    (τ₆, .insertSessionPrincipal sessionId claim.principalId session.expiresAt),
    (τ₇, .recordAudit ⟨row.networkId, claim.principalId, version, status⟩)]
  refine ⟨⟨id, row, claim, sessionId, session⟩, { tx with writes := tx.writes ++ writes }, ?_,
    ⟨hl, tx.stmts, writes.map Prod.snd, by simp [AuthTx.stmts], hr, ⟨_, rfl⟩⟩, hc.mono ?_, ?_, rfl⟩
  · simp [proofTx, ht, AuthTx.push, writes, session]
  · exact ⟨[_, _, _, _, _, _, _], rfl⟩
  · exact ⟨τ₂, by simp⟩

/-- The rest of a session proof, with its instance registered or not. -/
lemma historyStatus_follows
    (ht : proofTx h = some ⟨[.challenge id], []⟩) (ho : ¬ h.Did (.auth .commit)) (version : Nat) :
    (((historyStatus row.networkId claim).lift SessionCmd.auth SessionQuery.auth fun _ a => a) >>=
      fun status => (storeSession ttl row.networkId id claim version status).lift SessionCmd.auth
        SessionQuery.auth fun _ a => a).Follows (sessionRule A (.proveSession ttl request))
      (fun _ _ => True) h := by
  unfold historyStatus
  split
  · exact storeSession_follows hc ht mem_cons_self (by simp [Registers, AuthTx.stmts]) ho
      _ _
  · rename_i instanceId _
    simp only [lift_bind]
    refine .bind (.bind (follows_lift_query ⟨ho, trivial⟩ fun τ unavailable => ?_))
    have ht' : proofTx ((τ, .heard (.auth (.registerPrincipalInstance row.networkId
        claim.principalId instanceId)) unavailable) :: h) =
          some ⟨[.principalInstance row.networkId claim.principalId, .challenge id],
            [(τ, .registerPrincipalInstance row.networkId claim.principalId instanceId)]⟩ := by
      simp [proofTx, ht, AuthTx.push, AuthTx.lock]
    refine storeSession_follows (hc.mono (suffix_cons _ _)) ht' (by simp) ?_ ?_ _ _
    · simp [Registers, AuthTx.stmts]
    · simpa using ho

end

lemma proveClaim_follows (ttl : Nat) (request : SessionProofRequest) {proof : PrincipalProof}
    (hi : A.parseUuid request.challengeId = some id) (hl : request.principals = [claim])
    (hp : request.proofs = [proof]) :
    ((proveClaim A ttl request id claim proof).lift SessionCmd.auth SessionQuery.auth
      fun _ a => a).Follows (sessionRule A (.proveSession ttl request)) (fun _ _ => True) [] := by
  unfold proveClaim
  simp only [lift_bind, lift_ofOption, lift_bailIf]
  refine .bind (follows_lift_run ⟨by simp, by simp⟩ fun τ₁ => ?_)
  refine .bind (follows_lift_query ⟨by simp, hi, by simp, rfl⟩ fun τ₂ found => ?_)
  refine .bind (follows_ofOption fun row hr => ?_)
  subst hr
  refine .bind (follows_lift_query ⟨by simp, id, row, hi, ⟨τ₂, by simp⟩⟩ fun τ₃ now => ?_)
  refine .bind (follows_bailIf fun hb => ?_)
  refine .bind (follows_bailIf fun _ => ?_)
  rw [not_or, not_or, not_not, not_not, Nat.not_le] at hb
  obtain ⟨hn, hna, ht⟩ := hb
  refine .bind (follows_lift_query
    ⟨by simp, id, row, now, hi, ⟨τ₂, by simp⟩, ⟨τ₃, by simp⟩, ht, rfl⟩ fun τ₄ admitted => ?_)
  refine .bind (follows_bailIf fun ha => ?_)
  refine .bind (follows_ofOption fun message hm => ?_)
  refine .bind (follows_bailIf fun hs => ?_)
  rw [Bool.not_eq_false] at ha hs
  rw [← hna] at hm
  cases ha
  refine historyStatus_follows ?_ rfl (by simp) request.deliveryPolicyVersion
  exact
    { parsed := hi, claims := hl, named := hna.trans hl, network := hn
      challenge := ⟨τ₂, by simp⟩, admitted := ⟨τ₄, mem_cons_self⟩
      signed := ⟨proof, message, hp, hm, hs⟩ }

lemma proveSession_follows (X : Wattswarm) (ttl : Nat) (request : SessionProofRequest) :
    ((proveSession X A ttl request).lift SessionCmd.auth SessionQuery.auth fun _ a => a).Follows
      (sessionRule A (.proveSession ttl request)) (fun _ _ => True) [] := by
  unfold proveSession
  split
  · rename_i claim proof hl hp
    simp only [lift_bind, lift_ofOption, lift_bailIf]
    refine .bind (follows_bailIf fun _ => ?_)
    refine .bind (follows_ofOption fun id hi => ?_)
    exact proveClaim_follows ttl request hi hl hp
  · trivial

lemma sessionCall_follows (X : Wattswarm) (call : SessionCall) :
    (call.prog X A).Follows (sessionRule A call) (fun _ _ => True) [] := by
  cases call with
  | createChallenge request => exact .bind (createChallenge_follows request)
  | proveSession ttl request => exact .bind (proveSession_follows X ttl request)
  | cleanupExpiredMetadata retentionMs => exact .bind (cleanupExpiredMetadata_follows retentionMs)

end Follows

/-! ## What a step can do -/

inductive Performed (t : Nat) (o : Outcome) (w : SessionWorld) :
    SessionCmd → Except String Unit → SessionWorld → Prop
  | failed (c : SessionCmd) (e : String) : Performed t o w c (.error e) w
  | begun : Performed t o w (.auth .begin) (.ok ()) { w with auth := w.auth.setTx t ⟨[], []⟩ }
  | wrote (s : AuthStmt) (tx : AuthTx) (htx : w.auth.txs.get? t = some tx) :
      Performed t o w (.auth (.stmt s)) (.ok ())
        { w with auth := w.auth.setTx t (tx.push (w.gateway.now, s)) }
  | committed (r : Except String Unit) (tx : AuthTx) (db : AuthDb)
      (htx : w.auth.txs.get? t = some tx) (hview : tx.view w.auth.db = .ok db)
      (ho : r = .ok () ∨ o = .lost) : Performed t o w (.auth .commit) r (w.committed t tx db)
  | inserted (r : Except String Unit) (id : String) (row : ChallengeRow)
      (challenges : Table String ChallengeRow)
      (hinsert : w.auth.db.challenges.insert? id row = some challenges) :
      Performed t o w (.insertChallenge id row) r
        (w.setDb { w.auth.db with challenges := challenges })
  | expiredChallenges (r : Except String Unit) (hfree : ¬ w.ExpiredLocked) :
      Performed t o w .deleteExpiredChallenges r
        (w.setDb (w.auth.db.dropExpiredChallenges w.gateway.now))
  | expiredSessions (r : Except String Unit) :
      Performed t o w .deleteExpiredSessions r
        (w.setDb (w.auth.db.dropExpiredSessions w.gateway.now))
  | elsewhere (r : Except String Unit) : Performed t o w .deleteElsewhere r w

section Performs

variable {o : Outcome}

lemma throughPool_cases (w : SessionWorld) (o : Outcome) (x : Except String AuthDb) :
    (∃ e, w.throughPool o x = (.error e, w)) ∨
      ∃ db r, x = .ok db ∧ w.throughPool o x = (r, w.setDb db) := by
  cases x with
  | error e => exact .inl ⟨e, rfl⟩
  | ok => cases o <;> simp [SessionWorld.throughPool]

lemma performed_throughPool {c : SessionCmd} {db : AuthDb}
    (hx : w.throughPool o (.ok db) = (r, w')) (hok : ∀ r, Performed t o w c r (w.setDb db)) :
    Performed t o w c r w' := by
  rcases throughPool_cases w o (.ok db) with ⟨e, he⟩ | ⟨db', r', hd, he⟩
  · rw [he] at hx
    cases hx
    exact .failed _ _
  · rw [he] at hx
    cases hd
    cases hx
    exact hok _

lemma performed {c : SessionCmd}
    (hx : sessionPerform t c o w = some (r, w')) : Performed t o w c r w' := by
  cases c with
  | auth c =>
    cases c with
    | begin =>
      by_cases ho : o = .ok
      · simp [sessionPerform, authPerform, ho] at hx
        obtain ⟨rfl, rfl⟩ := hx
        exact .begun
      · simp [sessionPerform, authPerform, ho] at hx
        obtain ⟨rfl, rfl⟩ := hx
        exact .failed _ _
    | stmt s =>
      by_cases ho : o = .ok
      · simp only [sessionPerform, authPerform, ho, ne_eq, not_true_eq_false, if_false] at hx
        cases ht : w.auth.txs.get? t with
        | none =>
          simp [ht] at hx
          obtain ⟨rfl, rfl⟩ := hx
          exact .failed _ _
        | some tx =>
          simp only [ht] at hx
          split at hx <;> cases hx
          · exact .wrote s tx ht
          · exact .failed _ _
      · simp [sessionPerform, authPerform, ho] at hx
        obtain ⟨rfl, rfl⟩ := hx
        exact .failed _ _
    | commit =>
      simp only [sessionPerform, SessionWorld.commit, Option.some.injEq] at hx
      split at hx
      · cases hx
        exact .failed _ _
      · rename_i tx ht
        split at hx
        · cases hx
          exact .failed _ _
        · rename_i db hv
          cases o <;> cases hx
          · exact .committed _ tx db ht hv (.inl rfl)
          · exact .failed _ _
          · exact .failed _ _
          · exact .committed _ tx db ht hv (.inr rfl)
  | insertChallenge id row =>
    simp only [sessionPerform, Option.some.injEq] at hx
    cases hi : w.auth.db.challenges.insert? id row with
    | none =>
      simp only [hi, SessionWorld.throughPool] at hx
      cases hx
      exact .failed _ _
    | some challenges =>
      simp only [hi] at hx
      exact performed_throughPool hx fun _ => .inserted _ id row challenges hi
  | deleteExpiredChallenges =>
    simp only [sessionPerform] at hx
    split at hx
    · cases hx
    · rename_i hf
      exact performed_throughPool (Option.some.inj hx) fun _ => .expiredChallenges _ hf
  | deleteExpiredSessions =>
    exact performed_throughPool (Option.some.inj hx) fun _ => .expiredSessions _
  | deleteElsewhere => exact performed_throughPool (Option.some.inj hx) fun _ => .elsewhere _

end Performs

inductive Answered (t : Nat) (w : SessionWorld) :
    (q : SessionQuery) → Except String (SessionAns q) → SessionWorld → Prop
  | failed (q : SessionQuery) (e : String) : Answered t w q (.error e) w
  | locked (id : String) (row : ChallengeRow) (tx : AuthTx) (db : AuthDb)
      (hfree : ¬ w.auth.LockedByOther t (.challenge id)) (htx : w.auth.txs.get? t = some tx)
      (hview : tx.view w.auth.db = .ok db) (hget : db.challenges.get? id = some row)
      (hrow : row.consumedAt = none) :
      Answered t w (.auth (.challengeForUpdate id)) (.ok (some row))
        { w with auth := w.auth.setTx t (tx.lock (.challenge id)) }
  | unknown (id : String) : Answered t w (.auth (.challengeForUpdate id)) (.ok none) w
  | registered (n p i : String) (b : Bool) (tx : AuthTx) (htx : w.auth.txs.get? t = some tx) :
      Answered t w (.auth (.registerPrincipalInstance n p i)) (.ok b)
        { w with auth := w.auth.setTx t ((tx.push
          (w.gateway.now, .registerPrincipalInstance n p i)).lock (.principalInstance n p)) }
  | admitted (n p : String) : Answered t w (.auth (.principalIsAdmitted n p))
      (.ok (Select.run w.gateway.now w.gateway.db (.principalIsAdmitted n p))) w
  | clock : Answered t w (.auth .clock) (.ok w.gateway.now) w
  | uuid : Answered t w (.auth .newUuid) (.ok (toString w.auth.uuids))
      { w with auth := { w.auth with uuids := w.auth.uuids + 1 } }
  | nonce : Answered t w .nonce (.ok (w.nonces w.drawn)) { w with drawn := w.drawn + 1 }

lemma answered {o : Outcome} {q : SessionQuery}
    {r : Except String (SessionAns q)} (hx : sessionAnswer t q o w = some (r, w')) :
    Answered t w q r w' := by
  cases q with
  | nonce =>
    cases hx
    exact .nonce
  | auth q =>
    simp only [sessionAnswer, authAnswer] at hx
    split at hx
    · cases q with
      | challengeForUpdate id =>
        simp only [authReply] at hx
        split at hx
        · cases hx
        · rename_i hf
          split at hx
          · cases hx
            exact .failed _ _
          · rename_i tx ht
            unfold readChallenge at hx
            split at hx
            · cases hx
              exact .failed _ _
            · rename_i db hv
              split at hx
              · cases hx
                exact .unknown id
              · rename_i row hr
                cases hx
                obtain ⟨hg, ho⟩ := Option.filter_eq_some_iff.1 hr
                exact .locked id row tx db hf ht hv hg (by simpa using ho)
      | registerPrincipalInstance n p i =>
        simp only [authReply] at hx
        split at hx
        · cases hx
        · split at hx
          · cases hx
            exact .failed _ _
          · rename_i tx ht
            unfold registerInstance at hx
            split at hx
            · cases hx
              exact .failed _ _
            · cases hx
              exact .registered n p i _ tx ht
      | principalIsAdmitted n p =>
        cases hx
        exact .admitted n p
      | clock =>
        cases hx
        exact .clock
      | newUuid =>
        cases hx
        exact .uuid
    · cases hx
      exact .failed _ _

lemma Answered.admits {n p : String} {r : Except String Bool}
    {b : Bool} (hx : Answered t w (.auth (.principalIsAdmitted n p)) r w') (hr : r = .ok b) :
    Select.run w.gateway.now w.gateway.db (.principalIsAdmitted n p) = b := by
  cases hx with
  | failed => cases hr
  | admitted => exact Except.ok.inj hr

/-! ## What a step does to a run -/

section Steps

variable {s : SessionState} {a : Action SessionEnv} {t t' : Nat}

lemma session_step_cases (s : SessionState) (a : Action SessionEnv) : s.step sessions a = s ∨
    (∃ e : SessionEnv, s.step sessions a = { s with world := e.run s.world }) ∨
    (∃ t o c k r w, a = .run t o ∧ (s.threads t).prog = .cmd c k ∧ Performed t o s.world c r w ∧
      s.step sessions a = (s.afterCmd sessions t c k r w).settle sessions t) ∨
    (∃ t o q k r w, a = .run t o ∧ (s.threads t).prog = .ask q k ∧ Answered t s.world q r w ∧
      s.step sessions a = (s.afterAsk sessions t q k r w).settle sessions t) := by
  rcases step_results sessions s a with hs | ⟨e, -, hs⟩ | ⟨t, o, c, k, r, w, ha, hp, hx, hs⟩ |
    ⟨t, o, q, k, r, w, ha, hp, hx, hs⟩
  · exact .inl hs
  · exact .inr (.inl ⟨e, hs⟩)
  · exact .inr (.inr (.inl ⟨t, o, c, k, r, w, ha, hp, performed hx, hs⟩))
  · exact .inr (.inr (.inr ⟨t, o, q, k, r, w, ha, hp, answered hx, hs⟩))

lemma settle_session (s : SessionState) (t : Nat) :
    (s.settle sessions t).world.auth.db = s.world.auth.db ∧
    (s.settle sessions t).world.log = s.world.log ∧
    (s.settle sessions t).world.auth.uuids = s.world.auth.uuids ∧
    (s.settle sessions t).world.gateway = s.world.gateway ∧
    ∀ t', (s.settle sessions t).world.auth.txs.get? t' =
      if t' = t ∧ (s.threads t).prog.isDone then none else s.world.auth.txs.get? t' := by
  cases hd : (s.threads t).prog.isDone with
  | false =>
    rw [settle_of_not_done hd]
    simp
  | true =>
    rw [settle_of_done hd]
    refine ⟨rfl, rfl, rfl, rfl, fun t' => ?_⟩
    show (s.world.auth.dropTx t).txs.get? t' = _
    simpa using get?_authDropTx s.world.auth t t'

end Steps

end WattGateway.Message
