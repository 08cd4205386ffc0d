import WattGateway.Message.ProofRuns
import WattGateway.Message.Publish

/-!
# One challenge, one session

Every stored session was proved on a challenge of its own by the principal that the challenge names,
before it expired; and a proof that does not reach its commit changes no table.
-/

namespace WattGateway.Message

open Prog Hist List Option Sample Sys

/-! ## Runs -/

section Runs

variable {X : Wattswarm} {A : AuthCrates} {calls : Nat → SessionCall} {gateway : World}
  {nonces : Nat → String} {s : SessionState}

/-- Reached from no challenges by any interleaving of the calls. -/
abbrev SessionReach (X : Wattswarm) (A : AuthCrates) (calls : Nat → SessionCall) (gateway : World)
    (nonces : Nat → String) : SessionState → Prop :=
  Reaches sessions anyStep (sessionInitial X A calls gateway nonces)

section

variable (h : SessionReach X A calls gateway nonces s)
include h

lemma follows_run_sessions : FollowsSessions A calls s :=
  h.follows fun t => sessionCall_follows X (calls t)

lemma readsOnce_run : ReadsOnce s := by
  intro t _ _ _ hx hy
  refine h.heard_unique (fun t => sessionCall_follows (A := A) X (calls t)) (fun _ => rfl) ?_ hx hy
  exact fun hist ha => (lock_of_rule ha).2

lemma txsInv_run : TxsInv s :=
  h.invariant (fun t => by simp [sessionInitial, proofTx]) fun _ a _ _ hi => hi.step a

lemma locksInv_run : LocksInv s :=
  h.invariant (fun t t' tx tx' id ht => by cases ht) fun _ a _ _ hi => hi.step a

lemma uuidsInv_run : UuidsInv s :=
  h.invariant ⟨fun t id hd => by simp [sessionInitial] at hd, fun t t' id hd => by
    simp [sessionInitial] at hd⟩ fun _ a _ _ hi => hi.step a

lemma useInv_run : UseInv A calls s := by
  refine h.invariant ?_ fun s a hr _ hi => hi.step (follows_run_sessions hr) (txsInv_run hr)
    (locksInv_run hr) (uuidsInv_run hr) (readsOnce_run hr) a
  constructor <;> simp [sessionInitial, consumedIds, AuthDb.empty]

end

/-! ### What a call has locked -/

variable {hist : SessionHist} {call : SessionCall}

lemma begin_of_rule (h : (sessionRule A call).onCmd hist (.auth .begin)) (id : String)
    (x : Option ChallengeRow) : ¬ hist.Heard (.auth (.challengeForUpdate id)) x := by
  cases call with
  | createChallenge => exact h.elim
  | proveSession => exact h.2 id x
  | cleanupExpiredMetadata => simp [sessionRule] at h

def LocksRead (hist : SessionHist) : Prop :=
  ∀ id row, hist.Heard (.auth (.challengeForUpdate id)) (some row) → ¬ hist.Did (.auth .commit) →
    ∃ tx, proofTx hist = some tx ∧ .challenge id ∈ tx.locks

lemma LocksRead.did (h : LocksRead hist) (τ : Nat) {c : SessionCmd}
    (hc : (sessionRule A call).onCmd hist c) : LocksRead ((τ, .did c) :: hist) := by
  intro id row hr ho
  rw [heard_did] at hr
  rw [did_did, not_or] at ho
  obtain ⟨tx, ht, hi⟩ := h id row hr ho.2
  cases c with
  | auth c =>
    cases c with
    | begin => exact absurd hr (begin_of_rule hc id (some row))
    | stmt st => exact ⟨tx.push (τ, st), by simp [proofTx, ht], hi⟩
    | commit => exact absurd rfl ho.1
  | _ => exact ⟨tx, ht, hi⟩

lemma LocksRead.heard (h : LocksRead hist) (τ : Nat) {q : SessionQuery}
    (hq : (sessionRule A call).onAsk hist q) (x : SessionAns q) :
    LocksRead ((τ, .heard q x) :: hist) := by
  intro id row hr ho
  rw [did_heard] at ho
  rcases hr.of_cons with heq | hr
  · cases heq
    exact ⟨⟨[.challenge id], []⟩, by simp [proofTx, (lock_of_rule hq).1, AuthTx.lock], by simp⟩
  · obtain ⟨tx, ht, hi⟩ := h id row hr ho
    cases q with
    | nonce => exact ⟨tx, ht, hi⟩
    | auth q =>
      cases q with
      | challengeForUpdate id' =>
        cases x with
        | none => exact ⟨tx, ht, hi⟩
        | some =>
          exact ⟨tx.lock (.challenge id'), by simp [proofTx, ht], mem_cons_of_mem _ hi⟩
      | registerPrincipalInstance n p i =>
        refine ⟨(tx.push (τ, .registerPrincipalInstance n p i)).lock (.principalInstance n p), ?_,
          mem_cons_of_mem _ hi⟩
        simp [proofTx, ht]
      | _ => exact ⟨tx, ht, hi⟩

lemma locksRead_run (h : SessionReach X A calls gateway nonces s) (t : Nat) :
    LocksRead (s.threads t).hist := by
  refine h.invariant (P := fun s => LocksRead (s.threads t).hist) ?_ fun s a hr _ hi => ?_
  · intro _ _ he
    simp [sessionInitial] at he
  · have hf := follows_run_sessions hr
    rcases step_thread sessions s a t with hs | ⟨_, _, _, _, _, -, hp, -, -, hh⟩ |
      ⟨_, _, _, x, _, -, hp, -, -, hh⟩ | ⟨_, _, -, -, -, hh⟩
    · rw [hs]
      exact hi
    · rw [hh]
      exact hi.did _ (hf.cmd hp)
    · rw [hh]
      exact hi.heard _ (hf.ask hp) x
    · rw [hh]
      exact hi

/-! ### The theorem -/

/-- The principal that a challenge names has signed its nonce and network, in a request that read the
clock, after the challenge, before the challenge expired, and then found it a member. -/
def Earned (X : Wattswarm) (A : AuthCrates) (calls : Nat → SessionCall) (gateway : World)
    (nonces : Nat → String) (s : SessionState) (t : Nat) (g : Grant) : Prop :=
  ∃ ttl request proof message s₁ s₂ k₁ k₂,
    calls t = .proveSession ttl request ∧ request.proofs = [proof] ∧
    g.challenge.principals = [g.claim] ∧ g.session.networkId = g.challenge.networkId ∧
    A.sessionProofMessage g.challenge.networkId g.challenge.principals
      ⟨g.challengeId, g.challenge.nonce, g.challenge.expiresAt⟩ = some message ∧
    A.verifySignature g.claim.principalId message proof.signatureHex = true ∧
    SessionReach X A calls gateway nonces s₁ ∧ Reaches sessions anyStep s₁ s₂ ∧
    Reaches sessions anyStep s₂ s ∧
    (s₁.threads t).hist.Heard (.auth (.challengeForUpdate g.challengeId)) (some g.challenge) ∧
    (s₁.threads t).prog = .ask (.auth .clock) k₁ ∧
    (s₂.threads t).prog = .ask (.auth
      (.principalIsAdmitted g.challenge.networkId g.claim.principalId)) k₂ ∧
    s₁.world.auth.db.challenges.get? g.challengeId = some g.challenge ∧
    s₁.world.gateway.now < g.challenge.expiresAt ∧
    Select.run s₂.world.gateway.now s₂.world.gateway.db
      (.principalIsAdmitted g.challenge.networkId g.claim.principalId) = true

variable {request : SessionProofRequest} {ttl : Nat}

lemma admitted_of_rule {n p : String} (h : (sessionRule A (.proveSession ttl request)).onAsk hist
      (.auth (.principalIsAdmitted n p))) :
    ∃ id row now, A.parseUuid request.challengeId = some id ∧
      hist.Heard (.auth (.challengeForUpdate id)) (some row) ∧ hist.Heard (.auth .clock) now ∧
      now < row.expiresAt ∧ row.networkId = n :=
  h.2

lemma clock_of_rule (h : (sessionRule A (.proveSession ttl request)).onAsk hist (.auth .clock)) :
    ¬ hist.Did (.auth .commit) ∧ ∃ id row, A.parseUuid request.challengeId = some id ∧
      hist.Heard (.auth (.challengeForUpdate id)) (some row) :=
  h

variable {g : Grant}

lemma Granted.earned (h : SessionReach X A calls gateway nonces s) {t : Nat}
    (hg : Granted A calls s t g) : Earned X A calls gateway nonces s t g := by
  obtain ⟨ttl, request, hca, hc, -, hnet, hk⟩ := hg
  obtain ⟨proof, message, hpr, hm, hs⟩ := hc.signed
  -- the membership was asked for after the clock, and the clock after the challenge
  obtain ⟨s₂, _, _, w₂, hr₂, -, hr, hp₂, hans₂⟩ := h.asked (fun _ => rfl) hc.admitted
  have hu₂ := (follows_run_sessions hr₂).ask hp₂
  rw [hca] at hu₂
  obtain ⟨id, row, now, hd, hre, hcl, hi, -⟩ := admitted_of_rule hu₂
  cases (hc.parsed.symm.trans hd)
  cases readsOnce_run h t _ _ _ (hre.mono (hr.hist_suffix t)) hc.challenge
  obtain ⟨s₁, _, _, w₁, hr₁, -, hr₁₂, hp₁, hans₁⟩ := hr₂.asked (fun _ => rfl) hcl
  have hu₁ := (follows_run_sessions hr₁).ask hp₁
  rw [hca] at hu₁
  obtain ⟨ho, _, _, hd', hre₁⟩ := clock_of_rule hu₁
  cases (hd.symm.trans hd')
  cases readsOnce_run hr₂ t _ _ _ (hre₁.mono (hr₁₂.hist_suffix t)) hre
  have hn : now = s₁.world.gateway.now := by
    have hans : Answered t s₁.world (.auth .clock) (.ok now) w₁ := answered hans₁
    cases hans
    rfl
  have ha : Select.run s₂.world.gateway.now s₂.world.gateway.db
      (.principalIsAdmitted g.challenge.networkId g.claim.principalId) = true := by
    have hans : Answered t s₂.world (.auth (.principalIsAdmitted g.challenge.networkId
      g.claim.principalId)) (.ok true) w₂ := answered hans₂
    exact hans.admits rfl
  have hl : s₁.world.auth.db.challenges.get? g.challengeId = some g.challenge := by
    obtain ⟨tx, ht, hlo⟩ := locksRead_run hr₁ t _ _ hre₁ ho
    have he := txsInv_run hr₁ t
    rw [hp₁, ht] at he
    obtain ⟨_, hre', hw, -⟩ := (useInv_run hr₁).held t tx _ he hlo
    cases readsOnce_run hr₁ t _ _ _ hre' hre₁
    exact hw
  exact ⟨ttl, request, proof, message, s₁, s₂, _, _, hca, hpr, hc.named, hnet, hm,
    hk ▸ hs, hr₁, hr₁₂, hr, hre₁, hp₁, hp₂, hl, hn ▸ hi, ha⟩

lemma last_proveSession (X : Wattswarm) (ttl : Nat) (request : SessionProofRequest) :
    (proveSession X A ttl request).Last (· = .commit) := by
  have ht (n : String) (claim : PrincipalClaim) : (historyStatus n claim).Never (· = .commit) := by
    unfold historyStatus
    split
    · trivial
    · exact (never_query _).bind fun _ => trivial
  have hs (n id : String) (claim : PrincipalClaim) (v : Nat) (status : HistoryStatus) :
      (storeSession ttl n id claim v status).Last (· = .commit) := by
    unfold storeSession
    refine (never_run nofun).upon_bind fun _ => (never_query _).upon_bind fun _ => ?_
    refine (never_query _).upon_bind fun _ => (never_query _).upon_bind fun _ => ?_
    refine (never_ofOption _).upon_bind fun _ => (never_run nofun).upon_bind fun _ => ?_
    refine (never_run nofun).upon_bind fun _ => (never_run nofun).upon_bind fun _ => ?_
    exact ⟨fun _ => ⟨_, rfl⟩, trivial⟩
  unfold proveSession
  split
  · refine never_bailIf.upon_bind fun _ => (never_ofOption _).upon_bind fun id => ?_
    unfold proveClaim
    refine (never_run nofun).upon_bind fun _ => (never_query _).upon_bind fun _ => ?_
    refine (never_ofOption _).upon_bind fun _ => (never_query _).upon_bind fun _ => ?_
    refine never_bailIf.upon_bind fun _ => never_bailIf.upon_bind fun _ => ?_
    refine (never_query _).upon_bind fun _ => never_bailIf.upon_bind fun _ => ?_
    refine (never_ofOption _).upon_bind fun _ => never_bailIf.upon_bind fun _ => ?_
    exact (ht _ _).upon_bind fun _ => hs _ _ _ _ _
  · trivial

lemma last_sessionCall (X : Wattswarm) (call : SessionCall) :
    (call.prog X A).Last (· = .auth .commit) := by
  cases call with
  | createChallenge =>
    refine Last.map (Never.upon ?_) _
    unfold createChallenge
    split
    · refine never_bailIf.bind fun _ => never_bailIf.bind fun _ => (never_query _).bind fun _ => ?_
      refine never_bailIf.bind fun _ => (never_query _).bind fun _ => (never_query _).bind fun _ => ?_
      exact (never_query _).bind fun _ => (never_run nofun).bind fun _ => trivial
    · trivial
  | proveSession ttl request =>
    exact ((last_proveSession X ttl request).lift fun c hc => by cases hc; rfl).map _
  | cleanupExpiredMetadata =>
    refine Last.map (Never.upon ?_) _
    unfold cleanupExpiredMetadata
    refine never_bailIf.bind fun _ => (never_run nofun).bind fun _ => (never_run nofun).bind fun _ => ?_
    refine (never_run nofun).bind fun _ => (never_run nofun).bind fun _ => ?_
    exact (never_run nofun).bind fun _ => never_run nofun

lemma returns_of_changed (h : SessionReach X A calls gateway nonces s) {t : Nat} {o : Outcome}
    (hca : calls t = .proveSession ttl request)
    (hc : (s.step sessions (.run t o)).world.auth.db ≠ s.world.auth.db) :
    (∃ r, ((s.step sessions (.run t o)).threads t).prog = .ret r) ∨
      o = .lost ∧ ∃ k, (s.threads t).prog = .cmd (.auth .commit) k := by
  rcases session_step_cases s (.run t o) with hs | ⟨e, hs⟩ | ⟨t', _, _, k, _, _, ha, hp, hx, hs⟩ |
    ⟨t', _, _, k, _, _, -, hp, hx, hs⟩
  · exact absurd (by rw [hs]) hc
  · exact absurd (by rw [hs]; cases e <;> rfl) hc
  · cases ha
    have hr := (follows_run_sessions h).cmd hp
    rw [hca] at hr
    rw [hs, (settle_session _ t).1, world_afterCmd] at hc
    cases hx with
    | committed _ _ _ _ _ ho =>
      rcases ho with rfl | ho
      · left
        have hl := h.last (last_sessionCall (A := A) X (calls t))
        rw [hp] at hl
        obtain ⟨x, rfl⟩ := hl.1 rfl
        exact ⟨x, by rw [hs, settle_prog]; simp [afterCmd]⟩
      · exact .inr ⟨ho, k, hp⟩
    | inserted | expiredChallenges | expiredSessions => exact hr.2.elim
    | _ => exact absurd rfl hc
  · rw [hs, (settle_session _ t').1, world_afterAsk] at hc
    cases hx <;> exact absurd rfl hc

lemma UseInv.of_session (h : UseInv A calls s) (hu : UuidsInv s) {e e' : Nat × AuthTx}
    {g' : Grant} (he : e ∈ s.world.log) (he' : e' ∈ s.world.log) (hg : Grants g e.2)
    (hg' : Grants g' e'.2) (hi : g.sessionId = g'.sessionId) : e = e' := by
  obtain ⟨d, hd, -, -, -, -, hh, -⟩ := h.granted e he
  obtain ⟨d', hd', -, -, -, -, hh', -⟩ := h.granted e' he'
  have hs : d.sessionId = d'.sessionId := by
    have ht := hd.stored.symm.trans hg.stored
    have ht' := hd'.stored.symm.trans hg'.stored
    simp only [List.cons.injEq, Prod.mk.injEq, and_true] at ht ht'
    rw [ht.1, ht'.1, hi]
  have hc : e.1 = e'.1 := hu.2 _ _ _ hh (hs ▸ hh')
  exact inj_on_of_nodup_map h.callers he he' hc

lemma UseInv.owned (h : UseInv A calls s) (hu : UuidsInv s) {e : Nat × AuthTx}
    (he : e ∈ s.world.log) (hg : Grants g e.2)
    (hr : s.world.auth.db.sessions.get? g.sessionId = some g.session) (principal : String) :
    (s.world.auth.db.sessionPrincipals.get? (g.sessionId, principal)).isSome ↔
      principal = g.claim.principalId := by
  have hs : ∀ e' ∈ s.world.log, ∀ g', Grants g' e'.2 → g'.sessionId = g.sessionId →
      g'.claim.principalId = g.claim.principalId := by
    intro e' he' g' hg' hi
    cases h.of_session hu he' he hg' hg hi
    have ho := hg'.owners.symm.trans hg.owners
    simp only [List.cons.injEq, Prod.mk.injEq, and_true] at ho
    exact ho.2
  constructor
  · intro hso
    obtain ⟨x, hx⟩ := isSome_iff_exists.1 hso
    obtain ⟨e', he', g', hg', hi, rfl⟩ := h.principals _ _ x hx
    exact hs e' he' g' hg' hi
  · rintro rfl
    obtain ⟨e', he', g', hg', hi, -, _, hx⟩ := h.stored _ _ hr
    rw [← hs e' he' g' hg' hi, hx]
    rfl

/-- In every interleaving, each challenge is consumed by one committed transaction at most, which
stores one session, earned by the principal that the challenge names; every stored session is one of
these and belongs to that principal; and a session proof that does not commit changes nothing. -/
theorem one_challenge_one_session (X : Wattswarm) (A : AuthCrates) (calls : Nat → SessionCall)
    (gateway : World) (nonces : Nat → String) (s : SessionState)
    (h : SessionReach X A calls gateway nonces s) : (consumedIds s.world.log).Nodup ∧
    (∀ e ∈ s.world.log, ∃ g, e.2.consumed = [g.challengeId] ∧
      e.2.stored = [(g.sessionId, g.session)] ∧ e.2.owners = [(g.sessionId, g.claim.principalId)] ∧
      Earned X A calls gateway nonces s e.1 g) ∧
    (∀ sid row, s.world.auth.db.sessions.get? sid = some row →
      ∃ e ∈ s.world.log, ∃ g, e.2.consumed = [g.challengeId] ∧ g.sessionId = sid ∧ g.session = row ∧
        Earned X A calls gateway nonces s e.1 g ∧
        ∀ principal, (s.world.auth.db.sessionPrincipals.get? (sid, principal)).isSome ↔
          principal = g.claim.principalId) ∧
    ∀ t o ttl request, calls t = .proveSession ttl request →
      (s.step sessions (.run t o)).world.auth.db ≠ s.world.auth.db →
      (∃ r, ((s.step sessions (.run t o)).threads t).prog = .ret r) ∨
        o = .lost ∧ ∃ k, (s.threads t).prog = .cmd (.auth .commit) k := by
  have hi := useInv_run h
  refine ⟨hi.once, fun e he => ?_, fun sid row hr => ?_, fun t o ttl request hc hh =>
    returns_of_changed h hc hh⟩
  · obtain ⟨g, hg, hgr⟩ := hi.granted e he
    exact ⟨g, hg.consumed, hg.stored, hg.owners, hgr.earned h⟩
  · obtain ⟨e, he, _, hg', rfl, rfl, -⟩ := hi.stored sid row hr
    obtain ⟨g, hg, hgr⟩ := hi.granted e he
    have hs := hg.stored.symm.trans hg'.stored
    simp only [List.cons.injEq, Prod.mk.injEq, and_true] at hs
    rw [← hs.1, ← hs.2] at hr ⊢
    exact ⟨e, he, g, hg.consumed, rfl, rfl, hgr.earned h, hi.owned (uuidsInv_run h) he hg hr⟩

end Runs

namespace TwoProofs

def crates : AuthCrates := ⟨some, fun _ _ _ => some [], fun _ _ _ => true⟩

def calls : Nat → SessionCall
  | 0 => .createChallenge ⟨"n", [⟨"g", "g", none⟩]⟩
  | _ => .proveSession 900000 ⟨"n", "0", 1, [⟨"g", "g", none⟩], [⟨"g", "signature"⟩]⟩

def acts : List (Action SessionEnv) :=
  List.replicate 5 (Action.run 0 .ok) ++
    [.run 1 .ok, .run 1 .ok, .run 2 .ok, .run 2 .ok, .env (.tick 1)] ++
    List.replicate 12 (Action.run 1 .ok) ++ List.replicate 12 (Action.run 2 .ok) ++
    List.replicate 12 (Action.run 3 .ok)

def final : SessionState :=
  (sessionInitial (wattswarm []) crates calls world fun _ => "nonce").runActions sessions
    acts

end TwoProofs

set_option maxRecDepth 100000

open TwoProofs in
theorem one_challenge_one_session_twice :
    final.world.log.map Prod.fst = [1] ∧ consumedIds final.world.log = ["0"] ∧
      (∀ t ∈ [0, 1, 2, 3], (final.threads t).prog.isDone = true) ∧
      ∃ row, final.world.auth.db.sessions.get? "1" = some row ∧ ∃ e ∈ final.world.log, ∃ g,
        e.2.consumed = [g.challengeId] ∧ g.sessionId = "1" ∧ g.session = row ∧
        Earned (wattswarm []) crates calls world (fun _ => "nonce") final e.1 g ∧
        ∀ principal, (final.world.auth.db.sessionPrincipals.get? ("1", principal)).isSome ↔
          principal = g.claim.principalId := by
  have hs : (final.world.auth.db.sessions.get? "1").isSome = true := by decide
  obtain ⟨row, hr⟩ := isSome_iff_exists.1 hs
  have h := one_challenge_one_session (wattswarm []) crates calls world
    (fun _ => "nonce") final (reaches_runActions _ _)
  rw [← and_assoc, ← and_assoc]
  exact ⟨by decide, row, hr, h.2.2.1 "1" row hr⟩

end WattGateway.Message
