import WattGateway.Message.Pool
import WattGateway.Message.PublishCommands

/-!
# Where the calls of a pool take what they hold

`poolRule` says what a call may hold where it asks for a connection, a fence or a row: a statement's
connection is asked for while no other is borrowed, a transaction's while nothing is locked, and the
rows of a session proof in their order. Every call follows it (`prog_follows_pool`).
-/

namespace WattGateway.Message

open Prog Hist

/-! ## What a call holds -/

def borrowed : PoolHist → Bool
  | [] => false
  | (_, .did (.acquire false)) :: _ => true
  | (_, .did .release) :: _ => false
  | _ :: h => borrowed h

def Began (h : PoolHist) : Prop := ∃ n l e, h.Did (.gateway (.begin n l e))

def Locked (h : PoolHist) : Prop := ∃ id x, h.Heard (.auth (.challengeForUpdate id)) x

def Registered (h : PoolHist) : Prop :=
  ∃ n p i x, h.Heard (.auth (.registerPrincipalInstance n p i)) x

/-- The call has taken no lock. -/
structure Unlocked (h : PoolHist) : Prop where
  began : ¬ Began h
  locked : ¬ Locked h
  registered : ¬ Registered h

variable {h h' : PoolHist}

lemma Began.mono (hb : Began h) (hs : h <:+ h') : Began h' := by
  obtain ⟨n, l, e, hd⟩ := hb
  exact ⟨n, l, e, hd.mono hs⟩

lemma Locked.mono (hl : Locked h) (hs : h <:+ h') : Locked h' := by
  obtain ⟨id, x, hx⟩ := hl
  exact ⟨id, x, hx.mono hs⟩

lemma Registered.mono (hr : Registered h) (hs : h <:+ h') : Registered h' := by
  obtain ⟨n, p, i, x, hx⟩ := hr
  exact ⟨n, p, i, x, hx.mono hs⟩

variable {c : PoolCmd}

lemma Unlocked.did (hu : Unlocked h) (τ : Nat) (hc : ∀ n l e, c ≠ .gateway (.begin n l e)) :
    Unlocked ((τ, .did c) :: h) := by
  constructor
  · rintro ⟨n, l, e, hd⟩
    rw [did_did] at hd
    rcases hd with hd | hd
    · exact hc n l e hd.symm
    · exact hu.began ⟨n, l, e, hd⟩
  · rintro ⟨id, x, hx⟩
    rw [heard_did] at hx
    exact hu.locked ⟨id, x, hx⟩
  · rintro ⟨n, p, i, x, hx⟩
    rw [heard_did] at hx
    exact hu.registered ⟨n, p, i, x, hx⟩

lemma Unlocked.heard (hu : Unlocked h) (τ : Nat) (q : Query) (x : Ans q) :
    Unlocked ((τ, .heard (.gateway q) x) :: h) := by
  constructor
  · rintro ⟨n, l, e, hd⟩
    rw [did_heard] at hd
    exact hu.began ⟨n, l, e, hd⟩
  · rintro ⟨id, y, hy⟩
    rcases hy.of_cons with hy | hy
    · cases hy
    · exact hu.locked ⟨id, y, hy⟩
  · rintro ⟨n, p, i, y, hy⟩
    rcases hy.of_cons with hy | hy
    · cases hy
    · exact hu.registered ⟨n, p, i, y, hy⟩

/-! ## The rule of a call -/

/-- A call borrows one connection at a time and keeps at most one; it begins its transaction before
it takes a lock, takes a fence or the row of a challenge once and first, and an instance row once
and without a fence. -/
def poolRule : Rule PoolCmd PoolQuery PoolAns where
  onCmd h
    | .acquire true => borrowed h = false ∧ ¬ h.Did (.acquire true) ∧ Unlocked h
    | .acquire false => borrowed h = false
    | .gateway (.begin _ _ _) => borrowed h = false ∧ Unlocked h
    | _ => True
  onAsk h
    | .auth (.challengeForUpdate _) => borrowed h = false ∧ Unlocked h
    | .auth (.registerPrincipalInstance _ _ _) =>
      borrowed h = false ∧ ¬ Began h ∧ ¬ Registered h
    | _ => True

section Publish

variable {α : Type} {h : PoolHist}

def IsBegin (c : Cmd) : Prop := ∃ n l e, c = .begin n l e

lemma use_keep {c : Cmd} (hc : c.use = .keep) : IsBegin c := by
  cases c with
  | begin n l e => exact ⟨n, l, e, rfl⟩
  | _ => cases hc

lemma onCmd_gateway {c : Cmd} (hc : ¬ IsBegin c) : poolRule.onCmd h (.gateway c) := by
  cases c with
  | begin n l e => exact absurd ⟨n, l, e, rfl⟩ hc
  | _ => trivial

lemma follows_onPool_never {p : Gw α} (hp : p.Never IsBegin) (hb : borrowed h = false) :
    (onPool p).Follows poolRule (fun _ _ => True) h := by
  induction p generalizing h with
  | ret => trivial
  | fail => trivial
  | cmd c _ ih =>
    unfold onPool
    cases hu : c.use with
    | none => exact ⟨onCmd_gateway hp.1, fun τ => ih hp.2 hb⟩
    | borrow => exact ⟨hb, fun τ => ⟨onCmd_gateway hp.1, fun τ' => ⟨trivial, fun τ'' => ih hp.2 rfl⟩⟩⟩
    | keep => exact absurd (use_keep hu) hp.1
  | ask q _ ih =>
    unfold onPool
    cases hu : q.use with
    | none => exact ⟨trivial, fun τ a => ih a (hp a) hb⟩
    | borrow => exact ⟨hb, fun τ => ⟨trivial, fun τ' a => ⟨trivial, fun τ'' => ih a (hp a) rfl⟩⟩⟩
    | keep => cases q <;> cases hu

lemma not_did_acquire (hc : c ≠ .acquire true) (τ : Nat) (hn : ¬ h.Did (.acquire true)) :
    ¬ Did ((τ, .did c) :: h) (.acquire true) := by
  rw [did_did]
  rintro (he | hd)
  · exact hc he.symm
  · exact hn hd

lemma follows_onPool_once {p : Gw α} (hp : p.Once IsBegin) (hb : borrowed h = false)
    (hn : ¬ h.Did (.acquire true)) (hu : Unlocked h) :
    (onPool p).Follows poolRule (fun _ _ => True) h := by
  induction p generalizing h with
  | ret => trivial
  | fail => trivial
  | cmd c _ ih =>
    unfold onPool
    by_cases hc : IsBegin c
    · obtain ⟨n, l, e, rfl⟩ := hc
      refine ⟨⟨hb, hn, hu⟩, fun τ => ⟨⟨hb, hu.did τ (by simp)⟩, fun τ' => ?_⟩⟩
      exact follows_onPool_never (hp.1 ⟨n, l, e, rfl⟩) hb
    · have hne : ∀ n l e, PoolCmd.gateway c ≠ .gateway (.begin n l e) := by
        intro n l e he
        cases he
        exact hc ⟨n, l, e, rfl⟩
      cases hs : c.use with
      | none =>
        refine ⟨onCmd_gateway hc, fun τ => ih hp.2 hb (not_did_acquire (by simp) τ hn) ?_⟩
        exact hu.did τ hne
      | borrow =>
        refine ⟨hb, fun τ => ⟨onCmd_gateway hc, fun τ' => ⟨trivial, fun τ'' => ?_⟩⟩⟩
        refine ih hp.2 rfl (not_did_acquire (by simp) _
          (not_did_acquire (by simp) _ (not_did_acquire (by simp) _ hn))) ?_
        exact ((hu.did τ (by simp)).did τ' hne).did τ'' (by simp)
      | keep => exact absurd (use_keep hs) hc
  | ask q _ ih =>
    unfold onPool
    cases hs : q.use with
    | none =>
      refine ⟨trivial, fun τ a => ih a (hp a) hb ?_ (hu.heard τ q a)⟩
      rw [did_heard]
      exact hn
    | borrow =>
      refine ⟨hb, fun τ => ⟨trivial, fun τ' a => ⟨trivial, fun τ'' => ih a (hp a) rfl ?_ ?_⟩⟩⟩
      · refine not_did_acquire (by simp) _ ?_
        rw [did_heard]
        exact not_did_acquire (by simp) _ hn
      · exact ((hu.did τ (by simp)).heard τ' q a).did τ'' (by simp)
    | keep => cases q <;> cases hs

lemma once_publish (X : Wattswarm) (config : Config) (session : VerifiedSession)
    (frame : PublishFrame) : (publish X config session frame).Once IsBegin := by
  have hB : ∀ c : Cmd, c.Within → ¬ IsBegin c := by
    rintro _ hc ⟨n, l, e, rfl⟩
    exact hc
  refine publish_of X config hB session frame Never.bind Never.upon_bind (fun n l e f hf => ?_)
    (fun r => ?_) fun r => trivial
  · exact ⟨fun _ => hf, hf.upon⟩
  · exact (never_run (by simp [IsBegin])).bind fun _ => trivial

end Publish

/-! ## Session proofs -/

section Proofs

variable {α β : Type} {h : PoolHist}

lemma authOnPool_bind (p : Auth α) (f : α → Auth β) :
    authOnPool (p >>= f) = authOnPool p >>= fun a => authOnPool (f a) := by
  induction p with
  | ret => rfl
  | fail => rfl
  | cmd c k ih =>
    show useCmd c.use (.auth c) (authOnPool (k >>= f)) = useCmd c.use (.auth c) (authOnPool k) >>= _
    rw [ih]
    cases c.use <;> rfl
  | ask q k ih =>
    show useAsk q.use (.auth q) (fun a => authOnPool (k a >>= f)) =
      useAsk q.use (.auth q) (fun a => authOnPool (k a)) >>= _
    have hk : (fun a => authOnPool (k a >>= f)) =
        fun a => authOnPool (k a) >>= fun b => authOnPool (f b) := by
      funext a
      exact ih a
    rw [hk]
    cases q.use <;> rfl

variable {Q : α → PoolHist → Prop} {Q' : β → PoolHist → Prop}

lemma follows_authBind {p : Auth α} {f : α → Auth β}
    (hp : (authOnPool p).Follows poolRule (fun a h' => (authOnPool (f a)).Follows poolRule Q' h') h) :
    (authOnPool (p >>= f)).Follows poolRule Q' h := by
  rw [authOnPool_bind]
  exact Follows.bind hp

lemma follows_authBailIf {b : Prop} [Decidable b] {e : String} {Q : Unit → PoolHist → Prop}
    (hq : Q () h) : (authOnPool (bailIf b e)).Follows poolRule Q h := by
  unfold bailIf
  split
  · trivial
  · exact hq

lemma follows_authOption {e : String} {x : Option α} (hq : ∀ a, Q a h) :
    (authOnPool (ofOption e x)).Follows poolRule Q h := by
  cases x with
  | none => trivial
  | some a => exact hq a

lemma follows_authRun {c : AuthCmd} (hu : c.use = .none) {Q : Unit → PoolHist → Prop}
    (hq : ∀ τ, Q () ((τ, .did (.auth c)) :: h)) : (authOnPool (run c)).Follows poolRule Q h := by
  show (useCmd c.use (.auth c) (.ret ())).Follows poolRule Q h
  rw [hu]
  exact ⟨trivial, hq⟩

lemma follows_authQuery {q : AuthQuery} (hu : q.use = .none) (hok : poolRule.onAsk h (.auth q))
    {Q : AuthAns q → PoolHist → Prop} (hq : ∀ τ x, Q x ((τ, .heard (.auth q) x) :: h)) :
    (authOnPool (query q)).Follows poolRule Q h := by
  show (useAsk q.use (.auth q) .ret).Follows poolRule Q h
  rw [hu]
  exact ⟨hok, hq⟩

lemma follows_storeSession (ttl : Nat) (n id : String) (claim : PrincipalClaim) (v : Nat)
    (status : HistoryStatus) :
    (authOnPool (storeSession ttl n id claim v status)).Follows poolRule (fun _ _ => True) h := by
  unfold storeSession
  refine follows_authBind (follows_authRun rfl fun _ => ?_)
  refine follows_authBind (follows_authQuery rfl (by trivial) fun _ _ => ?_)
  refine follows_authBind (follows_authQuery rfl (by trivial) fun _ _ => ?_)
  refine follows_authBind (follows_authQuery rfl (by trivial) fun _ _ => ?_)
  refine follows_authBind (follows_authOption fun ttl => ?_)
  exact ⟨trivial, fun _ => ⟨trivial, fun _ => ⟨trivial, fun _ => ⟨trivial, fun _ => trivial⟩⟩⟩⟩

lemma follows_historyStatus (hb : borrowed h = false) (he : ¬ Began h)
    (hr : ¬ Registered h) (n : String) (claim : PrincipalClaim) :
    (authOnPool (historyStatus n claim)).Follows poolRule (fun _ _ => True) h := by
  unfold historyStatus
  split
  · trivial
  · exact ⟨⟨hb, he, hr⟩, fun _ unavailable => trivial⟩

/-- The histories of a session proof after its challenge is read: no fence and no instance. -/
structure Proving (h : PoolHist) : Prop where
  began : ¬ Began h
  registered : ¬ Registered h

lemma Proving.did (hp : Proving h) (τ : Nat) (hc : ∀ n l e, c ≠ .gateway (.begin n l e)) :
    Proving ((τ, .did c) :: h) := by
  constructor
  · rintro ⟨n, l, e, hd⟩
    rw [did_did] at hd
    rcases hd with hd | hd
    · exact hc n l e hd.symm
    · exact hp.began ⟨n, l, e, hd⟩
  · rintro ⟨n, p, i, x, hx⟩
    rw [heard_did] at hx
    exact hp.registered ⟨n, p, i, x, hx⟩

lemma Proving.heard (hp : Proving h) (τ : Nat) {q : AuthQuery} (x : AuthAns q)
    (hq : ∀ n p i, q ≠ .registerPrincipalInstance n p i) :
    Proving ((τ, .heard (.auth q) x) :: h) := by
  constructor
  · rintro ⟨n, l, e, hd⟩
    rw [did_heard] at hd
    exact hp.began ⟨n, l, e, hd⟩
  · rintro ⟨n, p, i, y, hy⟩
    rcases hy.of_cons with hy | hy
    · cases hy
      exact hq n p i rfl
    · exact hp.registered ⟨n, p, i, y, hy⟩

lemma unlocked_nil : Unlocked [] := by
  constructor
  · rintro ⟨n, _, _, hd⟩
    exact not_did_nil _ hd
  · rintro ⟨_, x, hx⟩
    exact not_heard_nil _ _ hx
  · rintro ⟨_, _, _, _, hx⟩
    exact not_heard_nil _ _ hx

lemma follows_proveClaim (A : AuthCrates) (ttl : Nat) (request : SessionProofRequest)
    (id : String) (claim : PrincipalClaim) (proof : PrincipalProof) :
    (authOnPool (proveClaim A ttl request id claim proof)).Follows poolRule (fun _ _ => True) [] := by
  unfold proveClaim
  have hu : Unlocked [] := unlocked_nil
  refine follows_authBind ⟨⟨rfl, not_did_nil _, hu⟩, fun τ₁ => ⟨trivial, fun τ₂ => ?_⟩⟩
  have hu₂ := (hu.did τ₁ (c := .acquire true) (by simp)).did τ₂ (c := .auth .begin) (by simp)
  refine follows_authBind (follows_authQuery (q := .challengeForUpdate id) rfl ⟨rfl, hu₂⟩ fun τ₃ row => ?_)
  have hp₃ := (Proving.mk hu₂.began hu₂.registered).heard τ₃ (q := .challengeForUpdate id) row
    (by simp)
  refine follows_authBind (follows_authOption fun row => ?_)
  refine follows_authBind (follows_authQuery rfl (by trivial) fun τ₄ now => ?_)
  have hp₄ := hp₃.heard τ₄ (q := .clock) now (by simp)
  refine follows_authBind (follows_authBailIf ?_)
  refine follows_authBind (follows_authBailIf ?_)
  refine follows_authBind ⟨rfl, fun τ₅ => ⟨trivial, fun τ₆ admitted => ⟨trivial, fun τ₇ => ?_⟩⟩⟩
  have hp₇ := ((hp₄.did τ₅ (c := .acquire false) (by simp)).heard τ₆
    (q := .principalIsAdmitted row.networkId claim.principalId) admitted (by simp)).did τ₇
    (c := .release) (by simp)
  refine follows_authBind (follows_authBailIf ?_)
  refine follows_authBind (follows_authOption fun message => ?_)
  refine follows_authBind (follows_authBailIf ?_)
  refine follows_authBind ((follows_historyStatus rfl hp₇.began hp₇.registered _ _).mono ?_)
  exact fun status _ _ => follows_storeSession _ _ _ _ _ status

lemma follows_proveSession (X : Wattswarm) (A : AuthCrates) (ttl : Nat)
    (request : SessionProofRequest) :
    (authOnPool (proveSession X A ttl request)).Follows poolRule (fun _ _ => True) [] := by
  unfold proveSession
  split
  · refine follows_authBind (follows_authBailIf ?_)
    exact follows_authBind (follows_authOption fun id => follows_proveClaim A ttl request id _ _)
  · trivial

end Proofs

lemma prog_follows_pool (I : Instance) (call : PoolCall) :
    (call.prog I).Follows poolRule (fun _ _ => True) [] := by
  cases call with
  | publish session frame =>
    have hp := follows_onPool_once (once_publish I.wattswarm I.config session frame) rfl
      (not_did_nil _) unlocked_nil
    exact .bind (hp.mono fun r _ _ => trivial)
  | proveSession request =>
    exact .bind ((follows_proveSession _ _ _ request).mono fun r _ _ => trivial)

end WattGateway.Message
