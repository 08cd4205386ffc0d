import WattGateway.Message.PoolRules
import WattGateway.Message.Sessions

/-!
# Deadlocks of the pool

A publish keeps the connection of its scope fence while it queries the pool, and a session proof
that of its transaction. Twenty of them take the pool and wait for each other (`publishes_starve`).
If a transaction is begun only while a connection is left over for statements, every fair schedule
brings the calls to their ends (`reserve_completes`): the locks add no cycle, since the holder of a
fence waits for connections only, and the holder of a challenge row also for an instance row, whose
holder waits for nothing.
-/

namespace WattGateway.Message

open Prog Sys Hist List Option Table Sample

variable {w : PoolWorld} {q : PoolQuery} {a : AuthState} {gw : World} {r : Except String Unit}
  {b : Bool}

/-! ## Resources -/

/-- What a call can hold: a connection, a fence, a row. -/
inductive Res where
  | conn (tx : Bool)
  | fence
  | row (key : RowKey)

def Owns (w : PoolWorld) (t : Nat) : Res → Prop
  | .conn b => (t, b) ∈ w.conns
  | .fence => ∃ tx, w.gateway.txs.get? t = some tx
  | .row key => ∃ tx, w.auth.txs.get? t = some tx ∧ key ∈ tx.locks

/-- The history by which a call comes to hold the resource. -/
def Justified (h : PoolHist) : Res → Prop
  | .conn true => h.Did (.acquire true)
  | .conn false => borrowed h = true
  | .fence => Began h
  | .row (.challenge _) => Locked h
  | .row (.principalInstance _ _) => Registered h

def PoolCmd.Gains : PoolCmd → Res → Prop
  | .acquire b, .conn b' => b = b'
  | .gateway (.begin _ _ _), .fence => True
  | _, _ => False

def PoolQuery.Gains : PoolQuery → Res → Prop
  | .auth (.challengeForUpdate id), .row key => key = .challenge id
  | .auth (.registerPrincipalInstance n p _), .row key => key = .principalInstance n p
  | _, _ => False

section Resources

variable {t t' : Nat} {o : Outcome} {w w' : PoolWorld} {res : Res}
variable {c : PoolCmd}

lemma poolPerform_cases (h : poolPerform t c o w = some (r, w')) :
    (∃ b, c = .acquire b ∧ w' = { w with conns := (t, b) :: w.conns }) ∨
      (c = .release ∧ w' = { w with conns := w.conns.erase (t, false) }) ∨
      (∃ c' g, c = .gateway c' ∧ perform t c' o w.gateway = some (r, g) ∧ w'.gateway = g ∧
        w'.auth = w.auth ∧ w'.conns.Sublist w.conns) ∨
      ∃ c', c = .auth c' ∧ w'.auth = (authPerform t c' o w.gateway.now w.auth).2 ∧
        w'.gateway = w.gateway ∧ w'.conns.Sublist w.conns := by
  cases c with
  | acquire b =>
    simp only [poolPerform] at h
    split at h <;> cases h
    exact .inl ⟨b, rfl, rfl⟩
  | release =>
    cases h
    exact .inr (.inl ⟨rfl, rfl⟩)
  | gateway c =>
    simp only [poolPerform] at h
    split at h <;> cases h
    refine .inr (.inr (.inl ⟨c, _, rfl, ‹_›, ?_⟩))
    cases c <;> simp [PoolWorld.endTx, erase_sublist]
  | auth c =>
    simp only [poolPerform, Option.some.injEq, Prod.mk.injEq] at h
    obtain ⟨-, rfl⟩ := h
    refine .inr (.inr (.inr ⟨c, rfl, ?_⟩))
    cases c <;> simp [PoolWorld.endTx, erase_sublist]

lemma conns_answer {r : Except String (PoolAns q)} (h : poolAnswer t q o w = some (r, w')) :
    w'.conns = w.conns := by
  cases q with
  | gateway | auth =>
    obtain ⟨_, -, hx⟩ := map_eq_some_iff.1 h
    cases hx
    rfl

lemma fence_perform (h : poolPerform t c o w = some (r, w')) (ho : Owns w' t' .fence) :
    (t' = t ∧ c.Gains .fence) ∨ Owns w t' .fence := by
  obtain ⟨tx, hx⟩ := ho
  rcases poolPerform_cases h with ⟨_, -, rfl⟩ | ⟨-, rfl⟩ | ⟨c, _, rfl, hg, rfl, -⟩ |
    ⟨c, -, -, hw, -⟩
  · exact .inr ⟨tx, hx⟩
  · exact .inr ⟨tx, hx⟩
  · rcases perform_effect hg with ⟨hg, -⟩ | he
    · exact .inr ⟨tx, hg ▸ hx⟩
    · rw [he.txs t'] at hx
      split at hx
      · rename_i ht
        subst ht
        cases c with
        | begin => exact .inl ⟨rfl, trivial⟩
        | stmt =>
          obtain ⟨tx₀, hx₀, -⟩ := map_eq_some_iff.1 hx
          exact .inr ⟨tx₀, hx₀⟩
        | commit => cases hx
        | _ => exact .inr ⟨tx, hx⟩
      · exact .inr ⟨tx, hx⟩
  · exact .inr ⟨tx, hw ▸ hx⟩

variable {key : RowKey}

variable {tx : AuthTx}

lemma row_authPerform {c : AuthCmd} {now : Nat}
    (hx : (authPerform t c o now a).2.txs.get? t' = some tx) (hk : key ∈ tx.locks) :
    ∃ tx₀, a.txs.get? t' = some tx₀ ∧ key ∈ tx₀.locks := by
  unfold authPerform at hx
  split at hx
  · exact ⟨tx, hx, hk⟩
  · cases c with
    | begin =>
      rw [get?_authSetTx] at hx
      split at hx
      · cases hx
        cases hk
      · exact ⟨tx, hx, hk⟩
    | stmt st =>
      dsimp only at hx
      split at hx
      · exact ⟨tx, hx, hk⟩
      · rename_i tx₀ hx₀
        split at hx
        · rw [get?_authSetTx] at hx
          split at hx
          · rename_i ht
            cases hx
            exact ⟨tx₀, ht ▸ hx₀, hk⟩
          · exact ⟨tx, hx, hk⟩
        · exact ⟨tx, hx, hk⟩
    | commit =>
      dsimp only at hx
      split at hx
      · exact ⟨tx, hx, hk⟩
      · split at hx
        · replace hx : (a.dropTx t).txs.get? t' = some tx := hx
          rw [get?_authDropTx] at hx
          split at hx
          · cases hx
          · exact ⟨tx, hx, hk⟩
        · exact ⟨tx, hx, hk⟩

lemma row_perform (h : poolPerform t c o w = some (r, w')) (ho : Owns w' t' (.row key)) :
    Owns w t' (.row key) := by
  obtain ⟨tx, ht, hk⟩ := ho
  rcases poolPerform_cases h with ⟨_, -, rfl⟩ | ⟨-, rfl⟩ | ⟨_, _, -, -, -, hw, -⟩ | ⟨_, -, hw, -⟩
  · exact ⟨tx, ht, hk⟩
  · exact ⟨tx, ht, hk⟩
  · exact ⟨tx, hw ▸ ht, hk⟩
  · exact row_authPerform (hw ▸ ht) hk

lemma row_lock {tx₀ tx₁ tx : AuthTx} {key' : RowKey}
    (hx₀ : a.txs.get? t = some tx₀) (hl : tx₁.locks = tx₀.locks)
    (hx : (a.setTx t (tx₁.lock key')).txs.get? t' = some tx) (hk : key ∈ tx.locks) :
    (t' = t ∧ key = key') ∨ ∃ tx₀, a.txs.get? t' = some tx₀ ∧ key ∈ tx₀.locks := by
  rw [get?_authSetTx] at hx
  split at hx
  · rename_i ht
    cases hx
    rcases mem_cons.1 hk with hk | hk
    · exact .inl ⟨ht, hk⟩
    · exact .inr ⟨tx₀, ht ▸ hx₀, hl ▸ hk⟩
  · exact .inr ⟨tx, hx, hk⟩

lemma row_authReply {q : AuthQuery} {a a' : AuthState}
    {r : Except String (AuthAns q)} (h : authReply t gw a q = some (r, a'))
    (ht : a'.txs.get? t' = some tx) (hk : key ∈ tx.locks) :
    (t' = t ∧ PoolQuery.Gains (.auth q) (.row key)) ∨
      ∃ tx₀, a.txs.get? t' = some tx₀ ∧ key ∈ tx₀.locks := by
  cases q with
  | challengeForUpdate =>
    simp only [authReply, readChallenge] at h
    repeat' split at h
    all_goals cases h
    · exact .inr ⟨tx, ht, hk⟩
    · exact .inr ⟨tx, ht, hk⟩
    · exact .inr ⟨tx, ht, hk⟩
    · exact row_lock ‹_› rfl ht hk
  | registerPrincipalInstance =>
    simp only [authReply, registerInstance] at h
    repeat' split at h
    all_goals cases h
    · exact .inr ⟨tx, ht, hk⟩
    · exact .inr ⟨tx, ht, hk⟩
    · exact row_lock ‹_› (by rfl) ht hk
  | _ =>
    cases h
    exact .inr ⟨tx, ht, hk⟩

lemma owns_answer {r : Except String (PoolAns q)} (h : poolAnswer t q o w = some (r, w'))
    (ho : Owns w' t' res) : (t' = t ∧ q.Gains res) ∨ Owns w t' res := by
  cases q with
  | gateway =>
    obtain ⟨⟨r', _⟩, ha, hx⟩ := map_eq_some_iff.1 h
    cases hx
    cases answer_world ha
    exact .inr (by cases res <;> exact ho)
  | auth =>
    obtain ⟨⟨_, _⟩, ha, hx⟩ := map_eq_some_iff.1 h
    cases hx
    cases res with
    | conn => exact .inr ho
    | fence => exact .inr ho
    | row =>
      obtain ⟨tx, ht, hk⟩ := ho
      unfold authAnswer at ha
      split at ha
      · exact row_authReply ha ht hk
      · cases ha
        exact .inr ⟨tx, ht, hk⟩

/-- What a call holds after a command, it held before, or the command brings it; a release takes
the borrowed connection. -/
lemma owns_perform (hn : w.conns.Nodup) (h : poolPerform t c o w = some (r, w'))
    (ho : Owns w' t' res) :
    (t' = t ∧ c.Gains res) ∨ Owns w t' res ∧ ¬ (t' = t ∧ c = .release ∧ res = .conn false) := by
  cases res with
  | fence =>
    rcases fence_perform h ho with hg | ho
    · exact .inl hg
    · exact .inr ⟨ho, by simp⟩
  | row => exact .inr ⟨row_perform h ho, by simp⟩
  | conn b =>
    replace ho : (t', b) ∈ w'.conns := ho
    rcases poolPerform_cases h with ⟨_, rfl, rfl⟩ | ⟨rfl, rfl⟩ | ⟨_, _, rfl, -, -, -, hc⟩ |
      ⟨_, rfl, -, -, hc⟩
    · rcases mem_cons.1 ho with heq | ho
      · cases heq
        exact .inl ⟨rfl, rfl⟩
      · exact .inr ⟨ho, by simp⟩
    · obtain ⟨hne, ho⟩ := hn.mem_erase_iff.1 ho
      refine .inr ⟨ho, ?_⟩
      rintro ⟨rfl, -, hb⟩
      cases hb
      exact hne rfl
    · exact .inr ⟨hc.subset ho, by simp⟩
    · exact .inr ⟨hc.subset ho, by simp⟩

lemma owns_finish (ho : Owns (poolFinish t w) t' res) : t' ≠ t ∧ Owns w t' res := by
  cases res with
  | conn b =>
    replace ho : (t', b) ∈ w.conns.filter _ := ho
    rw [mem_filter, decide_eq_true_eq] at ho
    exact ⟨ho.2, ho.1⟩
  | fence =>
    obtain ⟨tx, hx⟩ := ho
    replace hx : (w.gateway.dropTx t).txs.get? t' = some tx := hx
    rw [get?_dropTx] at hx
    split at hx
    · cases hx
    · rename_i ht
      exact ⟨ht, tx, hx⟩
  | row key =>
    obtain ⟨tx, hx, hk⟩ := ho
    replace hx : (w.auth.dropTx t).txs.get? t' = some tx := hx
    rw [get?_authDropTx] at hx
    split at hx
    · cases hx
    · rename_i ht
      exact ⟨ht, tx, hx, hk⟩

/-! ## The invariant -/

variable {h : PoolHist}

lemma Justified.gained (hg : c.Gains res) (τ : Nat) : Justified ((τ, .did c) :: h) res := by
  unfold PoolCmd.Gains at hg
  split at hg
  · subst hg
    rename_i b
    cases b with
    | true => exact did_self τ _ h
    | false => rfl
  · exact ⟨_, _, _, did_self τ _ h⟩
  · exact hg.elim

lemma Justified.heard_gained (hg : q.Gains res) (τ : Nat) (x : PoolAns q) :
    Justified ((τ, .heard q x) :: h) res := by
  unfold PoolQuery.Gains at hg
  split at hg
  · subst hg
    exact ⟨_, x, heard_self τ _ x h⟩
  · subst hg
    exact ⟨_, _, _, x, heard_self τ _ x h⟩
  · exact hg.elim

lemma Justified.did (hj : Justified h res) (τ : Nat) (hc : ¬ (c = .release ∧ res = .conn false)) :
    Justified ((τ, .did c) :: h) res := by
  match res, hj with
  | .conn true, hj => exact hj.mono (suffix_cons _ _)
  | .conn false, hj =>
    cases c with
    | acquire b =>
      cases b with
      | true => exact hj
      | false => rfl
    | release => exact absurd ⟨rfl, rfl⟩ hc
    | gateway => exact hj
    | auth => exact hj
  | .fence, hj => exact hj.mono (suffix_cons _ _)
  | .row (.challenge id), hj => exact hj.mono (suffix_cons _ _)
  | .row (.principalInstance n p), hj => exact hj.mono (suffix_cons _ _)

lemma Justified.heard (hj : Justified h res) (τ : Nat) (q : PoolQuery) (x : PoolAns q) :
    Justified ((τ, .heard q x) :: h) res := by
  match res, hj with
  | .conn true, hj => exact hj.mono (suffix_cons _ _)
  | .conn false, hj => exact hj
  | .fence, hj => exact hj.mono (suffix_cons _ _)
  | .row (.challenge id), hj => exact hj.mono (suffix_cons _ _)
  | .row (.principalInstance n p), hj => exact hj.mono (suffix_cons _ _)

end Resources

/-- What is held is held by a call that runs and has come to it, and one connection is not kept
by any transaction. -/
structure PoolInv (s : PoolState) : Prop where
  owned : ∀ t res, Owns s.world t res →
    (s.threads t).prog.isDone = false ∧ Justified (s.threads t).hist res
  nodup : s.world.conns.Nodup
  reserve : s.world.txConns.length < maxConnections

section Invariant

variable {I : Instance} {calls : Nat → PoolCall} {s : PoolState} {t : Nat}

lemma inv_settle (hot : ∀ t' res, t' ≠ t → Owns s.world t' res →
      (s.threads t').prog.isDone = false ∧ Justified (s.threads t').hist res)
    (hs : ∀ res, (s.threads t).prog.isDone = false → Owns s.world t res →
      Justified (s.threads t).hist res)
    (hn : s.world.conns.Nodup) (hr : s.world.txConns.length < maxConnections) :
    PoolInv (s.settle pool t) := by
  cases hd : (s.threads t).prog.isDone with
  | true =>
    have hw : (s.settle pool t).world = poolFinish t s.world := by
      rw [settle_of_done hd]
      rfl
    constructor
    · intro t' res ho
      rw [hw] at ho
      obtain ⟨ht, ho⟩ := owns_finish ho
      rw [settle_ne ht]
      exact hot t' res ht ho
    · rw [hw]
      exact hn.filter _
    · rw [hw]
      refine Nat.lt_of_le_of_lt (List.Sublist.length_le ?_) hr
      exact List.Sublist.filter _ filter_sublist
  | false =>
    rw [settle_of_not_done hd]
    refine ⟨fun t' res ho => ?_, hn, hr⟩
    by_cases ht : t' = t
    · subst ht
      exact ⟨hd, hs res hd ho⟩
    · exact hot t' res ht ho

structure Idle (w : PoolWorld) : Prop where
  conns : w.conns = []
  fences : w.gateway.txs = .empty
  rows : w.auth.txs = .empty

lemma inv_initial (hw : Idle w) : PoolInv (poolInitial I calls w) := by
  constructor
  · intro t res ho
    replace ho : Owns w t res := ho
    cases res with
    | conn b =>
      replace ho : (t, b) ∈ w.conns := ho
      rw [hw.conns] at ho
      cases ho
    | fence =>
      obtain ⟨tx, ht⟩ := ho
      rw [hw.fences] at ht
      cases ht
    | row =>
      obtain ⟨_, ht, -⟩ := ho
      rw [hw.rows] at ht
      cases ht
  · show w.conns.Nodup
    rw [hw.conns]
    exact nodup_nil
  · show (w.conns.filter _).length < maxConnections
    rw [hw.conns]
    decide

abbrev PoolRuns (I : Instance) (calls : Nat → PoolCall) (w : PoolWorld) (s : PoolState) : Prop :=
  Reaches pool Reserve (poolInitial I calls w) s

lemma follows_of_pool (h : PoolRuns I calls w s) :
    FollowsAll (fun _ => poolRule) (fun _ _ _ => True) s :=
  h.follows fun t => prog_follows_pool I (calls t)

variable {k : Pooled PoolReply} {c : PoolCmd}

lemma onCmd_of_pool (h : PoolRuns I calls w s) (hp : (s.threads t).prog = .cmd c k) :
    poolRule.onCmd (s.threads t).hist c := by
  have hf := follows_of_pool h t
  rw [hp] at hf
  exact hf.1

lemma onAsk_of_pool (h : PoolRuns I calls w s)
    {k : PoolAns q → Pooled PoolReply} (hp : (s.threads t).prog = .ask q k) :
    poolRule.onAsk (s.threads t).hist q := by
  have hf := follows_of_pool h t
  rw [hp] at hf
  exact hf.1

lemma not_owns_acquired (hi : PoolInv s)
    (hok : poolRule.onCmd (s.threads t).hist (.acquire b)) : (t, b) ∉ s.world.conns := by
  intro hm
  obtain ⟨-, hj⟩ := hi.owned t (.conn b) hm
  cases b with
  | true => exact hok.2.1 hj
  | false =>
    have hb : borrowed (s.threads t).hist = true := hj
    rw [hok] at hb
    cases hb

variable {o : Outcome}

lemma conns_step (hi : PoolInv s) {w' : PoolWorld}
    (hp : (s.threads t).prog = .cmd c k) (hok : poolRule.onCmd (s.threads t).hist c)
    (hc : Reserve s (.run t o)) (hx : poolPerform t c o s.world = some (r, w')) :
    w'.conns.Nodup ∧ w'.txConns.length < maxConnections := by
  have hs : ∀ {l : List (Nat × Bool)}, l.Sublist s.world.conns →
      l.Nodup ∧ (l.filter fun x => x.2).length < maxConnections := fun hl =>
    ⟨hl.nodup hi.nodup, Nat.lt_of_le_of_lt (hl.filter _).length_le hi.reserve⟩
  rcases poolPerform_cases hx with ⟨b, rfl, rfl⟩ | ⟨-, rfl⟩ | ⟨_, _, -, -, -, -, hw⟩ |
    ⟨_, -, -, -, hw⟩
  · refine ⟨nodup_cons.2 ⟨not_owns_acquired hi hok, hi.nodup⟩, ?_⟩
    cases b with
    | true => exact hc k hp
    | false => exact hi.reserve
  · exact hs erase_sublist
  · exact hs hw
  · exact hs hw

lemma inv_step (h : PoolRuns I calls w s) (hi : PoolInv s) {act : Action Env}
    (hc : Reserve s act) : PoolInv (s.step pool act) := by
  rcases step_results pool s act with hs | ⟨e, -, hs⟩ | ⟨t, _, _, k, r, w', rfl, hp, hx, hs⟩ |
    ⟨t, _, q, k, r, w', rfl, hp, hx, hs⟩ <;> rw [hs]
  · exact hi
  · refine ⟨fun t res ho => hi.owned t res ?_, hi.nodup, hi.reserve⟩
    cases res with
    | conn => exact ho
    | fence =>
      obtain ⟨tx, htx⟩ := ho
      exact ⟨tx, by cases e <;> exact htx⟩
    | row => exact ho
  · obtain ⟨hn, hr⟩ := conns_step hi hp (onCmd_of_pool h hp) hc hx
    refine inv_settle (fun t' res ht ho => ?_) (fun res hd ho => ?_) (by simpa using hn)
      (by simpa using hr)
    · rw [world_afterCmd] at ho
      rw [afterCmd_ne ht]
      rcases owns_perform hi.nodup hx ho with ⟨he, -⟩ | ⟨ho, -⟩
      · exact absurd he ht
      · exact hi.owned t' res ho
    · rw [world_afterCmd] at ho
      cases r with
      | error e =>
        replace hd : ((s.abort t e w').threads t).prog.isDone = false := hd
        rw [abort_self] at hd
        cases hd
      | ok =>
        show Justified ((s.advance t k _ w').threads t).hist res
        rw [advance_self]
        rcases owns_perform hi.nodup hx ho with ⟨-, hg⟩ | ⟨ho, hne⟩
        · exact .gained hg _
        · exact (hi.owned t res ho).2.did _ fun he => hne ⟨rfl, he⟩
  · have hw : w'.conns = s.world.conns := conns_answer hx
    refine inv_settle (fun t' res ht ho => ?_) (fun res hd ho => ?_) ?_ ?_
    · rw [world_afterAsk] at ho
      rw [afterAsk_ne ht]
      rcases owns_answer hx ho with ⟨he, -⟩ | ho
      · exact absurd he ht
      · exact hi.owned t' res ho
    · rw [world_afterAsk] at ho
      cases r with
      | error e =>
        replace hd : ((s.abort t e w').threads t).prog.isDone = false := hd
        rw [abort_self] at hd
        cases hd
      | ok x =>
        show Justified ((s.advance t (k x) _ w').threads t).hist res
        rw [advance_self]
        rcases owns_answer hx ho with ⟨-, hg⟩ | ho
        · exact .heard_gained hg _ x
        · exact (hi.owned t res ho).2.heard _ q x
    · rw [world_afterAsk, hw]
      exact hi.nodup
    · rw [world_afterAsk, PoolWorld.txConns, hw]
      exact hi.reserve

lemma inv_of_pool (hw : Idle w) (h : PoolRuns I calls w s) : PoolInv s :=
  h.invariant (inv_initial hw) fun _ _ hr hc hi => inv_step hr hi hc

/-! ## Progress -/

abbrev CanMove (s : PoolState) (t : Nat) : Prop := s.Ready pool Reserve t

/-- What a call that cannot move is at: a connection, a fence or a row held by another. -/
inductive Waits (s : PoolState) (t : Nat) : Prop
  | conn (b : Bool) (k : Pooled PoolReply) (hp : (s.threads t).prog = .cmd (.acquire b) k)
  | fence (n l : String) (e : Bool) (k : Pooled PoolReply)
      (hp : (s.threads t).prog = .cmd (.gateway (.begin n l e)) k) (t' : Nat)
      (ho : Owns s.world t' .fence)
  | challenge (id : String) (k : Option ChallengeRow → Pooled PoolReply)
      (hp : (s.threads t).prog = .ask (.auth (.challengeForUpdate id)) k) (t' : Nat)
      (ho : Owns s.world t' (.row (.challenge id)))
  | registration (n p i : String) (k : Bool → Pooled PoolReply)
      (hp : (s.threads t).prog = .ask (.auth (.registerPrincipalInstance n p i)) k) (t' : Nat)
      (ho : Owns s.world t' (.row (.principalInstance n p)))

lemma owns_of_locked {t : Nat} {key : RowKey} (h : a.LockedByOther t key) :
    ∃ t' tx, a.txs.get? t' = some tx ∧ key ∈ tx.locks := by
  obtain ⟨⟨t', tx⟩, hm, -, hk⟩ := h
  exact ⟨t', tx, get?_eq_some.2 hm, hk⟩

lemma perform_eq_none {c : Cmd} (h : perform t c o gw = none) :
    ∃ n l e, c = .begin n l e ∧ o = .ok ∧ gw.Conflicts t (fenceKey n l) e := by
  cases c with
  | begin n l e =>
    simp only [perform] at h
    split at h
    · cases h
    · rename_i ho
      split at h
      · exact ⟨n, l, e, rfl, not_not.1 ho, ‹_›⟩
      · cases h
  | queueDeclare => cases o <;> cases h
  | queueUnbind => cases o <;> cases h
  | _ =>
    simp only [perform, stmtInTx, execStmt, commitView, publishTo, request] at h
    repeat' split at h
    all_goals cases h

lemma reserve_of_cmd (hc : c ≠ .acquire true) (hp : (s.threads t).prog = .cmd c k) (o : Outcome) :
    Reserve s (.run t o) := by
  intro _ hp'
  rw [hp] at hp'
  cases hp'
  exact absurd rfl hc

lemma reserve_of_ask {k : PoolAns q → Pooled PoolReply}
    (hp : (s.threads t).prog = .ask q k) (o : Outcome) : Reserve s (.run t o) := by
  intro _ hp'
  rw [hp] at hp'
  cases hp'

lemma poolPerform_gateway {c : Cmd} :
    poolPerform t (.gateway c) o w = none ↔ perform t c o w.gateway = none := by
  cases hx : perform t c o w.gateway <;> simp [poolPerform, hx]

lemma poolAnswer_auth {q : AuthQuery} :
    poolAnswer t (.auth q) o w = none ↔ o = .ok ∧ authReply t w.gateway w.auth q = none := by
  by_cases ho : o = .ok <;> simp [poolAnswer, authAnswer, ho]

lemma authReply_eq_none {q : AuthQuery} : authReply t gw a q = none ↔
      (∃ id, q = .challengeForUpdate id ∧ a.LockedByOther t (.challenge id)) ∨
      ∃ n p i, q = .registerPrincipalInstance n p i ∧
        a.LockedByOther t (.principalInstance n p) := by
  cases q with
  | challengeForUpdate | registerPrincipalInstance =>
    simp only [authReply]
    split
    · simp [*]
    · split <;> simp [*]
  | _ => simp [authReply]

lemma canMove_or_waits (hd : (s.threads t).prog.isDone = false) : CanMove s t ∨ Waits s t := by
  cases hp : (s.threads t).prog with
  | ret | fail =>
    rw [hp] at hd
    cases hd
  | cmd c k =>
    by_cases hb : ∀ o, poolPerform t c o s.world ≠ none
    · by_cases hc : c = .acquire true
      · subst hc
        exact .inr (.conn true k hp)
      · exact .inl ⟨(unblocked_cmd hp).2 hb, reserve_of_cmd hc hp⟩
    · push Not at hb
      obtain ⟨o, ho⟩ := hb
      cases c with
      | acquire b => exact .inr (.conn b k hp)
      | release => cases ho
      | auth => cases ho
      | gateway =>
        obtain ⟨n, l, e, rfl, -, ⟨t', tx⟩, hm, -⟩ := perform_eq_none (poolPerform_gateway.1 ho)
        exact .inr (.fence n l e k hp t' ⟨tx, get?_eq_some.2 hm⟩)
  | ask q k =>
    by_cases hb : ∀ o, poolAnswer t q o s.world ≠ none
    · exact .inl ⟨(unblocked_ask hp).2 hb, reserve_of_ask hp⟩
    · push Not at hb
      obtain ⟨o, ho⟩ := hb
      cases q with
      | gateway => cases o <;> cases ho
      | auth =>
        rcases authReply_eq_none.1 (poolAnswer_auth.1 ho).2 with ⟨id, rfl, hl⟩ |
          ⟨n, p, i, rfl, hl⟩
        · obtain ⟨t', tx, ht, hk⟩ := owns_of_locked hl
          exact .inr (.challenge id k hp t' ⟨tx, ht, hk⟩)
        · obtain ⟨t', tx, ht, hk⟩ := owns_of_locked hl
          exact .inr (.registration n p i k hp t' ⟨tx, ht, hk⟩)

lemma canMove_env (s : PoolState) (e : Env) (t : Nat) (h : CanMove s t) :
    CanMove (s.step pool (.env e)) t := by
  obtain ⟨hu, hr⟩ := h
  refine ⟨?_, hr⟩
  have ht : (e.run s.world.gateway).txs = s.world.gateway.txs := by
    cases e <;> rfl
  rcases hu.cases with ⟨c, _, hp, hb⟩ | ⟨q, _, hp, hb⟩
  · refine (unblocked_cmd (s := s.step pool (.env e)) hp).2 fun o ho => hb o ?_
    cases c with
    | acquire =>
      have hc : ¬ s.world.conns.length < maxConnections := by
        intro hc
        have ho' : (if s.world.conns.length < maxConnections then _ else none) = none := ho
        rw [if_pos hc] at ho'
        cases ho'
      exact if_neg hc
    | release => cases ho
    | auth => cases ho
    | gateway =>
      obtain ⟨n, l, b, rfl, rfl, hc⟩ := perform_eq_none (poolPerform_gateway.1 ho)
      refine poolPerform_gateway.2 ?_
      have hc' : s.world.gateway.Conflicts t (fenceKey n l) b := by
        unfold World.Conflicts at hc ⊢
        rw [← ht]
        exact hc
      simp [perform, hc']
  · refine (unblocked_ask (s := s.step pool (.env e)) hp).2 fun o ho => hb o ?_
    cases q with
    | gateway => cases o <;> cases ho
    | auth =>
      obtain ⟨rfl, hn⟩ := poolAnswer_auth.1 ho
      exact poolAnswer_auth.2 ⟨rfl, authReply_eq_none.2 (authReply_eq_none.1 hn)⟩

lemma not_borrowed_of_acquire (h : PoolRuns I calls w s)
    (hp : (s.threads t).prog = .cmd (.acquire b) k) : borrowed (s.threads t).hist = false := by
  cases b with
  | true => exact (onCmd_of_pool h hp).1
  | false => exact onCmd_of_pool h hp

lemma canMove_of_borrowed (h : PoolRuns I calls w s) (hi : PoolInv s)
    (ho : Owns s.world t (.conn false)) : CanMove s t := by
  obtain ⟨hd, hb⟩ := hi.owned t _ ho
  refine (canMove_or_waits hd).resolve_right fun hw => Bool.false_ne_true (Eq.trans ?_ hb)
  cases hw with
  | conn _ _ hp => exact (not_borrowed_of_acquire h hp).symm
  | fence _ _ _ _ hp => exact (onCmd_of_pool h hp).1.symm
  | challenge id k hp | registration n p i k hp => exact (onAsk_of_pool h hp).1.symm

section

variable (hi : PoolInv s) (hb : ∀ t, ¬ Owns s.world t (.conn false))
include hi hb

lemma free_of_not_borrowed : s.world.conns.length < maxConnections := by
  have ha : s.world.txConns = s.world.conns := by
    refine filter_eq_self.2 ?_
    rintro ⟨t, b⟩ hm
    cases b with
    | true => rfl
    | false => exact absurd hm (hb t)
  rw [← ha]
  exact hi.reserve

/-- If no connection is borrowed, a call at an `acquire` can move, but for the begin of a
transaction while the reserve is reached. -/
lemma canMove_of_acquire (hp : (s.threads t).prog = .cmd (.acquire b) k)
    (hr : b = true → s.world.txConns.length + 1 < maxConnections) : CanMove s t := by
  refine ⟨(unblocked_cmd hp).2 fun o ho => ?_, fun o k' hp' => ?_⟩
  · have ho' : (if s.world.conns.length < maxConnections then _ else none) = none := ho
    rw [if_pos (free_of_not_borrowed hi hb)] at ho'
    cases ho'
  · rw [hp] at hp'
    cases hp'
    exact hr rfl

end

lemma not_justified_nil (res : Res) : ¬ Justified [] res := by
  intro hj
  match res, hj with
  | .conn true, hj => exact not_did_nil _ hj
  | .conn false, hj => cases hj
  | .fence, hj => exact unlocked_nil.began hj
  | .row (.challenge id), hj => exact unlocked_nil.locked hj
  | .row (.principalInstance n p), hj => exact unlocked_nil.registered hj

/-- Among finitely many calls that are not all done, one can move. -/
lemma someone_moves (h : PoolRuns I calls w s) (hi : PoolInv s) {T : Finset Nat}
    (hT : ∀ t, t ∉ T → (s.threads t).hist = [])
    (hr : ∃ t ∈ T, (s.threads t).prog.isDone = false) : ∃ t ∈ T, CanMove s t := by
  by_contra hno
  have hin : ∀ t res, Owns s.world t res → t ∈ T := by
    intro t res ho
    by_contra ht
    have hj := (hi.owned t res ho).2
    rw [hT t ht] at hj
    exact not_justified_nil res hj
  have hs : ∀ t ∈ T, ¬ CanMove s t := fun t ht hm => hno ⟨t, ht, hm⟩
  have hbo : ∀ t, ¬ Owns s.world t (.conn false) := fun t ho =>
    hs t (hin t _ ho) (canMove_of_borrowed h hi ho)
  have ha : ∀ t ∈ T, ∀ b k, (s.threads t).prog = .cmd (.acquire b) k → b = true := by
    intro t ht b k hp
    by_contra hb
    exact hs t ht (canMove_of_acquire hi hbo hp fun he => absurd he hb)
  have hwa : ∀ t res, Owns s.world t res → Waits s t ∧ Justified (s.threads t).hist res := by
    intro t res ho
    obtain ⟨hd, hj⟩ := hi.owned t res ho
    exact ⟨(canMove_or_waits hd).resolve_left (hs t (hin t res ho)), hj⟩
  -- the holder of an instance row waits for nothing
  have hn : ∀ t n p, ¬ Owns s.world t (.row (.principalInstance n p)) := by
    intro t n p ho
    obtain ⟨hw, hj⟩ := hwa t _ ho
    cases hw with
    | conn b k hp =>
      cases ha t (hin t _ ho) b k hp
      exact (onCmd_of_pool h hp).2.2.registered hj
    | fence _ _ _ _ hp => exact (onCmd_of_pool h hp).2.registered hj
    | challenge _ _ hp => exact (onAsk_of_pool h hp).2.registered hj
    | registration _ _ _ _ hp => exact (onAsk_of_pool h hp).2.2 hj
  -- the holder of a challenge waits for an instance row at most
  have hc : ∀ t id, ¬ Owns s.world t (.row (.challenge id)) := by
    intro t id ho
    obtain ⟨hw, hj⟩ := hwa t _ ho
    cases hw with
    | conn b k hp =>
      cases ha t (hin t _ ho) b k hp
      exact (onCmd_of_pool h hp).2.2.locked hj
    | fence _ _ _ _ hp => exact (onCmd_of_pool h hp).2.locked hj
    | challenge _ _ hp => exact (onAsk_of_pool h hp).2.locked hj
    | registration n p _ _ _ t' ho' => exact hn t' n p ho'
  -- the holder of a fence waits for no lock
  have hfe : ∀ t, ¬ Owns s.world t .fence := by
    intro t ho
    obtain ⟨hw, hj⟩ := hwa t _ ho
    cases hw with
    | conn b k hp =>
      cases ha t (hin t _ ho) b k hp
      exact (onCmd_of_pool h hp).2.2.began hj
    | fence _ _ _ _ hp => exact (onCmd_of_pool h hp).2.began hj
    | challenge _ _ hp => exact (onAsk_of_pool h hp).2.began hj
    | registration _ _ _ _ hp => exact (onAsk_of_pool h hp).2.1 hj
  have hon : ∀ t ∈ T, (s.threads t).prog.isDone = false →
      ∃ k, (s.threads t).prog = .cmd (.acquire true) k := by
    intro t ht hd
    cases (canMove_or_waits hd).resolve_left (hs t ht) with
    | conn b k hp =>
      cases ha t ht b k hp
      exact ⟨k, hp⟩
    | fence _ _ _ _ _ t' ho => exact absurd ho (hfe t')
    | challenge id _ _ t' ho => exact absurd ho (hc t' id)
    | registration n p _ _ _ t' ho => exact absurd ho (hn t' n p)
  -- so the reserve is reached, and a call that keeps a connection is at an `acquire` again
  obtain ⟨t, ht, hd⟩ := hr
  obtain ⟨_, hp⟩ := hon t ht hd
  have hf : maxConnections ≤ s.world.txConns.length + 1 := by
    by_contra hlt
    exact hs t ht (canMove_of_acquire hi hbo hp fun _ => by omega)
  have hpos : 0 < s.world.txConns.length := by
    unfold maxConnections at hf
    omega
  obtain ⟨⟨t', _⟩, hm⟩ := exists_mem_of_length_pos hpos
  obtain ⟨hm, hb⟩ := mem_filter.1 hm
  have ho : Owns s.world t' (.conn true) := by
    cases hb
    exact hm
  obtain ⟨hd', hj⟩ := hi.owned t' _ ho
  obtain ⟨_, hp'⟩ := hon t' (hin t' _ ho) hd'
  exact (onCmd_of_pool h hp').2.1 hj

end Invariant

/-- In every run in which a transaction is begun only while a further connection is left, on any
number of publishes and session proofs: never is every connection held by a call that waits for a
further one, and every fair schedule of the calls that have started, with any others, brings them
all to their ends, whatever the database and the broker answer. -/
theorem reserve_completes (I : Instance) (calls : Nat → PoolCall) (w : PoolWorld) (hw : Idle w)
    (s : PoolState) (h : Reaches pool Reserve (poolInitial I calls w) s) :
    ¬ Starved s ∧ ∀ (T : Finset Nat) (sched : Nat → Action Env),
        (∀ t, t ∉ T → (s.threads t).hist = []) → Fair T sched →
        ∃ n, ∀ t ∈ T, ((s.scheduled pool Reserve sched n).threads t).prog.isDone = true := by
  have hi := inv_of_pool hw h
  constructor
  · rintro ⟨hl, ha⟩
    have hbo : ∀ t, ¬ Owns s.world t (.conn false) := by
      intro t ho
      obtain ⟨_, _, hp⟩ := ha (t, false) ho
      exact Bool.false_ne_true ((not_borrowed_of_acquire h hp).symm.trans (hi.owned t _ ho).2)
    exact absurd hl (Nat.ne_of_lt (free_of_not_borrowed hi hbo))
  · intro _ _ hT hf
    exact Reaches.completes
      (fun s hs he hr => someone_moves hs (inv_of_pool hw hs) he hr) canMove_env h hT hf

/-! ## Twenty publishes -/

namespace Starving

def inst : Instance where
  wattswarm := wattswarm [policyTuned "e"]
  crates := ⟨some, fun _ _ _ => some [], fun _ _ _ => true⟩
  config := config
  sessionTtlMs := 900000

def publishCall : PoolCall :=
  .publish ⟨"n", "g"⟩
    ⟨"1", 1, "e", ⟨"n", ⟨.global, .events, "ws.global.PolicyTuned"⟩⟩, .event, []⟩

def proofCall : PoolCall := .proveSession ⟨"n", "c", 1, [⟨"g", "g", none⟩], [⟨"g", "signature"⟩]⟩

def world : PoolWorld where
  gateway := Sample.world
  auth := ⟨⟨Table.ofList [("c", ⟨"n", [⟨"g", "g", none⟩], "nonce", 100, none⟩)], .empty, .empty,
    .empty, []⟩, .empty, 0⟩
  conns := []

/-- Twenty calls, each up to the first statement after its fence. -/
def fenced : PoolState :=
  (poolInitial inst (fun _ => publishCall) world).runActions pool
    ((List.range 20).flatMap fun t => steps t 5)

def acquires : Pooled PoolReply → Bool
  | .cmd (.acquire _) _ => true
  | _ => false

lemma acquires_eq {p : Pooled PoolReply} (h : acquires p = true) :
    ∃ tx k, p = .cmd (.acquire tx) k := by
  unfold acquires at h
  split at h
  · exact ⟨_, _, rfl⟩
  · cases h

/-- A publish holds its fence, and a session proof its challenge. -/
def mixed (i : Nat) : PoolState :=
  (poolInitial inst (fun t => if t = 0 then publishCall else proofCall) world).runActions pool
    ((steps 0 5 ++ steps 1 3).take i)

set_option maxRecDepth 100000

lemma mixed_reserve : ∀ i < 9, (mixed i).world.txConns.length + 1 < maxConnections := by
  decide

lemma mixed_reaches : Reaches pool Reserve
    (poolInitial inst (fun t => if t = 0 then publishCall else proofCall) world) (mixed 8) := by
  refine reaches_of_take (steps 0 5 ++ steps 1 3) _ fun i hi => ?_
  have hr := mixed_reserve i (by simp [steps] at hi; omega)
  generalize (steps 0 5 ++ steps 1 3)[i] = a
  cases a with
  | run => exact fun _ _ => hr
  | env => trivial

lemma mixed_rest (t : Nat) (ht : t ∉ ({0, 1} : Finset Nat)) :
    ((mixed 8).threads t).hist = [] := by
  simp only [Finset.mem_insert, Finset.mem_singleton, not_or] at ht
  have hs : ∀ (acts : List (Action Env)) (s : PoolState),
      (∀ a ∈ acts, a = .run 0 .ok ∨ a = .run 1 .ok) →
      (s.runActions pool acts).threads t = s.threads t := by
    intro acts
    induction acts with
    | nil => exact fun _ _ => rfl
    | cons a _ ih =>
      intro _ hc
      refine (ih _ fun a' ha' => hc a' (mem_cons_of_mem a ha')).trans ?_
      rcases hc a mem_cons_self with rfl | rfl
      · exact step_other ht.1 .ok
      · exact step_other ht.2 .ok
  unfold mixed
  rw [hs]
  · rfl
  · intro _ ha
    have hm := mem_of_mem_take ha
    simp only [steps, mem_append, mem_replicate] at hm
    rcases hm with ⟨-, hm⟩ | ⟨-, hm⟩
    · exact .inl hm
    · exact .inr hm

def inTurn (n : Nat) : Action Env := .run (n % 2) .ok

lemma inTurn_fair : Fair {0, 1} inTurn := by
  constructor
  · intro n t _ h
    cases h
    have hlt : n % 2 < 2 := Nat.mod_lt n (by decide)
    simp only [Finset.mem_insert, Finset.mem_singleton]
    omega
  · intro t ht n
    have ht' : t < 2 := by
      simp only [Finset.mem_insert, Finset.mem_singleton] at ht
      omega
    refine ⟨n + t, .ok, ?_⟩
    unfold inTurn
    rw [show (n + (n + t)) % 2 = t by omega]

end Starving

open Starving in
/-- Twenty ordinary publishes hold their fences and wait for a connection. -/
theorem publishes_starve :
    Reaches pool anyStep (poolInitial inst (fun _ => publishCall) world) fenced ∧
      Starved fenced := by
  refine ⟨reaches_runActions _ _, by decide +kernel, fun x hx => acquires_eq ?_⟩
  have ha : ∀ x ∈ fenced.world.conns, acquires (fenced.threads x.1).prog = true := by
    decide +kernel
  exact ha x hx

open Starving in
theorem reserve_completes_mixed :
    Owns (mixed 8).world 0 .fence ∧ Owns (mixed 8).world 1 (.row (.challenge "c")) ∧
      ¬ Starved (mixed 8) ∧ ∃ n, ∀ t ∈ ({0, 1} : Finset Nat),
        (((mixed 8).scheduled pool Reserve inTurn n).threads t).prog.isDone = true := by
  obtain ⟨hs, hd⟩ := reserve_completes inst
    (fun t => if t = 0 then publishCall else proofCall) world ⟨rfl, rfl, rfl⟩ (mixed 8)
    mixed_reaches
  have hf : ((mixed 8).world.gateway.txs.get? 0).isSome = true := by decide
  have hr : ((mixed 8).world.auth.txs.get? 1).map AuthTx.locks = some [.challenge "c"] := by
    decide
  obtain ⟨tx, ht, hl⟩ := map_eq_some_iff.1 hr
  exact ⟨isSome_iff_exists.1 hf, ⟨tx, ht, by rw [hl]; simp⟩, hs,
    hd {0, 1} inTurn mixed_rest inTurn_fair⟩

end WattGateway.Message
