import WattGateway.Lib.Progress
import WattGateway.Message.Drained
import WattGateway.Message.Publish

/-!
# Dead letters become gaps

A letter whose header names a mailbox is counted as a gap of the mailbox's principal once the drains
get to it: before that only the letters queued before it are taken (`Waiting`), and the drain that
takes it counts it before it acknowledges it (`Reached`).
-/

namespace WattGateway.Message.DeadLetters

open Prog Sys List Sample

variable {place : DlqWorld → Letter → Nat} {l : Letter} {rest : List Letter} {t : Nat}

/-- The message carries an envelope, and its header names the mailbox of a principal in the
envelope's network; the id of the principal has no dot. -/
def Named (O : Outside) (message : DeadMessage) (lost : Lost) (p : String) : Prop :=
  ∃ envelope cls, O.fromSlice message.data = some envelope ∧ lostOf envelope = lost ∧
    message.firstDeathQueue.bind amqpString = some (queueName O.wattswarm lost.networkId p cls) ∧
    '.' ∉ p.toList

lemma Named.mailbox {O : Outside} (hhex : ∀ d, '.' ∉ (O.wattswarm.hex d).toList)
    {message : DeadMessage} {lost : Lost} {p : String} (h : Named O message lost p) :
    mailbox O message = .ok (lost, p) := by
  obtain ⟨envelope, cls, hd, rfl, hq, ho⟩ := h
  have hn := principalFromQueueName_queueName O.wattswarm hhex (lostOf envelope).networkId p cls
  rw [if_neg ho] at hn
  unfold DeadLetters.mailbox
  rw [hd, hq]
  simp only [orFail, Bind.bind, Except.bind, hn]
  rfl

/-- No request fails, and every row can count one letter more. -/
def Smooth (s : DrainState) (a : Action Env) : Prop :=
  (∀ t o, a = .run t o → o = .ok) ∧ Countable s.world

section Smooth

variable {O : Outside} {limits : Nat → Nat} {now : Nat} {s s' : DrainState}

lemma fails_run_drains (h : Reachable O place limits now s)
    (hr : (s.threads t).prog.isDone = false) :
    (s.threads t).prog.FailsWhen (Unnamed O) (s.threads t).hist :=
  Reaches.failsWhen_running (F := fun _ => Unnamed O) (fun t => drain_fails O (limits t)) h hr

/-- A call with a letter of a mailbox in hand, or with none, does not fail and puts nothing back. -/
lemma settle_of_named {m : DrainState} {p : Drain Nat} {h : Hist Cmd Query Ans}
    (ht : m.threads t = ⟨p, h, none⟩) (hm : Matches O m.world t h) (ha : p.FailsWhen (Unnamed O) h)
    (hf : p.Follows (drainRule O (limits t)) (fun _ h => inHand h = none ∧
      (gets h = limits t ∨ h.Heard .basicGet none)) h)
    (hn : ∀ l, m.world.held.get? t = some l → ∃ x, mailbox O l.message = .ok x) :
    (m.settle (drains place) t).world = m.world ∧ ∀ e, p ≠ .fail e := by
  cases p with
  | ret =>
    rw [settle_of_done (by rw [ht]; rfl)]
    refine ⟨?_, by simp⟩
    show finish place t m.world = m.world
    simp only [finish, hm.free hf.1]
  | fail =>
    obtain ⟨_, _, hh, he⟩ := ha
    obtain ⟨l, hl, rfl⟩ := hm.held hh
    obtain ⟨_, hx⟩ := hn l hl
    rw [hx] at he
    cases he
  | cmd | ask =>
    rw [settle_of_not_done (by rw [ht]; rfl)]
    exact ⟨rfl, by simp⟩

variable {w : DlqWorld}

lemma cmd_smooth (h : Reachable O place limits now s) {c : Cmd} {k : Drain Nat}
    (hp : (s.threads t).prog = .cmd c k) (hm : Matches O s.world t (s.threads t).hist)
    (hx : Performed O t s.world c (.ok ()) w)
    (hn : ∀ l, w.held.get? t = some l → ∃ x, mailbox O l.message = .ok x) :
    ((s.afterCmd (drains place) t c k (.ok ()) w).settle (drains place) t).world = w ∧
      ∀ e, k ≠ .fail e := by
  have ha := fails_run_drains h (t := t) (by rw [hp]; rfl)
  have hf := follows_run_drains h t
  rw [hp] at ha hf
  exact settle_of_named (m := s.advance t k (_, .did c) w) advance_self (hx.matches hm _) (ha _)
    (hf.2 _) hn

variable {q : Query}

variable {k : Ans q → Drain Nat} {x : Ans q}

lemma ask_smooth (h : Reachable O place limits now s)
    (hp : (s.threads t).prog = .ask q k) (hm : Matches O s.world t (s.threads t).hist)
    (hx : Asked t s.world q (.ok x) w)
    (hn : ∀ l, w.held.get? t = some l → ∃ x, mailbox O l.message = .ok x) :
    ((s.afterAsk (drains place) t q k (.ok x) w).settle (drains place) t).world = w ∧
      ∀ e, k x ≠ .fail e := by
  have ha := fails_run_drains h (t := t) (by rw [hp]; rfl)
  have hf := follows_run_drains h t
  rw [hp] at ha hf
  exact settle_of_named (m := s.advance t (k x) (_, .heard q x) w) advance_self (hx.matches hm _)
    (ha _ _) (hf.2 _ _) hn

variable {a : Action Env}

lemma Moved.grows (hx : Moved O place s a s') : Grows s.world s'.world := by
  cases hx with
  | blocked => exact .refl _
  | env e => cases e <;> exact .of_eq rfl
  | cmd _ _ _ _ _ _ _ _ hx =>
    intro key row hr
    rw [settle_gaps, world_afterCmd]
    exact hx.grows key row hr
  | ask _ _ _ _ _ _ _ _ hx =>
    refine .of_eq ?_
    rw [settle_gaps, world_afterAsk, hx.gaps]

/-! ## A letter that has been taken -/

/-- The letter is in hand, or settled. -/
def Reached (O : Outside) (m : Letter) (w : DlqWorld) : Prop :=
  (∃ t, w.held.get? t = some m) ∨ Settled O w m

variable {m : Letter}

lemma Reached.moved (hbox : ∃ x, mailbox O m.message = .ok x) (h : Reachable O place limits now s)
    (ha : Smooth s a) (hx : Moved O place s a s') (hs : Reached O m s.world) :
    Reached O m s'.world := by
  have hg := hx.grows
  rcases hs with ⟨t₀, ht₀⟩ | he
  swap
  · exact .inr (he.grows hg)
  cases hx with
  | blocked => exact .inl ⟨t₀, ht₀⟩
  | env e => cases e <;> exact .inl ⟨t₀, ht₀⟩
  | cmd t o _ _ _ _ hp hm hx hok =>
    obtain rfl := ha.1 t o rfl
    obtain rfl := hok rfl ha.2
    by_cases ht : t₀ = t
    · subst ht
      cases hx with
      | inserted lost p gapId v l _ hl hbox' =>
        have hsa := cmd_smooth h hp hm (.inserted lost p gapId v l _ hl hbox') fun l' hl' => by
          rw [show s.world.held.get? t₀ = some l' from hl'] at ht₀
          cases ht₀
          exact hbox
        rw [hsa.1]
        exact .inl ⟨t₀, ht₀⟩
      | acked _ _ hl he =>
        rw [hl] at ht₀
        cases ht₀
        exact .inr (he.grows hg)
    · refine .inl ⟨t₀, ?_⟩
      rw [settle_held, if_neg fun hx => ht hx.1, world_afterCmd, hx.others ht]
      exact ht₀
  | ask t o _ _ _ w hp hm hx hok =>
    obtain rfl := ha.1 t o rfl
    obtain ⟨_, rfl⟩ := hok rfl
    by_cases ht : t₀ = t
    · subst ht
      have hk : w.held.get? t₀ = some m := by
        cases hx with
        | took _ _ _ _ hf =>
          rw [hf] at ht₀
          cases ht₀
        | _ => exact ht₀
      have hsa := ask_smooth h hp hm hx fun l' hl' => by
        rw [hk] at hl'
        cases hl'
        exact hbox
      rw [hsa.1]
      exact .inl ⟨t₀, hk⟩
    · refine .inl ⟨t₀, ?_⟩
      rw [settle_held, if_neg fun hx => ht hx.1, world_afterAsk, hx.others ht]
      exact ht₀

/-! ## A letter that waits -/

def taken (T : Finset Nat) (s : DrainState) : Nat := ∑ t ∈ T, gets (s.threads t).hist

/-- The letter `m` waits in the queue behind some of the letters `before`, of which the calls of `T`
have taken no more than are gone. -/
structure Waiting (T : Finset Nat) (before : List Letter) (m : Letter) (s : DrainState) : Prop where
  queue : ∃ k rest, k ≤ before.length ∧ s.world.ready = before.drop k ++ m :: rest ∧ taken T s ≤ k
  hands : ∀ t l, s.world.held.get? t = some l → l ∈ before
  going : ∀ t ∈ T, (∀ e, (s.threads t).prog ≠ .fail e) ∧ ¬ (s.threads t).hist.Heard .basicGet none

variable {T : Finset Nat}

lemma taken_le {n : Nat} (ho : ∀ t' ≠ t, s'.threads t' = s.threads t')
    (hs : gets (s'.threads t).hist ≤ gets (s.threads t).hist + n) : taken T s' ≤ taken T s + n := by
  have hle : ∀ t' ∈ T, gets (s'.threads t').hist ≤
      gets (s.threads t').hist + if t' = t then n else 0 := by
    intro t' _
    by_cases ht : t' = t
    · rw [if_pos ht, ht]
      exact hs
    · rw [if_neg ht, ho t' ht]
      exact Nat.le_refl _
  unfold taken
  refine (Finset.sum_le_sum hle).trans ?_
  rw [Finset.sum_add_distrib, Finset.sum_ite_eq']
  split <;> omega

variable {before : List Letter}

lemma Waiting.keep (hs : Waiting T before m s) (hot : ∀ t' ≠ t, s'.threads t' = s.threads t')
    (hre : s'.world.ready = s.world.ready)
    (hha : ∀ t l, s'.world.held.get? t = some l → l ∈ before)
    (hge : gets (s'.threads t).hist = gets (s.threads t).hist)
    (hfa : ∀ e, (s'.threads t).prog ≠ .fail e)
    (hhe : (s'.threads t).hist.Heard .basicGet none → (s.threads t).hist.Heard .basicGet none) :
    Waiting T before m s' := by
  obtain ⟨k, tail, hk, hq, ha⟩ := hs.queue
  refine ⟨⟨k, tail, hk, by rw [hre, hq], ?_⟩, hha, fun t' ht' => ?_⟩
  · exact (taken_le hot (by rw [hge]; exact Nat.le_add_right _ 0)).trans ha
  · by_cases ht : t' = t
    · subst ht
      exact ⟨hfa, fun hh => (hs.going t' ht').2 (hhe hh)⟩
    · rw [hot t' ht]
      exact hs.going t' ht'

lemma Waiting.cmd (hgood : ∀ l ∈ before, ∃ x, mailbox O l.message = .ok x)
    (h : Reachable O place limits now s) {c : Cmd} {k : Drain Nat}
    (hp : (s.threads t).prog = .cmd c k) (hm : Matches O s.world t (s.threads t).hist)
    (hx : Performed O t s.world c (.ok ()) w) (hs : Waiting T before m s) :
    Waiting T before m ((s.afterCmd (drains place) t c k (.ok ()) w).settle (drains place) t) := by
  have hr : w.ready = s.world.ready := by cases hx <;> rfl
  have hh : ∀ t' l, w.held.get? t' = some l → l ∈ before := by
    intro t' l hl
    cases hx with
    | inserted => exact hs.hands t' l hl
    | acked =>
      replace hl := (get?_drop s.world t t').symm.trans hl
      split at hl
      · cases hl
      · exact hs.hands t' l hl
  obtain ⟨ha, hg⟩ := cmd_smooth h hp hm hx fun l hl => hgood l (hh t l hl)
  refine hs.keep (t := t) (fun t' ht => ?_) (by rw [ha, hr]) (by rw [ha]; exact hh) ?_ ?_ ?_
  · rw [settle_ne ht, afterCmd_ne ht]
  · rw [settle_hist]
    simp [afterCmd, gets]
  · rw [settle_prog]
    simpa [afterCmd] using hg
  · rw [settle_hist]
    simp [afterCmd]

lemma queue_cons {rest tail : List Letter} {k : Nat} (h : before.drop k ++ m :: tail = l :: rest) :
    (k < before.length ∧ l ∈ before ∧ rest = before.drop (k + 1) ++ m :: tail) ∨ l = m := by
  by_cases hk : k < before.length
  · rw [drop_eq_getElem_cons hk, cons_append] at h
    obtain ⟨rfl, rfl⟩ := List.cons.inj h
    exact .inl ⟨hk, getElem_mem hk, rfl⟩
  · rw [drop_eq_nil_of_le (Nat.le_of_not_lt hk), nil_append] at h
    exact .inr (List.cons.inj h).1.symm

lemma gets_heard (hq : q ≠ .basicGet) (τ : Nat) (x : Ans q) (hist : DrainHist) :
    gets ((τ, .heard q x) :: hist) = gets hist := by
  cases q with
  | basicGet => exact absurd rfl hq
  | _ => rfl

section

variable (hgood : ∀ l ∈ before, ∃ x, mailbox O l.message = .ok x)
include hgood

lemma Waiting.query (h : Reachable O place limits now s)
    (hq : q ≠ .basicGet) (hp : (s.threads t).prog = .ask q k)
    (hm : Matches O s.world t (s.threads t).hist) (hx : Asked t s.world q (.ok x) s.world)
    (hs : Waiting T before m s) : Waiting T before m
      ((s.afterAsk (drains place) t q k (.ok x) s.world).settle (drains place) t) := by
  obtain ⟨ha, hg⟩ := ask_smooth h hp hm hx fun l hl => hgood l (hs.hands t l hl)
  refine hs.keep (t := t) (fun t' ht => ?_) (by rw [ha]) (by rw [ha]; exact hs.hands) ?_ ?_ ?_
  · rw [settle_ne ht, afterAsk_ne ht]
  · rw [settle_hist]
    simp [afterAsk, gets_heard hq]
  · rw [settle_prog]
    simpa [afterAsk] using hg
  · rw [settle_hist]
    simp only [afterAsk, advance_self]
    intro hh
    rcases hh.of_cons with heq | hh
    · cases heq
      exact absurd rfl hq
    · exact hh

section

variable (hbox : ∃ x, mailbox O m.message = .ok x)
include hbox

lemma Waiting.take (h : Reachable O place limits now s) {k : Option DeadMessage → Drain Nat}
    (hp : (s.threads t).prog = .ask .basicGet k)
    (hm : Matches O s.world t (s.threads t).hist) (hrea : s.world.ready = l :: rest)
    (hx : Asked t s.world .basicGet (.ok (some l.message)) (s.world.take t l rest))
    (hs : Waiting T before m s) :
    let s' := (s.afterAsk (drains place) t .basicGet k (.ok (some l.message))
      (s.world.take t l rest)).settle (drains place) t
    Waiting T before m s' ∨ Reached O m s'.world := by
  intro _
  obtain ⟨k₀, tail, _, hq, hta⟩ := hs.queue
  have he : (s.world.take t l rest).held.get? t = some l := (get?_take ..).trans (if_pos rfl)
  have hma : ∃ x, mailbox O l.message = .ok x := by
    rcases queue_cons (hq.symm.trans hrea) with ⟨-, hl, -⟩ | rfl
    · exact hgood l hl
    · exact hbox
  obtain ⟨ha, hg⟩ := ask_smooth h hp hm hx fun l' hl' => by
    rw [he] at hl'
    cases hl'
    exact hma
  rcases queue_cons (hq.symm.trans hrea) with ⟨hlt, hl, hr⟩ | rfl
  · refine .inl ⟨⟨k₀ + 1, tail, hlt, by rw [ha]; exact hr, ?_⟩, fun t' l' hl' => ?_,
      fun t' ht' => ?_⟩
    · refine (taken_le (t := t) (n := 1) (fun t' ht => ?_) ?_).trans (Nat.add_le_add_right hta 1)
      · rw [settle_ne ht, afterAsk_ne ht]
      · rw [settle_hist]
        simp [afterAsk, gets]
    · rw [ha, get?_take] at hl'
      split at hl'
      · cases hl'
        exact hl
      · exact hs.hands t' l' hl'
    · rw [settle_prog, settle_hist]
      by_cases ht : t' = t
      · subst ht
        simp only [afterAsk, advance_self]
        refine ⟨hg, fun hh => ?_⟩
        rcases hh.of_cons with heq | hh
        · cases heq
        · exact (hs.going t' ht').2 hh
      · rw [afterAsk_ne ht]
        exact hs.going t' ht'
  · exact .inr (Or.inl ⟨t, by rw [ha, he]⟩)

lemma Waiting.moved
    (h : Reachable O place limits now s) (ha : Smooth s a) (hx : Moved O place s a s')
    (hs : Waiting T before m s) : Waiting T before m s' ∨ Reached O m s'.world := by
  cases hx with
  | blocked => exact .inl hs
  | env e =>
    cases e with
    | tick => exact .inl ⟨hs.queue, hs.hands, hs.going⟩
    | arrive message =>
      obtain ⟨k₀, tail, hk₀, he, ht⟩ := hs.queue
      refine .inl ⟨⟨k₀, tail ++ [⟨s.world.arrived.length, message⟩], hk₀, ?_, ht⟩, hs.hands,
        hs.going⟩
      show s.world.ready ++ _ = _
      rw [he, append_assoc, cons_append]
  | cmd t o _ _ _ _ hp hm hx hok =>
    obtain rfl := ha.1 t o rfl
    obtain rfl := hok rfl ha.2
    exact .inl (hs.cmd hgood h hp hm hx)
  | ask t o _ _ _ _ hp hm hx hok =>
    obtain rfl := ha.1 t o rfl
    obtain ⟨x, rfl⟩ := hok rfl
    cases hx with
    | empty he =>
      obtain ⟨_, _, -, hq, -⟩ := hs.queue
      rw [he] at hq
      simp at hq
    | took l rest _ he hf hr =>
      obtain rfl := hr x rfl
      exact hs.take hgood hbox h hp hm he (.took l rest _ he hf hr)
    | opened => exact .inl (hs.query hgood h nofun hp hm .opened)
    | clock => exact .inl (hs.query hgood h nofun hp hm .clock)
    | gapClock => exact .inl (hs.query hgood h nofun hp hm .gapClock)

lemma waiting_or_reached {s₀ : DrainState}
    (h₀ : Reachable O place limits now s₀) (hs : Waiting T before m s₀)
    (h : Reaches (drains place) Smooth s₀ s) : Waiting T before m s ∨ Reached O m s.world := by
  induction h with
  | refl => exact .inl hs
  | @step s a hr ha ih =>
    have he : Reachable O place limits now s := h₀.trans hr.any
    rcases ih with hw | hr
    · exact hw.moved hgood hbox he ha (moved_run he a)
    · exact .inr (hr.moved hbox he ha (moved_run he a))

end

end

end Smooth

lemma unblocked_drain {s : DrainState}
    (hr : (s.threads t).prog.isDone = false) : s.Unblocked (drains place) t := by
  cases hp : (s.threads t).prog with
  | ret | fail => rw [hp] at hr; cases hr
  | cmd c =>
    refine (unblocked_cmd hp).2 fun o hno => ?_
    replace hno : perform t c o s.world = none := hno
    cases c with
    | ack => cases hl : s.world.held.get? t <;> cases o <;> simp [perform, hl] at hno
    | gap =>
      simp only [perform, Option.map_eq_none_iff] at hno
      unfold Gaps.perform at hno
      split at hno <;> first | cases hno | (split at hno <;> cases hno)
  | ask q =>
    refine (unblocked_ask hp).2 fun o hno => ?_
    replace hno : answer t q o s.world = none := hno
    cases q with
    | createChannel | gap => cases o <;> cases hno
    | basicGet => cases hl : s.world.ready <;> cases o <;> simp [answer, hl] at hno
    | clock => cases hno

/-- A mailbox name leads back to its principal if the principal's id has no dot. No dead
letter is lost: it is queued, in hand, or acknowledged, and then counted as a gap or the mailbox
owner's own. Drains end; and a letter that names a mailbox, queued behind letters that do, is counted
or its owner's own once drains that take enough letters have ended, in whatever order and whatever
has happened before. -/
theorem mailboxes_lead_back_and_letters_count (O : Outside) (place : DlqWorld → Letter → Nat)
    (hhex : ∀ d, '.' ∉ (O.wattswarm.hex d).toList) :
    (∀ n p cls, '.' ∉ p.toList →
      principalFromQueueName O.wattswarm (queueName O.wattswarm n p cls) n = some p) ∧
    (∀ limits now s, Reachable O place limits now s → ∀ l ∈ s.world.arrived,
      l ∈ s.world.ready ∨ (∃ t, s.world.held.get? t = some l) ∨ Settled O s.world l) ∧
    (∀ (s : DrainState) t, ∃ k,
      ((s.runActions (drains place) (List.replicate k (.run t .ok))).threads t).prog.isDone = true) ∧
    ∀ limits now s₀ s (T : Finset Nat) before m after lost p, Reachable O place limits now s₀ →
      (∀ t, s₀.world.held.get? t = none) → s₀.world.ready = before ++ m :: after →
      (∀ l ∈ before, ∃ lost p, Named O l.message lost p) → Named O m.message lost p →
      (∀ t ∈ T, s₀.threads t = (initial O limits now).threads t) →
      Reaches (drains place) Smooth s₀ s → (∀ t ∈ T, (s.threads t).prog.isDone = true) →
      before.length < ∑ t ∈ T, limits t → (∀ t, s.world.held.get? t = none) →
      lost.sourcePrincipalId = some p ∨ ∃ gapId row,
        s.world.gaps.gaps.get? (lost.networkId, p, gapId) = some row ∧ m.seq ∈ row.letters := by
  refine ⟨fun n p cls hdot => ?_, fun limits now s h l hl => ?_, fun s t => ?_, ?_⟩
  · rw [principalFromQueueName_queueName _ hhex, if_neg hdot]
  · have hi := lettersInv_run h
    exact (hi.present l hl).imp_right (Or.imp_right (hi.settled l))
  · obtain ⟨k, -, hk⟩ := completes_alone (s := s) (P := fun _ => True) .ok
      (fun _ _ => trivial) (fun s _ hu => (unblocked_drain hu).moves .ok) trivial
    exact ⟨k, hk⟩
  · intro limits now s₀ s T before m after _ _ h₀ hq₀ ha hb hm hf h hdo _ hq
    have hbox := hm.mailbox hhex
    have hgood : ∀ l ∈ before, ∃ x, mailbox O l.message = .ok x := by
      intro l hl
      obtain ⟨lost', p', hl'⟩ := hb l hl
      exact ⟨_, hl'.mailbox hhex⟩
    have hwa : Waiting T before m s₀ := by
      have hh : ∀ t ∈ T, (s₀.threads t).hist = [] := fun t ht => by rw [hf t ht]; rfl
      refine ⟨⟨0, after, Nat.zero_le _, ha, ?_⟩, fun t l hl => ?_, fun t ht => ?_⟩
      · exact Nat.le_of_eq (Finset.sum_eq_zero fun t ht => by rw [hh t ht]; rfl)
      · rw [hq₀ t] at hl
        cases hl
      · rw [hh t ht, hf t ht]
        exact ⟨nofun, by simp [Hist.Heard]⟩
    have hre : Reachable O place limits now s := h₀.trans h.any
    rcases waiting_or_reached hgood ⟨_, hbox⟩ h₀ hwa h with hw | ⟨t, ht⟩ | hs
    · -- the drains have taken as many letters as they may
      obtain ⟨_, _, _, -, _⟩ := hw.queue
      have hli : ∀ t ∈ T, limits t ≤ gets (s.threads t).hist := by
        intro t ht
        cases hp : (s.threads t).prog with
        | ret =>
          rcases ((follows_run_drains hre).ret hp).2 with hg | he
          · exact Nat.le_of_eq hg.symm
          · exact absurd he (hw.going t ht).2
        | fail e => exact absurd hp ((hw.going t ht).1 e)
        | cmd | ask => have hd := hdo t ht; rw [hp] at hd; cases hd
      have hsum : ∑ t ∈ T, limits t ≤ taken T s := Finset.sum_le_sum hli
      omega
    · rw [hq t] at ht
      cases ht
    · rcases hs with ⟨_, _, hbox', ho⟩ | ⟨_, _, gapId, row, hbox', hr, hmem⟩
      · rw [hbox] at hbox'
        cases hbox'
        exact .inl ho
      · rw [hbox] at hbox'
        cases hbox'
        exact .inr ⟨gapId, row, hr, hmem⟩

namespace Letterbox

def crates : Wattswarm := { wattswarm [] with hex := fun _ => "digest" }

def outside : Outside where
  wattswarm := crates
  gaps := ⟨fun _ => 7, some⟩
  fromSlice data := if data = [] then none else
    some (.record ⟨"n", "g", "r", ⟨.node "p", .messages, "a"⟩, [], none, .interactive, 1, 0, none⟩)

def expired (principal : String) : DeadMessage :=
  ⟨[1], some (.longString (some "expired")),
    some (.longString (some (queueName crates "n" principal .interactive)))⟩

def empty : DeadMessage := ⟨[], none, none⟩

/-- A broker that puts a letter back where it was. -/
def front : DlqWorld → Letter → Nat := fun _ _ => 0

def queued (messages : List DeadMessage) : DrainState :=
  (initial outside (fun _ => 128) 0).runActions (drains front) (messages.map fun m => .env (.arrive m))

def drained (messages : List DeadMessage) (k : Nat) : DrainState :=
  (queued messages).runActions (drains front) (List.replicate k (.run 0 .ok))

lemma hex_plain (d : Digest) : '.' ∉ (outside.wattswarm.hex d).toList := by
  show '.' ∉ "digest".toList
  decide

lemma named (p : String) (hp : '.' ∉ p.toList) : Named outside (expired p)
      ⟨"n", some "g", ⟨.node "p", .messages, "a"⟩, .interactive, 1⟩ p :=
  ⟨_, .interactive, rfl, rfl, rfl, hp⟩

lemma drained_smooth (messages : List DeadMessage) (k : Nat)
    (h : ∀ i < k, ∀ x ∈ (drained messages i).world.gaps.gaps.rows, x.2.approximateCount < i64Max) :
    Reaches (drains front) Smooth (queued messages) (drained messages k) := by
  refine reaches_of_take _ _ fun i hi => ?_
  rw [length_replicate] at hi
  rw [take_replicate, Nat.min_eq_left (Nat.le_of_lt hi), getElem_replicate]
  refine ⟨fun t o ha => by cases ha; rfl, fun key row hr => ?_⟩
  exact h i hi (key, row) (Table.get?_eq_some.1 hr)

/-- Drains one after the other, each to its end, with a letter that carries nothing before one that
names a mailbox. -/
def stuck : Nat → DrainState
  | 0 => queued [empty, expired "p"]
  | k + 1 => (stuck k).runActions (drains front) [.run k .ok, .run k .ok]

/-- A drain takes the first letter, fails, and the letter goes back. -/
lemma finish_take {w : DlqWorld} (t : Nat)
    (hh : w.held = .empty) (hr : w.ready = l :: rest) : finish front t (w.take t l rest) = w := by
  obtain ⟨ready, held, _, _, _⟩ := w
  obtain rfl : held = .empty := hh
  obtain rfl : ready = l :: rest := hr
  have ho : ((Table.empty : Table Nat Letter).upsert t fun _ => l).delete
      (fun t' _ => t' = t) = Table.empty := by
    simp [Table.upsert, Table.insert?, Table.delete, Table.empty]
  unfold finish
  rw [(get?_take ..).trans (if_pos rfl)]
  simp only [DlqWorld.take, DlqWorld.drop, DlqWorld.requeue, ho]
  rfl

lemma stuck_step {s : DrainState} (hw : s.world = (queued [empty, expired "p"]).world)
    (hf : s.threads t = (initial outside (fun _ => 128) 0).threads t) :
    (s.runActions (drains front) [.run t .ok, .run t .ok]).world = s.world ∧
      ((s.runActions (drains front) [.run t .ok, .run t .ok]).threads t).prog =
        .fail "invalid envelope" := by
  have ho : s.step (drains front) (.run t .ok) =
      s.advance t (drainLoop outside 128 0) (s.world.gaps.now, .heard .createChannel ()) s.world := by
    rw [step_ask (k := fun _ => drainLoop outside 128 0) (x := ()) (w := s.world)
      (by rw [hf]; rfl) rfl, settle_of_not_done (by rw [advance_self]; rfl)]
    rfl
  show ((s.step (drains front) (.run t .ok)).step (drains front) (.run t .ok)).world = _ ∧
    (((s.step (drains front) (.run t .ok)).step (drains front) (.run t .ok)).threads t).prog = _
  rw [ho]
  have hg : answer t .basicGet .ok s.world =
      some (.ok (some empty), s.world.take t ⟨0, empty⟩ [⟨1, expired "p"⟩]) := by
    rw [hw]
    rfl
  rw [step_ask (q := .basicGet) (by rw [advance_self]; rfl) hg]
  refine ⟨?_, by rw [settle_prog, advance_self]; rfl⟩
  rw [settle_of_done (by rw [advance_self]; rfl)]
  show finish front t (s.world.take t _ _) = s.world
  rw [hw]
  exact finish_take t rfl rfl

lemma stuck_state (k : Nat) : (stuck k).world = (queued [empty, expired "p"]).world ∧
    (∀ t < k, ((stuck k).threads t).prog = .fail "invalid envelope") ∧
    ∀ t, k ≤ t → (stuck k).threads t = (initial outside (fun _ => 128) 0).threads t := by
  induction k with
  | zero => exact ⟨rfl, nofun, fun _ _ => rfl⟩
  | succ k ih =>
    obtain ⟨hw, hd, hf⟩ := ih
    obtain ⟨hs, ha⟩ := stuck_step hw (hf k (Nat.le_refl k))
    have ho : ∀ t ≠ k, (stuck (k + 1)).threads t = (stuck k).threads t := fun t ht =>
      (step_other ht .ok).trans (step_other ht .ok)
    refine ⟨hs.trans hw, fun t ht => ?_, fun t ht => ?_⟩
    · by_cases hk : t = k
      · rw [hk]
        exact ha
      · rw [ho t hk]
        exact hd t (by omega)
    · rw [ho t (by omega)]
      exact hf t (by omega)

end Letterbox

set_option maxRecDepth 100000

open Letterbox in
/-- A publish admits "a.b", whose mailbox leads nowhere. A record that died in the mailbox of its own
author is acknowledged and not counted. And where the broker puts a letter back at the front, one
that carries nothing is there after any number of drains, and the letter behind it has not been
counted. -/
theorem letters_not_counted : (∃ event, let s := (Message.initial (wattswarm [event]) config
        (fun _ => publishOf [event] 0) world).runActions gateway (steps 0 46)
      (s.threads 0).prog.result?.isSome = true ∧
        (s.world.db.activeRoles "n" "global" "a.b").isSome = true) ∧
    principalFromQueueName crates (queueName crates "n" "a.b" .interactive) "n" = none ∧
    ((drained [expired "g"] 4).threads 0).prog.isDone = true ∧
    (drained [expired "g"] 4).world.ready = [] ∧ (drained [expired "g"] 4).world.held.rows = [] ∧
    (drained [expired "g"] 4).world.gaps.gaps.rows = [] ∧
    ∀ k, (∀ t < k, ((stuck k).threads t).prog = .fail "invalid envelope") ∧
      (stuck k).world.ready = [⟨0, empty⟩, ⟨1, expired "p"⟩] ∧
      (stuck k).world.gaps.gaps.rows = [] := by
  refine ⟨⟨snapshot "e" "g" [("g", [.finalizer]), ("a.b", [])] 1 ["g"], ?_⟩, by decide,
    by decide, by decide, by decide, ?_, fun k => ?_⟩
  · decide
  · exact eq_nil_of_length_eq_zero (by decide)
  · obtain ⟨hw, hd, -⟩ := stuck_state k
    rw [hw]
    exact ⟨hd, rfl, rfl⟩

open Letterbox in
theorem mailboxes_lead_back_and_letters_count_second :
    ∃ gapId row, (drained [expired "q", expired "p"] 10).world.gaps.gaps.get? ("n", "p", gapId) =
      some row ∧ 1 ∈ row.letters := by
  obtain ⟨hr, hd, hq⟩ :
      (∀ i < 10, ∀ x ∈ (drained [expired "q", expired "p"] i).world.gaps.gaps.rows,
        x.2.approximateCount < i64Max) ∧
      ((drained [expired "q", expired "p"] 10).threads 0).prog.isDone = true ∧
      (drained [expired "q", expired "p"] 10).world.held.rows = [] := by
    decide
  have h := (mailboxes_lead_back_and_letters_count outside front hex_plain).2.2.2
    (fun _ => 128) 0 (queued [expired "q", expired "p"]) (drained [expired "q", expired "p"] 10) {0}
    [⟨0, expired "q"⟩] ⟨1, expired "p"⟩ [] _ "p" (reaches_runActions _ _) (fun _ => rfl) rfl
    (by rintro l hl; rw [mem_singleton.1 hl]; exact ⟨_, "q", named "q" (by decide)⟩)
    (named "p" (by decide)) (fun _ _ => rfl) (drained_smooth _ 10 hr)
    (by rintro t ht; rw [Finset.mem_singleton.1 ht]; exact hd) (by decide)
    (fun t => by unfold Table.get?; rw [hq]; rfl)
  rcases h with ho | h
  · exact absurd ho (by decide)
  · exact h

end WattGateway.Message.DeadLetters
