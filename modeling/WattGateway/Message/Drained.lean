import WattGateway.Message.DeadLetters

/-!
# The steps of drains

A drain has at most one letter in hand, and acknowledges it after it has counted it or found that it
is the mailbox owner's own (`drainRule`). Histories and broker agree (`HandsInv`), so every letter
is in the queue, in hand, or acknowledged and settled (`LettersInv`).
-/

namespace WattGateway.Message.DeadLetters

open Prog List Table Sys Gaps

variable {place : DlqWorld → Letter → Nat} {O : Outside} {v : Gaps.GapInsert} {n recorded : Nat}

abbrev DrainHist := Hist Cmd Query Ans

/-! ## What a drain does -/

def inHand : DrainHist → Option DeadMessage
  | [] => none
  | (_, .heard .basicGet (some m)) :: _ => some m
  | (_, .did .ack) :: _ => none
  | _ :: h => inHand h

def counted : DrainHist → Bool
  | [] => false
  | (_, .heard .basicGet (some _)) :: _ => false
  | (_, .did (.gap _)) :: _ => true
  | _ :: h => counted h

def gets : DrainHist → Nat
  | [] => 0
  | (_, .heard .basicGet (some _)) :: h => gets h + 1
  | _ :: h => gets h

/-- A drain takes a message after it has acknowledged the one before, and acknowledges it if it is
the mailbox owner's own or has been counted. -/
def drainRule (O : Outside) (limit : Nat) : Rule Cmd Query Ans where
  onCmd h
    | .gap c => ∃ m lost p gapId v, inHand h = some m ∧ mailbox O m = .ok (lost, p) ∧
        c = .insertGap (lost.networkId, p, gapId) v
    | .ack => ∃ m lost p, inHand h = some m ∧ mailbox O m = .ok (lost, p) ∧
        (lost.sourcePrincipalId = some p ∨ counted h = true)
  onAsk h
    | .basicGet => inHand h = none ∧ gets h < limit
    | .gap q => q = .clock
    | _ => True

/-- A drain ends itself with an error over a message without a mailbox. -/
def Unnamed (O : Outside) (_ : String) (h : DrainHist) : Prop :=
  ∃ m e, inHand h = some m ∧ mailbox O m = .error e

section Follows

variable {limit : Nat} {h : DrainHist}
variable {m : DeadMessage}

lemma recordGap_follows {lost : Lost} {p : String} (hm : inHand h = some m)
    (hb : mailbox O m = .ok (lost, p)) :
    (recordGap O m lost p).Follows (drainRule O limit) (fun _ h' => inHand h' = some m ∧
      counted h' = true ∧ gets h' = gets h) h := by
  refine .bind (follows_query trivial fun τ now => ?_)
  unfold Gaps.recordGap Gaps.affectedTime
  split
  · exact ⟨⟨m, lost, p, _, _, hm, hb, rfl⟩, fun τ' => ⟨hm, rfl, rfl⟩⟩
  · exact ⟨rfl, fun τ' now' => ⟨⟨m, lost, p, _, _, hm, hb, rfl⟩, fun τ'' => ⟨hm, rfl, rfl⟩⟩⟩

lemma drainOne_follows (limit : Nat) (hm : inHand h = some m) :
    (drainOne O m).Follows (drainRule O limit) (fun _ h' => inHand h' = none ∧ gets h' = gets h)
      h := by
  refine .bind (follows_ofExcept fun x hx => ?_)
  obtain ⟨lost, p⟩ := x
  simp only
  split
  · rename_i ho
    exact ⟨⟨m, lost, p, hm, hx, .inl ho⟩, fun τ => ⟨rfl, rfl⟩⟩
  · refine .bind ((recordGap_follows hm hx).mono fun _ h' ⟨hm', hc, hg⟩ => ?_)
    exact ⟨⟨m, lost, p, hm', hx, .inr hc⟩, fun τ => ⟨rfl, hg⟩⟩

/-- A drain that returns has taken as many messages as it may, or has found the queue empty. -/
lemma drainLoop_follows (hn : gets h + n = limit) (hf : inHand h = none) :
    (drainLoop O n recorded).Follows (drainRule O limit) (fun _ h' => inHand h' = none ∧
      (gets h' = limit ∨ h'.Heard .basicGet none)) h := by
  induction n generalizing h recorded with
  | zero => exact ⟨hf, .inl hn⟩
  | succ n ih =>
    refine .bind (follows_query ⟨hf, by omega⟩ fun τ x => ?_)
    cases x with
    | none => exact ⟨hf, .inr (Hist.heard_self _ _ _ _)⟩
    | some =>
      refine .bind ((drainOne_follows limit rfl).mono fun k h' ⟨hf', hg⟩ => ?_)
      refine ih ?_ hf'
      rw [hg]
      show gets h + 1 + n = limit
      omega

lemma drain_follows (O : Outside) (limit : Nat) :
    (drainDeadLetters O limit).Follows (drainRule O limit) (fun _ h' => inHand h' = none ∧
      (gets h' = limit ∨ h'.Heard .basicGet none)) [] :=
  .bind (follows_query trivial fun _ _ => drainLoop_follows (Nat.zero_add limit) rfl)

lemma drainOne_fails (hm : inHand h = some m) : (drainOne O m).FailsWhen (Unnamed O) h := by
  have hr : ∀ lost p, (recordGap O m lost p).Errs fun _ => False := by
    intro lost p
    refine Errs.bind (errs_query _) fun now => errs_lift ?_
    unfold Gaps.recordGap Gaps.affectedTime
    split
    · exact trivial
    · exact fun _ => trivial
  unfold drainOne
  cases hb : mailbox O m with
  | error e => exact ⟨m, e, hm, hb⟩
  | ok x =>
    obtain ⟨lost, p⟩ := x
    show (if lost.sourcePrincipalId = some p then _ else _ : Drain Nat).FailsWhen (Unnamed O) h
    split
    · exact fun _ => trivial
    · refine Errs.failsWhen (Errs.bind (hr lost p) fun _ => ?_) fun _ _ hf => hf.elim
      trivial

lemma drainLoop_fails (hn : gets h + n = limit) (hf : inHand h = none) :
    (drainLoop O n recorded).FailsWhen (Unnamed O) h := by
  induction n generalizing h recorded with
  | zero => trivial
  | succ n ih =>
    refine FailsWhen.bind (R := drainRule O limit) (fun _ _ => trivial)
      (follows_query ⟨hf, by omega⟩ fun τ x => ?_)
    cases x with
    | none => trivial
    | some =>
      refine FailsWhen.bind (drainOne_fails rfl)
        ((drainOne_follows limit rfl).mono fun k h' ⟨hf', hg⟩ => ?_)
      refine ih ?_ hf'
      rw [hg]
      show gets h + 1 + n = limit
      omega

lemma drain_fails (O : Outside) (limit : Nat) :
    (drainDeadLetters O limit).FailsWhen (Unnamed O) [] :=
  FailsWhen.bind (R := drainRule O limit) (fun _ _ => trivial)
    (follows_query trivial fun _ _ => drainLoop_fails (Nat.zero_add limit) rfl)

end Follows

/-! ## What a step does -/

/-- The letter is counted in a gap of the mailbox it died in. -/
def Counted (O : Outside) (w : DlqWorld) (l : Letter) : Prop :=
  ∃ lost p gapId row, mailbox O l.message = .ok (lost, p) ∧
    w.gaps.gaps.get? (lost.networkId, p, gapId) = some row ∧ l.seq ∈ row.letters

/-- No row is lost, and none loses a letter. -/
def Grows (w w' : DlqWorld) : Prop :=
  ∀ k r, w.gaps.gaps.get? k = some r →
    ∃ r', w'.gaps.gaps.get? k = some r' ∧ ∀ x ∈ r.letters, x ∈ r'.letters

/-- What call `t` has in hand is what it took last. -/
def Matches (O : Outside) (w : DlqWorld) (t : Nat) (h : DrainHist) : Prop :=
  match w.held.get? t with
  | some l => inHand h = some l.message ∧ (counted h = true → Counted O w l)
  | none => inHand h = none

section Steps

variable {w w' : DlqWorld} {t t' : Nat} {h : DrainHist} {o : Outcome} {limit : Nat} {l : Letter}

lemma Grows.refl (w : DlqWorld) : Grows w w := fun _ r hr => ⟨r, hr, fun _ hx => hx⟩

lemma Grows.of_eq (h : w'.gaps.gaps = w.gaps.gaps) : Grows w w' := by
  intro _ r hr
  exact ⟨r, by rw [h]; exact hr, fun _ hx => hx⟩

lemma Counted.grows (hc : Counted O w l) (hg : Grows w w') : Counted O w' l := by
  obtain ⟨lost, p, gapId, _, hb, hr, hm⟩ := hc
  obtain ⟨row', hr', hs⟩ := hg _ _ hr
  exact ⟨lost, p, gapId, row', hb, hr', hs _ hm⟩

lemma matches_none (hm : w.held.get? t = none) : Matches O w t h ↔ inHand h = none := by
  unfold Matches
  rw [hm]

lemma matches_some (hm : w.held.get? t = some l) :
    Matches O w t h ↔ inHand h = some l.message ∧ (counted h = true → Counted O w l) := by
  unfold Matches
  rw [hm]

lemma Matches.frame (hm : Matches O w t h) (hhe : w'.held.get? t = w.held.get? t)
    (hg : Grows w w') : Matches O w' t h := by
  cases hl : w.held.get? t with
  | none =>
    rw [matches_none (hhe.trans hl)]
    exact (matches_none hl).1 hm
  | some =>
    rw [matches_some (hhe.trans hl)]
    obtain ⟨hh, ho⟩ := (matches_some hl).1 hm
    exact ⟨hh, fun hc => (ho hc).grows hg⟩

lemma Matches.held (hm : Matches O w t h) {m : DeadMessage} (hh : inHand h = some m) :
    ∃ l, w.held.get? t = some l ∧ l.message = m := by
  cases hl : w.held.get? t with
  | none =>
    rw [(matches_none hl).1 hm] at hh
    cases hh
  | some l =>
    rw [((matches_some hl).1 hm).1] at hh
    exact ⟨l, rfl, Option.some.inj hh⟩

lemma Matches.free (hm : Matches O w t h) (hh : inHand h = none) : w.held.get? t = none := by
  cases hl : w.held.get? t with
  | none => rfl
  | some =>
    rw [((matches_some hl).1 hm).1] at hh
    cases hh

@[simp] lemma get?_take (w : DlqWorld) (t t' : Nat) (l : Letter) (rest : List Letter) :
    (w.take t l rest).held.get? t' = if t' = t then some l else w.held.get? t' := by
  simp only [DlqWorld.take, get?_upsert]

@[simp] lemma get?_drop (w : DlqWorld) (t t' : Nat) :
    (w.drop t).held.get? t' = if t' = t then none else w.held.get? t' := by
  unfold DlqWorld.drop
  rw [get?_delete]
  by_cases ht : t' = t <;> cases w.held.get? t' <;> simp [ht]

/-- The letter is the mailbox owner's own, or counted. -/
def Settled (O : Outside) (w : DlqWorld) (l : Letter) : Prop :=
  (∃ lost p, mailbox O l.message = .ok (lost, p) ∧ lost.sourcePrincipalId = some p) ∨ Counted O w l

lemma Settled.grows (hs : Settled O w l) (hg : Grows w w') : Settled O w' l :=
  hs.imp_right fun hc => hc.grows hg

inductive Performed (O : Outside) (t : Nat) (w : DlqWorld) :
    Cmd → Except String Unit → DlqWorld → Prop
  | failed (c : Cmd) (e : String) : Performed O t w c (.error e) w
  | inserted (lost : Lost) (p : String) (gapId : Nat) (v : Gaps.GapInsert) (l : Letter)
      (r : Except String Unit) (hl : w.held.get? t = some l)
      (hbox : mailbox O l.message = .ok (lost, p)) :
      Performed O t w (.gap (.insertGap (lost.networkId, p, gapId) v)) r
        { w with gaps := insertGap l.seq (lost.networkId, p, gapId) v w.gaps }
  | acked (l : Letter) (r : Except String Unit) (hl : w.held.get? t = some l)
      (hsettled : Settled O w l) : Performed O t w .ack r { w.drop t with acked := l :: w.acked }

inductive Asked (t : Nat) (w : DlqWorld) : (q : Query) → Except String (Ans q) → DlqWorld → Prop
  | failed (q : Query) (e : String) : Asked t w q (.error e) w
  | opened : Asked t w .createChannel (.ok ()) w
  | empty (hready : w.ready = []) : Asked t w .basicGet (.ok none) w
  | took (l : Letter) (rest : List Letter) (r : Except String (Option DeadMessage))
      (hready : w.ready = l :: rest) (hfree : w.held.get? t = none)
      (hr : ∀ x, r = .ok x → x = some l.message) : Asked t w .basicGet r (w.take t l rest)
  | clock : Asked t w .clock (.ok w.gaps.now) w
  | gapClock : Asked t w (.gap .clock) (.ok w.gaps.now) w

def Countable (w : DlqWorld) : Prop :=
  ∀ k r, w.gaps.gaps.get? k = some r → r.approximateCount < i64Max

lemma Countable.not_full (hc : Countable w) (k : String × String × Nat) : ¬ full k w.gaps := by
  rintro ⟨r, hr, hle⟩
  exact Nat.not_lt.2 hle (hc k r hr)

variable {r : Except String Unit} {c : Cmd}

lemma performed (hr : (drainRule O limit).onCmd h c) (hm : Matches O w t h)
    (hx : perform t c o w = some (r, w')) :
    Performed O t w c r w' ∧ (o = .ok → Countable w → r = .ok ()) := by
  cases c with
  | gap =>
    obtain ⟨m, lost, p, gapId, v, hh, hb, rfl⟩ := hr
    obtain ⟨l, hl, rfl⟩ := hm.held hh
    have hle : w.letterOf t = l.seq := by rw [DlqWorld.letterOf, hl]; rfl
    simp only [perform, hle, Option.map_eq_some_iff, Prod.mk.injEq] at hx
    obtain ⟨⟨r', g⟩, hx, rfl, rfl⟩ := hx
    by_cases hf : Gaps.full (lost.networkId, p, gapId) w.gaps
    · have ha : ∃ e, r' = .error e ∧ g = w.gaps := by
        cases o <;> simp only [Gaps.perform, if_pos hf] at hx <;> cases hx <;> exact ⟨_, rfl, rfl⟩
      obtain ⟨e, rfl, rfl⟩ := ha
      exact ⟨.failed _ e, fun _ hc => absurd hf (hc.not_full _)⟩
    · cases o <;> simp only [Gaps.perform, if_neg hf] at hx <;> cases hx
      · exact ⟨.inserted lost p gapId v l _ hl hb, fun _ _ => rfl⟩
      · exact ⟨.failed _ _, by simp⟩
      · exact ⟨.failed _ _, by simp⟩
      · exact ⟨.inserted lost p gapId v l _ hl hb, by simp⟩
  | ack =>
    obtain ⟨_, lost, p, hh, hb, hd⟩ := hr
    obtain ⟨l, hl, rfl⟩ := hm.held hh
    have hs : Settled O w l :=
      hd.imp (fun ho => ⟨lost, p, hb, ho⟩) fun hc => ((matches_some hl).1 hm).2 hc
    simp only [perform, hl] at hx
    cases o <;> cases hx
    · exact ⟨.acked l _ hl hs, fun _ _ => rfl⟩
    · exact ⟨.failed _ _, by simp⟩
    · exact ⟨.failed _ _, by simp⟩
    · exact ⟨.acked l _ hl hs, by simp⟩

variable {q : Query}

lemma asked {r : Except String (Ans q)} (hru : (drainRule O limit).onAsk h q)
    (hm : Matches O w t h) (hx : answer t q o w = some (r, w')) :
    Asked t w q r w' ∧ (o = .ok → ∃ x, r = .ok x) := by
  cases q with
  | createChannel =>
    cases o <;> cases hx
    · exact ⟨.opened, fun _ => ⟨_, rfl⟩⟩
    all_goals exact ⟨.failed _ _, nofun⟩
  | basicGet =>
    cases hr : w.ready with
    | nil =>
      simp only [answer, hr] at hx
      cases o <;> cases hx
      · exact ⟨.empty hr, fun _ => ⟨_, rfl⟩⟩
      all_goals exact ⟨.failed _ _, nofun⟩
    | cons l rest =>
      have hf := hm.free hru.1
      simp only [answer, hr] at hx
      cases o <;> cases hx
      · exact ⟨.took l rest _ hr hf fun x hx => (Except.ok.inj hx).symm, fun _ => ⟨_, rfl⟩⟩
      · exact ⟨.failed _ _, nofun⟩
      · exact ⟨.failed _ _, nofun⟩
      · exact ⟨.took l rest _ hr hf nofun, nofun⟩
  | gap q =>
    obtain rfl : q = .clock := hru
    cases o <;> cases hx
    · exact ⟨.gapClock, fun _ => ⟨_, rfl⟩⟩
    all_goals exact ⟨.failed _ _, nofun⟩
  | clock =>
    cases hx
    exact ⟨.clock, fun _ => ⟨_, rfl⟩⟩

lemma grows_insertGap {l : Nat} {k : String × String × Nat} :
    Grows w { w with gaps := insertGap l k v w.gaps } := by
  intro k' r hr
  by_cases hk : k' = k
  · subst hk
    refine ⟨countLetter l v (some r), ?_, fun x hx => mem_cons_of_mem _ hx⟩
    simp [insertGap, hr]
  · exact ⟨r, by simp [insertGap, hk, hr], fun x hx => hx⟩

lemma counted_insertGap {lost : Lost} {p : String} {gapId : Nat}
    (hb : mailbox O l.message = .ok (lost, p)) :
    Counted O { w with gaps := insertGap l.seq (lost.networkId, p, gapId) v w.gaps } l := by
  refine ⟨lost, p, gapId, _, hb, by simp only [insertGap, get?_upsert, if_true]; rfl, ?_⟩
  cases w.gaps.gaps.get? (lost.networkId, p, gapId) with
  | none | some => exact mem_cons_self ..

lemma Performed.grows (hx : Performed O t w c r w') : Grows w w' := by
  cases hx with
  | failed => exact .refl w
  | inserted => exact grows_insertGap
  | acked => exact .of_eq rfl

lemma Performed.others (hx : Performed O t w c r w') (ht : t' ≠ t) :
    w'.held.get? t' = w.held.get? t' := by
  cases hx with
  | failed => rfl
  | inserted => rfl
  | acked => exact (get?_drop w t t').trans (if_neg ht)

lemma Performed.matches (hx : Performed O t w c (.ok ()) w') (hm : Matches O w t h) (τ : Nat) :
    Matches O w' t ((τ, .did c) :: h) := by
  cases hx with
  | inserted _ _ _ _ _ _ hl hb =>
    have hh := ((matches_some hl).1 hm).1
    refine (matches_some ?_).2 ⟨hh, fun _ => counted_insertGap hb⟩
    exact hl
  | acked =>
    refine (matches_none ?_).2 rfl
    exact (get?_drop w t t).trans (if_pos rfl)

lemma Asked.gaps {r : Except String (Ans q)} (hx : Asked t w q r w') : w'.gaps = w.gaps := by
  cases hx <;> rfl

lemma Asked.others {r : Except String (Ans q)} (hx : Asked t w q r w') (ht : t' ≠ t) :
    w'.held.get? t' = w.held.get? t' := by
  cases hx with
  | took l rest => exact (get?_take w t t' l rest).trans (if_neg ht)
  | _ => rfl

lemma Asked.matches {x : Ans q} (hx : Asked t w q (.ok x) w') (hm : Matches O w t h) (τ : Nat) :
    Matches O w' t ((τ, .heard q x) :: h) := by
  cases hx with
  | took l rest _ _ _ hr =>
    obtain rfl := hr x rfl
    exact (matches_some ((get?_take w t t l rest).trans (if_pos rfl))).2 ⟨rfl, nofun⟩
  | _ => exact hm

lemma get?_finish (w : DlqWorld) (t t' : Nat) :
    (finish place t w).held.get? t' = if t' = t then none else w.held.get? t' := by
  unfold finish
  split
  · rename_i hl
    by_cases ht : t' = t
    · rw [if_pos ht, ht, hl]
    · rw [if_neg ht]
  · exact get?_drop w t t'

lemma gaps_finish (w : DlqWorld) (t : Nat) : (finish place t w).gaps = w.gaps := by
  unfold finish
  split <;> rfl

end Steps

/-! ## Runs -/

section Runs

variable {limits : Nat → Nat} {now : Nat} {s s' : DrainState} {t t' : Nat}

abbrev FollowsDrains (O : Outside) (limits : Nat → Nat) (s : DrainState) : Prop :=
  Sys.FollowsAll (fun t => drainRule O (limits t)) (fun t _ h => inHand h = none ∧
    (gets h = limits t ∨ h.Heard .basicGet none)) s

lemma follows_run_drains (h : Reachable O place limits now s) : FollowsDrains O limits s :=
  Sys.Reaches.follows (fun t => drain_follows O (limits t)) h

/-- A running call has in hand what its history says, and one that has ended nothing. -/
def HandsInv (O : Outside) (s : DrainState) : Prop :=
  ∀ t, ((s.threads t).prog.isDone = true → s.world.held.get? t = none) ∧
    ((s.threads t).prog.isDone = false → Matches O s.world t (s.threads t).hist)

lemma settle_held (place : DlqWorld → Letter → Nat) (s : DrainState) (t t' : Nat) :
    (s.settle (drains place) t).world.held.get? t' =
      if t' = t ∧ (s.threads t).prog.isDone = true then none else s.world.held.get? t' := by
  cases hd : (s.threads t).prog.isDone with
  | false =>
    rw [settle_of_not_done hd]
    simp
  | true =>
    rw [settle_of_done hd]
    show (finish place t s.world).held.get? t' = _
    rw [get?_finish]
    simp

lemma settle_gaps (s : DrainState) (t : Nat) :
    (s.settle (drains place) t).world.gaps = s.world.gaps := by
  unfold settle
  split
  · exact gaps_finish s.world t
  · rfl

lemma HandsInv.settle {m : DrainState} (hs : HandsInv O s)
    (hth : ∀ t' ≠ t, m.threads t' = s.threads t')
    (hh : ∀ t' ≠ t, m.world.held.get? t' = s.world.held.get? t') (hg : Grows s.world m.world)
    (ho : (m.threads t).prog.isDone = false → Matches O m.world t (m.threads t).hist) :
    HandsInv O (m.settle (drains place) t) := by
  intro t'
  rw [settle_prog, settle_hist]
  have he := settle_held place m t t'
  by_cases ht : t' = t
  · subst ht
    refine ⟨fun hd => by rw [he, if_pos ⟨rfl, hd⟩], fun hd => ?_⟩
    rw [settle_of_not_done hd]
    exact ho hd
  · rw [if_neg fun hx => ht hx.1] at he
    rw [hth t' ht, he, hh t' ht]
    refine ⟨(hs t').1, fun hd => ((hs t').2 hd).frame (he.trans (hh t' ht)) ?_⟩
    intro k r hr
    rw [settle_gaps]
    exact hg k r hr

/-- What one step of a run does, in a state in which hands and histories agree. -/
inductive Moved (O : Outside) (place : DlqWorld → Letter → Nat) (s : DrainState) :
    Action Env → DrainState → Prop
  | blocked (a : Action Env) : Moved O place s a s
  | env (e : Env) : Moved O place s (.env e) { s with world := e.run s.world }
  | cmd (t : Nat) (o : Outcome) (c : Cmd) (k : Drain Nat) (r : Except String Unit) (w : DlqWorld)
      (hp : (s.threads t).prog = .cmd c k) (hm : Matches O s.world t (s.threads t).hist)
      (hx : Performed O t s.world c r w) (hok : o = .ok → Countable s.world → r = .ok ()) :
      Moved O place s (.run t o) ((s.afterCmd (drains place) t c k r w).settle (drains place) t)
  | ask (t : Nat) (o : Outcome) (q : Query) (k : Ans q → Drain Nat) (r : Except String (Ans q))
      (w : DlqWorld) (hp : (s.threads t).prog = .ask q k)
      (hm : Matches O s.world t (s.threads t).hist) (hx : Asked t s.world q r w)
      (hok : o = .ok → ∃ x, r = .ok x) :
      Moved O place s (.run t o) ((s.afterAsk (drains place) t q k r w).settle (drains place) t)

lemma moved (hs : HandsInv O s) (hf : FollowsDrains O limits s) (a : Action Env) :
    Moved O place s a (s.step (drains place) a) := by
  rcases step_results (drains place) s a with h | ⟨e, rfl, h⟩ | ⟨t, o, c, k, r, w, rfl, hp, hx, h⟩ |
    ⟨t, o, q, k, r, w, rfl, hp, hx, h⟩ <;> rw [h]
  · exact .blocked a
  · exact .env e
  · have hm := (hs t).2 (by rw [hp]; rfl)
    obtain ⟨hx, hok⟩ := performed (hf.cmd hp) hm hx
    exact .cmd t o c k r w hp hm hx hok
  · have hm := (hs t).2 (by rw [hp]; rfl)
    obtain ⟨hx, hok⟩ := asked (hf.ask hp) hm hx
    exact .ask t o q k r w hp hm hx hok

lemma HandsInv.moved {a : Action Env} (hs : HandsInv O s) (hx : Moved O place s a s') :
    HandsInv O s' := by
  cases hx with
  | blocked => exact hs
  | env e => cases e <;> exact hs
  | cmd _ _ _ _ r _ _ hm hx =>
    refine hs.settle (fun t' ht => afterCmd_ne ht) (fun t' ht => ?_) ?_ fun hd => ?_
    · rw [world_afterCmd]
      exact hx.others ht
    · rw [world_afterCmd]
      exact hx.grows
    · cases r with
      | error => simp [afterCmd] at hd
      | ok =>
        simp only [afterCmd, advance_self, advance_world]
        exact hx.matches hm _
  | ask _ _ _ _ r _ _ hm hx =>
    refine hs.settle (fun t' ht => afterAsk_ne ht) (fun t' ht => ?_) ?_ fun hd => ?_
    · rw [world_afterAsk]
      exact hx.others ht
    · rw [world_afterAsk]
      exact .of_eq (congrArg Gaps.GapWorld.gaps hx.gaps)
    · cases r with
      | error => simp [afterAsk] at hd
      | ok =>
        simp only [afterAsk, advance_self, advance_world]
        exact hx.matches hm _

lemma handsInv_run (h : Reachable O place limits now s) : HandsInv O s := by
  have ht : HandsInv O (initial O limits now) := fun t => ⟨fun _ => rfl, fun _ => rfl⟩
  refine h.invariant ht fun s a hr _ hs => ?_
  exact hs.moved (moved hs (follows_run_drains hr) a)

lemma moved_run (h : Reachable O place limits now s) (a : Action Env) :
    Moved O place s a (s.step (drains place) a) :=
  moved (handsInv_run h) (follows_run_drains h) a

/-! ### No letter is lost -/

def Present (w : DlqWorld) (l : Letter) : Prop :=
  l ∈ w.ready ∨ (∃ t, w.held.get? t = some l) ∨ l ∈ w.acked

lemma Present.finish {w : DlqWorld} {l : Letter} (hl : Present w l) (t : Nat) :
    Present (finish place t w) l := by
  cases hh : w.held.get? t with
  | none =>
    have heq : DeadLetters.finish place t w = w := by simp [DeadLetters.finish, hh]
    rw [heq]
    exact hl
  | some l' =>
    have heq : DeadLetters.finish place t w = (w.drop t).requeue (place w l') l' := by
      simp [DeadLetters.finish, hh]
    have hr : ∀ x, x ∈ (DeadLetters.finish place t w).ready ↔ x ∈ w.ready ∨ x = l' := by
      intro _
      rw [heq]
      simp only [DlqWorld.requeue, DlqWorld.drop, mem_append, mem_cons]
      constructor
      · rintro (hx | hx | hx)
        · exact .inl (mem_of_mem_take hx)
        · exact .inr hx
        · exact .inl (mem_of_mem_drop hx)
      · rintro (hx | hx)
        · rw [← take_append_drop (place w l') w.ready] at hx
          exact (mem_append.1 hx).imp_right .inr
        · exact .inr (.inl hx)
    rcases hl with hl | ⟨t', ht'⟩ | hl
    · exact .inl ((hr l).2 (.inl hl))
    · by_cases ht : t' = t
      · subst ht
        rw [hh] at ht'
        exact .inl ((hr l).2 (.inr (Option.some.inj ht').symm))
      · exact .inr (.inl ⟨t', by rw [get?_finish, if_neg ht]; exact ht'⟩)
    · exact .inr (.inr (by rw [heq]; exact hl))

/-- Every letter is in the queue, in hand, or acknowledged and settled. -/
structure LettersInv (O : Outside) (s : DrainState) : Prop where
  present : ∀ l ∈ s.world.arrived, Present s.world l
  settled : ∀ l ∈ s.world.acked, Settled O s.world l

lemma LettersInv.settle {m : DrainState} (hs : LettersInv O m) (t : Nat) :
    LettersInv O (m.settle (drains place) t) := by
  unfold Sys.settle
  split
  · have hr : (finish place t m.world).arrived = m.world.arrived := by
      unfold finish
      split <;> rfl
    have ha : (finish place t m.world).acked = m.world.acked := by
      unfold finish
      split <;> rfl
    refine ⟨fun l hl => (hs.present l ?_).finish t, fun l hl => (hs.settled l ?_).grows ?_⟩
    · exact hr ▸ hl
    · exact ha ▸ hl
    · exact .of_eq (congrArg Gaps.GapWorld.gaps (gaps_finish m.world t))
  · exact hs

lemma LettersInv.moved {a : Action Env} (hs : LettersInv O s) (hx : Moved O place s a s') :
    LettersInv O s' := by
  cases hx with
  | blocked => exact hs
  | env e =>
    cases e with
    | tick => exact ⟨hs.present, hs.settled⟩
    | arrive =>
      refine ⟨fun l hl => ?_, hs.settled⟩
      rcases mem_append.1 hl with hl | hl
      · exact (hs.present l hl).imp_left (mem_append_left _)
      · exact .inl (mem_append_right _ hl)
  | cmd t _ _ _ _ _ _ _ hx =>
    refine LettersInv.settle ?_ t
    refine ⟨fun l hl => ?_, fun l hl => ?_⟩ <;> rw [world_afterCmd] at hl ⊢
    · cases hx with
      | failed => exact hs.present l hl
      | inserted => exact hs.present _ hl
      | acked _ _ hh =>
        rcases hs.present l hl with hl | ⟨t', ht'⟩ | hl
        · exact .inl hl
        · by_cases ht : t' = t
          · subst ht
            rw [hh] at ht'
            cases ht'
            exact .inr (.inr (mem_cons_self ..))
          · exact .inr (.inl ⟨t', (get?_drop s.world t t').trans ((if_neg ht).trans ht')⟩)
        · exact .inr (.inr (mem_cons_of_mem _ hl))
    · have hg := hx.grows
      cases hx with
      | failed => exact hs.settled l hl
      | inserted => exact (hs.settled l hl).grows hg
      | acked _ _ _ he =>
        rcases mem_cons.1 hl with rfl | hl
        · exact he.grows hg
        · exact (hs.settled l hl).grows hg
  | ask t _ _ _ _ _ _ _ hx =>
    refine LettersInv.settle ?_ t
    refine ⟨fun l hl => ?_, fun l hl => ?_⟩ <;> rw [world_afterAsk] at hl ⊢
    · cases hx with
      | took _ rest _ hr hf =>
        rcases hs.present l hl with hl | ⟨t', ht'⟩ | hl
        · rw [hr] at hl
          rcases mem_cons.1 hl with rfl | hl
          · exact .inr (.inl ⟨t, (get?_take _ t t _ rest).trans (if_pos rfl)⟩)
          · exact .inl hl
        · have ht : t' ≠ t := by
            rintro rfl
            rw [hf] at ht'
            cases ht'
          exact .inr (.inl ⟨t', (get?_take _ t t' _ rest).trans ((if_neg ht).trans ht')⟩)
        · exact .inr (.inr hl)
      | _ => exact hs.present l hl
    · cases hx <;> exact hs.settled l hl

lemma lettersInv_run (h : Reachable O place limits now s) : LettersInv O s := by
  have ht : LettersInv O (initial O limits now) :=
    ⟨fun l hl => (by cases hl), fun l hl => (by cases hl)⟩
  refine h.invariant ht fun s a hr _ hs => ?_
  exact hs.moved (moved_run hr a)

end Runs

end WattGateway.Message.DeadLetters
