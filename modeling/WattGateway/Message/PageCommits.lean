import WattGateway.Message.PageRules
import WattGateway.Message.PageSteps
import WattGateway.Message.Publish

/-!
# Committed pages

Whatever the instances do and whenever leases, tokens and pages expire: a message that the pulling
principal did not write is acknowledged only after a session of that principal presented an
unexpired token of its page, and at most once, and no commit meets a page of another principal,
class or epoch (`page_commits`).
-/

namespace WattGateway.Message.Pages

open Prog Hist Sys Option RabbitAdapter List Function

variable {p : Nat} {m : Nat}

/-- Nobody forges a token: when a commit begins, a payload under a right code in its token is one
that the gateway has made a token for. -/
def Unforged (X : Crates) (D : Deployment) (calls : Nat → Call) (s : PageSys) : Action Env → Prop
  | .env _ => True
  | .run t _ => ∀ i session request payload, calls t = .commit i session request →
      (s.threads t).hist = [] → genuinePayload X D.commitHmacSecret request.commitToken = .ok payload →
      ∃ p claims, (s.threads p).hist.Did (.issue claims) ∧ X.toVec claims = payload

section Runs

variable {X : Crates} {D : Deployment} {gaps : Gaps.GapWorld}
  {owners : Table (String × DeliveryClass) OwnerRow} {calls : Nat → Call} {s s' : PageSys}

abbrev Runs (X : Crates) (D : Deployment) (calls : Nat → Call) : PageSys → PageSys → Prop :=
  Reaches (pages X) (Unforged X D calls)

lemma start_follows : FollowsAll (fun t => pageRule X D (calls t)) (fun _ _ _ => True)
    (start X D gaps owners calls) :=
  fun t => prog_follows (calls t)

variable {t : Nat}

lemma cmdOk_of_runs (hr : Runs X D calls (start X D gaps owners calls) s) {c : Cmd}
    {k : PageProg Reply} (hp : (s.threads t).prog = .cmd c k) :
    CmdOk X D (calls t) (s.threads t).hist c := by
  have hf := hr.follows start_follows t
  rw [hp] at hf
  exact hf.1

variable {page : PendingPage} {pageId : String} {i : Nat}

lemma pageOf_of_did (hr : Runs X D calls (start X D gaps owners calls) s)
    (hd : (s.threads p).hist.Did (.insertPending i pageId page)) :
    PageOf (calls p) (s.threads p).hist i pageId page := by
  obtain ⟨_, hs, hok⟩ := hr.did_allowed start_follows (fun _ => rfl) hd
  exact PageOf.mono hok hs

variable {claims : CommitClaims}

lemma tokenOf_of_did (hr : Runs X D calls (start X D gaps owners calls) s)
    (hd : (s.threads p).hist.Did (.issue claims)) :
    TokenOf (calls p) (s.threads p).hist claims := by
  obtain ⟨_, hs, hok⟩ := hr.did_allowed start_follows (fun _ => rfl) hd
  exact TokenOf.mono hok hs

/-! ## Where pages come from -/

variable {w : PageWorld}

lemma get?_insertPending {i' : Nat} {pageId' : String} {page' : PendingPage}
    (h : ((w.insertPending i pageId page).pending i').get? pageId' = some page') :
    (i' = i ∧ pageId' = pageId ∧ page' = page) ∨ (w.pending i').get? pageId' = some page' := by
  replace h : (update w.pending i _ i').get? pageId' = some page' := h
  by_cases hi : i' = i
  · subst hi
    rw [update_self, Table.get?_upsert] at h
    split at h
    · rename_i hk
      exact .inl ⟨rfl, hk, (Option.some.inj h).symm⟩
    · exact .inr h
  · rw [update_of_ne hi] at h
    exact .inr h

section

variable (hr : Runs X D calls (start X D gaps owners calls) s)
include hr

lemma pending_origin (h : (s.world.pending i).get? pageId = some page) :
    ∃ p, (s.threads p).hist.Did (.insertPending i pageId page) := by
  induction hr with
  | refl => cases h
  | @step s a hr _ ih =>
    have hold : (s.world.pending i).get? pageId = some page →
        ∃ p, ((s.step (pages X) a).threads p).hist.Did (.insertPending i pageId page) := by
      intro h
      obtain ⟨p, hp⟩ := ih h
      exact ⟨p, hp.mono (hist_suffix_step (pages X) s a p)⟩
    rcases step_effect (X := X) s a with he | ⟨t, _, _, _, _, _, -, -, hd, he⟩ |
      ⟨t, _, _, _, _, _, _, -, -, ha, he⟩
    · exact hold (he.pending i pageId page h)
    · rcases get?_insertPending (he.pending i pageId page h) with ⟨rfl, rfl, rfl⟩ | h
      · exact ⟨t, hd⟩
      · exact hold h
    · have hw := he.pending i pageId page h
      rw [ha.world] at hw
      exact hold hw

lemma removed_origin (h : (s.threads t).hist.Heard (.removePending i pageId) (some page)) :
    ∃ p, (s.threads p).hist.Did (.insertPending i pageId page) := by
  obtain ⟨s', _, _, w, hr', -, hre, -, ha⟩ := hr.asked (fun _ => rfl) h
  have he : (s'.world.pending i).get? pageId = some page := by
    replace ha : some (Except.ok (s'.world.removePending t i pageId).1,
      (s'.world.removePending t i pageId).2) = some (.ok (some page), w) := ha
    unfold PageWorld.removePending at ha
    split at ha
    · rename_i page' hg
      cases ha
      exact hg
    · cases ha
  obtain ⟨p, hp⟩ := pending_origin hr' he
  exact ⟨p, hp.mono (hre.hist_suffix p)⟩

end

/-! ## Identifiers -/

/-- The page identifiers drawn so far are old, and each was drawn by one call. -/
structure Ids (X : Crates) (s : PageSys) : Prop where
  drawn : ∀ t pageId, (s.threads t).hist.Heard .newPageId pageId →
    ∃ n < s.world.nextUuid, pageId = X.uuid n
  unique : ∀ t t' pageId, (s.threads t).hist.Heard .newPageId pageId →
    (s.threads t').hist.Heard .newPageId pageId → t = t'

lemma uuid_step (s : PageSys) (a : Action Env) :
    s.world.nextUuid ≤ (s.step (pages X) a).world.nextUuid := by
  rcases step_effect (X := X) s a with he | ⟨_, _, _, _, _, _, -, -, -, he⟩ |
    ⟨_, _, _, _, _, _, _, -, -, ha, he⟩
  · exact he.uuid
  · exact he.uuid
  · have hu := he.uuid
    rw [ha.world] at hu
    exact hu

lemma ids_of_runs (hr : Runs X D calls (start X D gaps owners calls) s) : Ids X s := by
  refine hr.invariant ⟨fun t pageId h => ?_, fun t t' pageId h => ?_⟩ fun s a hr _ ih => ?_
  · exact absurd h (not_heard_nil _ _)
  · exact absurd h (not_heard_nil _ _)
  -- an identifier in a history is old, or it is the one drawn now
  have hw : ∀ t pageId, ((s.step (pages X) a).threads t).hist.Heard .newPageId pageId →
      (s.threads t).hist.Heard .newPageId pageId ∨
      (∃ o, a = .run t o) ∧ pageId = X.uuid s.world.nextUuid ∧
        s.world.nextUuid < (s.step (pages X) a).world.nextUuid := by
    intro t pageId h
    rcases heard_of_step h with h | ⟨o, _, _, ha, -, hans, hs⟩
    · exact .inl h
    · cases hans
      refine .inr ⟨⟨o, ha⟩, rfl, ?_⟩
      rw [hs]
      exact (effect_settle (s.advance t _ _ { s.world with nextUuid := s.world.nextUuid + 1 }) t).uuid
  have hf : ∀ t pageId, (s.threads t).hist.Heard .newPageId pageId →
      pageId ≠ X.uuid s.world.nextUuid := by
    rintro t pageId h rfl
    obtain ⟨n, hn, he⟩ := ih.drawn t _ h
    have := X.uuid_injective he
    omega
  constructor
  · intro t pageId h
    rcases hw t pageId h with h | ⟨-, he, hlt⟩
    · obtain ⟨n, hn, he⟩ := ih.drawn t pageId h
      exact ⟨n, hn.trans_le (uuid_step s a), he⟩
    · exact ⟨_, hlt, he⟩
  · intro t t' pageId h h'
    rcases hw t pageId h with h | ⟨⟨_, ha⟩, he, -⟩ <;>
      rcases hw t' pageId h' with h' | ⟨⟨_, ha'⟩, he', -⟩
    · exact ih.unique t t' pageId h h'
    · exact absurd he' (hf t pageId h)
    · exact absurd he (hf t' pageId h')
    · cases ha.symm.trans ha'
      rfl

/-! ## Messages -/

/-- The broker, what calls have taken from it, and its acknowledgements fit together. -/
structure Kept (X : Crates) (D : Deployment) (calls : Nat → Call) (s : PageSys) : Prop where
  sound : Sound s.world
  next : ∀ t ch d, (s.threads t).hist.Heard (.next ch) (some d) →
    (s.world.channels ch).delivered[d.deliveryTag]? = some d.message ∧
      d.deliveryTag < (s.world.channels ch).taken
  acks : ∀ e ∈ s.world.acks, s.world.place e.message = some .acked ∧
    (s.world.channels e.channel).delivered[e.tag]? = some e.message ∧
    AckOk X D (calls e.call) (s.threads e.call).hist e.channel e.tag
  once : (s.world.acks.map Acked.message).Nodup

variable {ch tag : Nat}

lemma AckOk.taken (hr : Runs X D calls (start X D gaps owners calls) s)
    (h : AckOk X D (calls t) (s.threads t).hist ch tag) :
    ∃ p m, (s.threads p).hist.Heard (.next ch) (some ⟨tag, m⟩) := by
  rcases h with ⟨_, _, _, _, _, m, -, -, hn, -⟩ | ⟨_, _, _, -, ha, rfl, ht⟩
  · exact ⟨t, m, hn⟩
  · obtain ⟨p, hp⟩ := removed_origin hr ha
    obtain ⟨m, hm⟩ := (pageOf_of_did hr hp).tags tag ht
    exact ⟨p, m, hm⟩

structure Grown (w w' : PageWorld) : Prop where
  delivered : ∀ ch, (w.channels ch).delivered <+: (w'.channels ch).delivered
  taken : ∀ ch, (w.channels ch).taken ≤ (w'.channels ch).taken
  acked : ∀ m, w.place m = some .acked → w'.place m = some .acked

variable {w' : PageWorld}

lemma Goes.grown (h : Goes w w') : Grown w w' :=
  ⟨h.delivered, h.taken, h.acked⟩

lemma Grown.get (h : Grown w w') (hm : (w.channels ch).delivered[tag]? = some m) :
    (w'.channels ch).delivered[tag]? = some m := by
  obtain ⟨_, he⟩ := h.delivered ch
  rw [← he, List.getElem?_append_left (List.getElem?_eq_some_iff.1 hm).1]
  exact hm

lemma AckStep.sound (h : AckStep t ch tag m w w') (hs : Sound w)
    (ha : tag < (w.channels ch).taken) : Sound w' := by
  obtain ⟨-, _, ⟨_, hp⟩, rfl⟩ := h
  refine ⟨hs.fresh, fun ch' tag' m' ho ht hm' => ?_⟩
  obtain ⟨queue', hp'⟩ := hs.waiting ch' tag' m' ho ht hm'
  refine ⟨queue', ?_⟩
  have hne : m' ≠ m := by
    rintro rfl
    rw [hp] at hp'
    cases hp'
    exact absurd ha (Nat.not_lt.2 ht)
  exact (update_of_ne hne _ _).trans hp'

lemma AckStep.grown (h : AckStep t ch tag m w w') : Grown w w' := by
  obtain ⟨-, -, -, rfl⟩ := h
  refine ⟨fun _ => prefix_rfl, fun _ => Nat.le_refl _, fun m' hm' => ?_⟩
  by_cases hne : m' = m
  · subst hne
    exact update_self ..
  · exact (update_of_ne hne _ _).trans hm'

lemma broker_step (hr : Runs X D calls (start X D gaps owners calls) s) (hk : Kept X D calls s)
    (a : Action Env) : Sound (s.step (pages X) a).world ∧ Grown s.world (s.step (pages X) a).world ∧
    ((s.step (pages X) a).world.acks = s.world.acks ∨ ∃ t ch tag m k,
      (s.threads t).prog = .cmd (.basicAck ch tag) k ∧
      (s.step (pages X) a).world.acks = ⟨t, ch, tag, m⟩ :: s.world.acks ∧
      (s.step (pages X) a).world.place m = some .acked ∧ s.world.place m ≠ some .acked ∧
      (s.world.channels ch).delivered[tag]? = some m) := by
  rcases step_effect (X := X) s a with he | ⟨t, _, _, _, page, k, -, -, -, he⟩ |
    ⟨t, _, ch, tag, m, k, _, -, hp, ha, he⟩
  · have hg := he.broker hk.sound
    exact ⟨hg.sound, hg.grown, .inl hg.acks⟩
  · -- a page is inserted: to the broker its channel only changes hands
    have hg := ((effect_hold s.world page.channel none).broker hk.sound)
    have hg' := he.broker ⟨hg.sound.fresh, hg.sound.waiting⟩
    exact ⟨hg'.sound, (hg.trans ⟨hg'.sound, hg'.delivered, hg'.taken, hg'.acked, hg'.acks⟩).grown,
      Or.inl (hg'.acks.trans hg.acks)⟩
  · obtain ⟨p, _, hm'⟩ := AckOk.taken hr (cmdOk_of_runs hr hp)
    have hg := he.broker (ha.sound hk.sound (hk.next p ch _ hm').2)
    have hgr := ha.grown
    refine ⟨hg.sound, ⟨fun ch => (hgr.delivered ch).trans (hg.delivered ch),
      fun ch => (hgr.taken ch).trans (hg.taken ch), fun m hm => hg.acked m (hgr.acked m hm)⟩,
      Or.inr ⟨t, ch, tag, m, k, hp, ?_, hg.acked m ?_, ?_, ha.delivered⟩⟩
    · rw [hg.acks, ha.world]
    · rw [ha.world]
      exact update_self ..
    · obtain ⟨_, hq⟩ := ha.waits
      rw [hq]
      simp

variable {o : Outcome}

lemma next_answered {d : Delivery}
    (h : (pages X).answer t (.next ch) o w = some (.ok (some d), w')) :
    (w.channels ch).isOpen = true ∧ d.deliveryTag = (w.channels ch).taken ∧
      (w.channels ch).delivered[d.deliveryTag]? = some d.message ∧
      (w'.channels ch).taken = (w.channels ch).taken + 1 := by
  simp only [pages, answer] at h
  split at h
  · cases h
  · unfold remote at h
    split at h
    · unfold PageWorld.onOpen at h
      split at h
      · rename_i ho
        rcases next_cases w ch with hn | ⟨_, hm, hn⟩
        · rw [hn] at h
          cases h
        · rw [hn] at h
          cases h
          refine ⟨ho, rfl, hm, ?_⟩
          show (update w.channels ch _ ch).taken = _
          rw [update_self]
      · cases h
    · cases h
    · cases h
    · cases h

section

variable (hr : Runs X D calls (start X D gaps owners calls) s)
include hr

lemma kept_of_runs : Kept X D calls s := by
  refine hr.invariant ?_ fun s a hr _ ih => ?_
  · refine ⟨⟨fun ch _ => ⟨rfl, rfl, rfl⟩, fun ch tag m ho => ?_⟩, fun t ch d h => ?_, fun e he => ?_,
      nodup_nil⟩
    · cases ho
    · exact absurd h (not_heard_nil _ _)
    · cases he
  obtain ⟨hso, hg, hc⟩ := broker_step hr ih a
  have hold : ∀ e ∈ s.world.acks, (s.step (pages X) a).world.place e.message = some .acked ∧
      ((s.step (pages X) a).world.channels e.channel).delivered[e.tag]? = some e.message ∧
      AckOk X D (calls e.call) ((s.step (pages X) a).threads e.call).hist e.channel e.tag := by
    intro e he
    obtain ⟨hp, hd, hok⟩ := ih.acks e he
    exact ⟨hg.acked _ hp, hg.get hd, hok.mono (hist_suffix_step (pages X) s a e.call)⟩
  refine ⟨hso, fun t ch d h => ?_, ?_, ?_⟩
  · rcases heard_of_step h with h | ⟨_, k, w, -, -, ha, hs⟩
    · obtain ⟨hd, ht⟩ := ih.next t ch d h
      exact ⟨hg.get hd, ht.trans_le (hg.taken ch)⟩
    · obtain ⟨-, _, hd, _⟩ := next_answered ha
      refine ⟨hg.get hd, ?_⟩
      have hw : Effect s.world w := effect_answer (X := X) (t := t) (q := .next ch) ha
      have hn := (effect_settle (X := X) (s.advance t (k (some d))
        ((pages X).clock s.world, .heard (.next ch) (some d)) w) t).broker (hw.broker ih.sound).sound
      rw [← hs, advance_world] at hn
      have hta' := hn.taken ch
      omega
  · rcases hc with he | ⟨t, ch, tag, m, k, hp, he, hl, -, hd⟩
    · rw [he]
      exact hold
    · rw [he]
      intro e hmem
      rcases mem_cons.1 hmem with rfl | hmem
      · have hok : AckOk X D (calls t) (s.threads t).hist ch tag := cmdOk_of_runs hr hp
        exact ⟨hl, hg.get hd, hok.mono (hist_suffix_step (pages X) s a t)⟩
      · exact hold e hmem
  · rcases hc with he | ⟨_, _, _, m, _, _, he, -, hl, _⟩
    · rw [he]
      exact ih.once
    · rw [he, map_cons, nodup_cons]
      refine ⟨fun hmem => ?_, ih.once⟩
      obtain ⟨e, hme, hm⟩ := mem_map.1 hmem
      replace hm : e.message = m := hm
      exact hl (hm ▸ (ih.acks e hme).1)

lemma not_taken_again (hre : Runs X D calls s s') {e : Acked} (he : e ∈ s.world.acks) {d : Delivery}
    (hd : (s'.threads p).hist.Heard (.next ch) (some d)) (hm : d.message = e.message) :
    (s.threads p).hist.Heard (.next ch) (some d) := by
  have key : s'.world.place e.message = some .acked ∧ ((s'.threads p).hist.Heard (.next ch) (some d) →
      (s.threads p).hist.Heard (.next ch) (some d)) := by
    refine hre.invariant (P := fun s' => s'.world.place e.message = some .acked ∧
        ((s'.threads p).hist.Heard (.next ch) (some d) → (s.threads p).hist.Heard (.next ch) (some d)))
      ⟨((kept_of_runs hr).acks e he).1, id⟩ fun s₁ a hr₁ _ ih => ?_
    have hk := kept_of_runs (hr.trans hr₁)
    refine ⟨(broker_step (hr.trans hr₁) hk a).2.1.acked _ ih.1, fun h => ?_⟩
    rcases heard_of_step h with h | ⟨_, _, _, -, -, ha, -⟩
    · exact ih.2 h
    · -- the next message waits on its channel, so it is not acknowledged
      obtain ⟨ho, ht, hd, -⟩ := next_answered ha
      obtain ⟨_, hq⟩ := hk.sound.waiting ch _ _ ho (Nat.le_of_eq ht.symm) hd
      rw [hm, ih.1] at hq
      cases hq
  exact key.2 hd

end

/-! ## The protocol -/

section

variable (hcodec : ∀ claims, X.fromSlice (X.toVec claims) = some claims)
  (hr : Runs X D calls (start X D gaps owners calls) s)
include hcodec hr

section

variable (h : Presented X D (calls t) (s.threads t).hist claims)
include h

/-- When a session has presented a token, the claims in it were issued before. -/
lemma issued_of_presented : ∃ p, (s.threads p).hist.Did (.issue claims) := by
  obtain ⟨i, session, request, _, ha, ho, hv, -⟩ := h
  obtain ⟨payload, hp, hl, -⟩ := verify_eq_ok.1 hv
  -- the first step of the commit was taken when its token was no forgery
  have key : (s.threads t).hist ≠ [] → ∃ p claims, (s.threads p).hist.Did (.issue claims) ∧
      X.toVec claims = payload := by
    refine hr.invariant (P := fun s => (s.threads t).hist ≠ [] → ∃ p claims,
      (s.threads p).hist.Did (.issue claims) ∧ X.toVec claims = payload) (fun h => absurd rfl h) ?_
    intro s a _ hc ih hne
    have hold : (∃ p claims, (s.threads p).hist.Did (.issue claims) ∧ X.toVec claims = payload) →
        ∃ p claims, ((s.step (pages X) a).threads p).hist.Did (.issue claims) ∧
          X.toVec claims = payload := by
      rintro ⟨p, claims, hd, he⟩
      exact ⟨p, claims, hd.mono (hist_suffix_step (pages X) s a p), he⟩
    by_cases hn : (s.threads t).hist = []
    · rcases step_moved (pages X) s a t with hs | ⟨_, rfl⟩
      · rw [hs] at hne
        exact absurd hn hne
      · exact hold (hc i session request payload ha hn hp)
    · exact hold (ih hn)
  obtain ⟨p, _, hd, he⟩ := key (by
    intro hn
    rw [hn] at ho
    exact not_heard_nil _ _ ho)
  rw [← he, hcodec] at hl
  cases hl
  exact ⟨p, hd⟩

/-- The page a session's token is taken for was inserted by the pull that issued the token. -/
lemma pull_of_presented {j : Nat}
    (ha : (s.threads t).hist.Heard (.removePending j claims.pageId) (some page)) :
    ∃ p, (s.threads p).hist.Did (.issue claims) ∧ TokenOf (calls p) (s.threads p).hist claims ∧
      PageOf (calls p) (s.threads p).hist j claims.pageId page := by
  obtain ⟨p, hs⟩ := issued_of_presented hcodec hr h
  obtain ⟨p', hi⟩ := removed_origin hr ha
  have ht := tokenOf_of_did hr hs
  have hp := pageOf_of_did hr hi
  obtain rfl : p = p' := (ids_of_runs hr).unique p p' _ ht.pageId hp.pageId
  exact ⟨p, hs, ht, hp⟩

end

/-- The acknowledged message was written by the principal that pulled it, or a session of this
principal had presented an unexpired token of the page that carried it. -/
def Justified (X : Crates) (D : Deployment) (calls : Nat → Call) (s : PageSys) (e : Acked) : Prop :=
  ∃ p i session cls limit pageId, calls p = .pull i session cls limit ∧
    (s.threads p).hist.Heard .newPageId pageId ∧
    (s.threads p).hist.Heard (.next e.channel) (some ⟨e.tag, e.message⟩) ∧
    (AuthoredBy D e.message session.principalId ∨
      ∃ t j session' request now claims, calls t = .commit j session' request ∧
        session'.networkId = session.networkId ∧ session'.principalId = session.principalId ∧
        (s.threads t).hist.Heard (.nowMs j) now ∧
        verify X D.commitHmacSecret request.commitToken now = .ok claims ∧
        now < claims.expiresAt ∧ claims.pageId = pageId ∧ (s.threads p).hist.Did (.issue claims))

lemma justified_of_runs {e : Acked} (he : e ∈ s.world.acks) : Justified X D calls s e := by
  have hk := kept_of_runs hr
  obtain ⟨-, hd, hok⟩ := hk.acks e he
  -- the message under the tag of the acknowledgement is the acknowledged one
  have hme : ∀ p m, (s.threads p).hist.Heard (.next e.channel) (some ⟨e.tag, m⟩) →
      m = e.message := by
    intro p m hm
    exact Option.some.inj ((hk.next p _ _ hm).1.symm.trans hd)
  rcases hok with ⟨i, session, cls, limit, pageId, m, hca, hi, hn, ha⟩ |
    ⟨claims, j, _, hp, hpa, hh, ht⟩
  · obtain rfl := hme e.call m hn
    exact ⟨e.call, i, session, cls, limit, pageId, hca, hi, hn, .inl ha⟩
  · obtain ⟨p, hs, hto, hg⟩ := pull_of_presented hcodec hr hp hpa
    obtain ⟨session, _, limit, hca, -, -, -⟩ := hg.pull
    obtain ⟨_, _, _, hca', hnet, hpri⟩ := hto.pull
    rw [hca] at hca'
    cases hca'
    obtain ⟨m, hm⟩ := hg.tags e.tag ht
    rw [hh] at hm
    obtain rfl := hme p m hm
    obtain ⟨i, presenter, request, now, hc, ho, hv, hn, hpr, -⟩ := hp
    refine ⟨p, j, session, _, limit, claims.pageId, hca, hg.pageId, hm, .inr ⟨e.call, i,
      presenter, request, now, claims, hc, ?_, ?_, ho, hv, ?_, rfl, hs⟩⟩
    · rw [← hn, hnet]
    · rw [← hpr, hpri]
    · obtain ⟨_, -, -, hlt⟩ := verify_eq_ok.1 hv
      exact hlt

end

/-! ### The mismatch -/

variable {e : String}

lemma remote_error {α : Type} {r : Except String α × PageWorld}
    (h : remote o w r = some (.error e, w')) (hr : ∀ e, r.1 = .error e → Other e) : Other e := by
  unfold remote at h
  split at h
  · cases h
    exact hr e rfl
  · cases h
    decide
  · cases h
    decide
  · cases h
    decide

lemma onOpen_error {α : Type} {r : Except String α × PageWorld}
    (hr : ∀ e, r.1 = .error e → Other e) (h : (w.onOpen ch r).1 = .error e) : Other e := by
  unfold PageWorld.onOpen at h
  split at h
  · exact hr e h
  · cases h
    decide

lemma basicAck_error (h : (w.basicAck t ch tag).1 = .error e) : Other e := by
  unfold PageWorld.basicAck at h
  repeat' split at h
  all_goals cases h
  all_goals decide

lemma gapsPerform_error {c : Gaps.Cmd} {w w' : Gaps.GapWorld}
    (h : Gaps.perform t c o w = some (.error e, w')) : Other e := by
  unfold Gaps.perform at h
  repeat' split at h
  all_goals cases h
  all_goals decide

lemma gapsReply_error {q : Gaps.Query} {w : Gaps.GapWorld} (h : (Gaps.reply w q).1 = .error e) :
    Other e := by
  cases q with
  | selectGaps =>
    simp only [Gaps.reply] at h
    split at h
    · cases h
      decide
    · cases h
  | acknowledge => cases h
  | deleteAcknowledged => cases h
  | clock => cases h

lemma gapsAnswer_error {q : Gaps.Query} {w w' : Gaps.GapWorld}
    (h : Gaps.answer t q o w = some (.error e, w')) : Other e := by
  unfold Gaps.answer at h
  split at h
  · exact gapsReply_error (congrArg Prod.fst (Option.some.inj h))
  · cases h
    decide
  · cases h
    decide

lemma perform_error {c : Cmd} (h : perform t c o w = some (.error e, w')) : Other e := by
  have hok : ∀ e, (Except.ok () : Except String Unit) = .error e → Other e := fun e he => by cases he
  cases c with
  | gaps =>
    obtain ⟨r, hr, he⟩ := map_eq_some_iff.1 h
    cases r
    cases he
    exact gapsPerform_error hr
  | basicQos | basicConsume | basicCancel | close =>
    exact remote_error h fun e => onOpen_error hok
  | basicAck => exact remote_error h fun e => onOpen_error fun e => basicAck_error
  | insertPending | issue => cases h
  | _ => exact remote_error h hok

lemma answer_error {q : Query} (h : answer X t q o w = some (.error e, w')) : Other e := by
  have hok : ∀ {α : Type} {a : α} e, (Except.ok a : Except String α) = .error e → Other e :=
    fun e he => by cases he
  cases q with
  | gaps =>
    obtain ⟨r, hr, he⟩ := map_eq_some_iff.1 h
    cases r
    cases he
    exact gapsAnswer_error hr
  | tryAcquireOwner | loadOwner | createChannel => exact remote_error h hok
  | next =>
    simp only [answer] at h
    split at h
    · cases h
    · exact remote_error h fun e => onOpen_error hok
  | _ => cases h

lemma not_mismatched (hcodec : ∀ claims, X.fromSlice (X.toVec claims) = some claims)
    (hr : Runs X D calls (start X D gaps owners calls) s) (t : Nat) :
    ¬ Mismatched X D (calls t) (s.threads t).hist := by
  rintro ⟨claims, _, page, hp, hpa, hne⟩
  obtain ⟨p, -, ht, hg⟩ := pull_of_presented hcodec hr hp hpa
  obtain ⟨_, _, _, hca, -, hpr, hc⟩ := hg.pull
  obtain ⟨_, _, _, hca', -, hpr'⟩ := ht.pull
  rw [hca] at hca'
  cases hca'
  have ho : ∀ h, (pageRule X D (calls p)).onAsk h .newEpoch →
      ∀ epoch, ¬ h.Heard Query.newEpoch epoch := fun _ ha => ha
  have he : page.consumerEpoch = claims.consumerEpoch :=
    hr.heard_unique start_follows (fun _ => rfl) ho hg.epoch ht.epoch
  rcases hne with h | h | h
  · exact h (hpr.trans hpr'.symm)
  · exact h hc
  · exact h he

/-- The page commit protocol: an acknowledgement is of the pulling principal's own message or comes
after the page's unexpired token was presented by a session of the principal; no message is
acknowledged twice or taken by a page after it was acknowledged; and no commit ends with the
mismatch. -/
theorem page_commits (hcodec : ∀ claims, X.fromSlice (X.toVec claims) = some claims)
    (hr : Runs X D calls (start X D gaps owners calls) s) :
    (∀ e ∈ s.world.acks, Justified X D calls s e) ∧ (s.world.acks.map Acked.message).Nodup ∧
    (∀ s', Runs X D calls s s' → ∀ e ∈ s.world.acks, ∀ p ch d,
      (s'.threads p).hist.Heard (.next ch) (some d) → d.message = e.message →
        (s.threads p).hist.Heard (.next ch) (some d)) ∧
    ∀ t, (s.threads t).prog ≠ .fail mismatch := by
  refine ⟨fun e he => justified_of_runs hcodec hr he, (kept_of_runs hr).once,
    fun s' hre e he p ch d hd hm => not_taken_again hr hre he hd hm, fun t ha => ?_⟩
  have hf := hr.failsWhen (F := fun t => MismatchOnly X D (calls t)) (fun t => prog_fails (calls t))
    (fun _ _ _ _ _ _ h _ he => absurd he (perform_error h))
    (fun _ _ _ _ _ _ h _ he => absurd he (answer_error h)) t
  rw [ha] at hf
  exact not_mismatched hcodec hr t (hf rfl)

end Runs

/-! ## A forwarded commit -/

namespace Forwarded

def encodeNats : List Nat → Bytes
  | [] => []
  | n :: ns => replicate (n / 16) 2 ++ (replicate (n % 16) 1 ++ 0 :: encodeNats ns)

def decodeNats : Bytes → Nat → List Nat
  | [], _ => []
  | b :: bs, n =>
    if b = 0 then n :: decodeNats bs 0 else decodeNats bs (n + if b = 1 then 1 else 16)

lemma decodeNats_replicate {b : UInt8} (hb : b ≠ 0) (n k : Nat) (bs : Bytes) :
    decodeNats (replicate n b ++ bs) k = decodeNats bs (k + n * if b = 1 then 1 else 16) := by
  induction n generalizing k with
  | zero => simp
  | succ _ ih =>
    rw [replicate_succ, cons_append, decodeNats, if_neg hb, ih, Nat.succ_mul]
    congr 1
    omega

lemma decodeNats_encodeNats (ns : List Nat) : decodeNats (encodeNats ns) 0 = ns := by
  induction ns with
  | nil => rfl
  | cons _ _ ih =>
    rw [encodeNats, decodeNats_replicate (by decide), decodeNats_replicate (by decide), decodeNats,
      if_pos rfl, ih, if_pos rfl, if_neg (by decide)]
    congr 1
    omega

def textNats (s : String) : List Nat := s.toList.length :: s.toList.map Char.toNat

def takeText : List Nat → Option (String × List Nat)
  | [] => none
  | n :: ns => some (String.ofList ((ns.take n).map Char.ofNat), ns.drop n)

lemma takeText_textNats (s : String) (ns : List Nat) :
    takeText (textNats s ++ ns) = some (s, ns) := by
  have hc : (s.toList.map Char.toNat).map Char.ofNat = s.toList := by
    rw [List.map_map]
    exact List.map_id'' (fun c => Char.ofNat_toNat c) s.toList
  have hl : (s.toList.map Char.toNat).length = s.toList.length := List.length_map ..
  unfold textNats
  rw [List.cons_append, takeText, List.take_left' hl, List.drop_left' hl, hc, String.ofList_toList]

def claimsNats (c : CommitClaims) : List Nat :=
  textNats c.pageId ++ (textNats c.networkId ++ (textNats c.principalId ++
    (textNats c.ownerInstanceId ++
      [if c.deliveryClass = .interactive then 0 else 1, c.consumerEpoch, c.expiresAt])))

def natsClaims (ns : List Nat) : Option CommitClaims := do
  let (pageId, ns) ← takeText ns
  let (networkId, ns) ← takeText ns
  let (principalId, ns) ← takeText ns
  let (ownerInstanceId, ns) ← takeText ns
  match ns with
  | [cls, epoch, expiresAt] =>
    some ⟨pageId, networkId, principalId, if cls = 0 then .interactive else .bulk, ownerInstanceId,
      epoch, expiresAt⟩
  | _ => none

lemma natsClaims_claimsNats (c : CommitClaims) : natsClaims (claimsNats c) = some c := by
  unfold natsClaims claimsNats
  simp only [takeText_textNats, bind_eq_bind, bind_some]
  cases c with
  | mk _ _ _ cls => cases cls <;> rfl

def crates : Crates where
  toWattswarm := Message.Sample.wattswarm []
  uuid n := String.ofList (replicate n 'u')
  uuid_injective n n' h := by
    have hl := congrArg (fun s => s.toList.length) h
    simpa using hl
  hexEncode bytes :=
    String.ofList (bytes.map fun b => if b = 0 then '0' else if b = 1 then '1' else '2')
  hexDecode s := some (s.toList.map fun c => if c = '0' then 0 else if c = '1' then 1 else 2)
  mac secret payload := secret ++ payload
  toVec claims := encodeNats (claimsNats claims)
  fromSlice bytes := natsClaims (decodeNats bytes 0)
  tokenAllowed _ := true
  pageValid _ := true

lemma crates_codec (claims : CommitClaims) :
    crates.fromSlice (crates.toVec claims) = some claims := by
  show natsClaims (decodeNats (encodeNats (claimsNats claims)) 0) = _
  rw [decodeNats_encodeNats, natsClaims_claimsNats]

def deployment : Deployment where
  commitHmacSecret := [1]
  gateway i := ⟨if i = 0 then "" else "b", some "a", some [], some [], 1, 10, 1⟩
  answering _ := some 0
  envelope _ := some (.record ⟨"n", "q", "r", ⟨.global, .events, ""⟩, [], none, .interactive, 1, 0,
    none⟩)

def claims : CommitClaims := ⟨"", "n", "p", .interactive, "", 1, 10⟩

def token : String := (issue crates deployment.commitHmacSecret claims).toOption.getD ""

def pageCalls : Nat → Call
  | 0 => .pull 0 ⟨"n", "p"⟩ .interactive none
  | _ => .commit 1 ⟨"n", "p"⟩ ⟨"", .interactive, token⟩

def pullActs : List (Action Env) :=
  .env (.arrive 0 "ws.cs.n.p.interactive") :: replicate 9 (.run 0 .ok) ++
    .env (.push 0 0) :: replicate 6 (.run 0 .ok)

def begun : PageSys := start crates deployment ⟨.empty, 0, [], [], []⟩ .empty pageCalls

def pulled : PageSys := begun.runActions (pages crates) pullActs

def committed : PageSys := pulled.runActions (pages crates) (replicate 11 (.run 1 .ok))

def isIssue : Nat × Entry Cmd Query Ans → Bool
  | (_, .did (.issue c)) => c = claims
  | _ => false

set_option maxRecDepth 100000

lemma pulled_issued : (pulled.threads 0).hist.Did (.issue claims) := by
  have h : ((pulled.threads 0).hist.any isIssue) = true := by decide
  obtain ⟨⟨τ, e⟩, hm, he⟩ := any_eq_true.1 h
  cases e with
  | heard => cases he
  | did c =>
    cases c <;> try cases he
    obtain rfl := of_decide_eq_true he
    exact ⟨τ, hm⟩

/-- The token is no forgery while it is presented, for its pull has issued it. -/
lemma runs_committed : Runs crates deployment pageCalls begun committed := by
  have hu : Runs crates deployment pageCalls begun pulled := by
    refine reaches_runActions_of _ _ fun a ha s => ?_
    simp only [pullActs, cons_append, mem_cons, mem_append, mem_replicate] at ha
    rcases ha with rfl | ⟨-, rfl⟩ | rfl | ⟨-, rfl⟩
    · trivial
    · intro _ _ _ _ hc
      cases hc
    · trivial
    · intro _ _ _ _ hc
      cases hc
  refine hu.trans (reaches_alone 11 pulled fun j _ ho => ?_).1
  intro _ _ _ _ hc _ hp
  cases hc
  refine ⟨0, claims, ?_, ?_⟩
  · rw [ho 0 (by decide)]
    exact pulled_issued
  · have ht : genuinePayload crates deployment.commitHmacSecret token =
        .ok (crates.toVec claims) := by decide
    rw [ht] at hp
    exact Except.ok.inj hp

end Forwarded

open Forwarded in
theorem page_commits_forwarded : committed.world.acks = [⟨1, 0, 0, 0⟩] ∧
    (∀ e ∈ committed.world.acks, Justified crates deployment pageCalls committed e) ∧
    (committed.world.acks.map Acked.message).Nodup ∧
    (∀ s', Runs crates deployment pageCalls committed s' → ∀ e ∈ committed.world.acks, ∀ p ch d,
      (s'.threads p).hist.Heard (.next ch) (some d) → d.message = e.message →
        (committed.threads p).hist.Heard (.next ch) (some d)) ∧
    ∀ t, (committed.threads t).prog ≠ .fail mismatch :=
  ⟨by decide +kernel, page_commits crates_codec runs_committed⟩

end WattGateway.Message.Pages
