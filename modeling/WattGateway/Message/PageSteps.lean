import WattGateway.Message.Pages

/-!
# The steps of a page's calls

`Effect` says once what every step does to the broker, the identifiers and the maps of pending
pages. The two steps it leaves out are the insertion of a page and an acknowledgement
(`step_effect`).
-/

namespace WattGateway.Message.Pages

open Prog Hist List Option Sys Function PageWorld

/-- New channels are closed and empty, and a message that the consumer of an open channel has
received and the gateway has not taken waits on this channel. -/
structure Sound (w : PageWorld) : Prop where
  fresh : ∀ ch, w.nextChannel ≤ ch → (w.channels ch).isOpen = false ∧
    (w.channels ch).delivered = [] ∧ (w.channels ch).taken = 0
  waiting : ∀ ch tag m, (w.channels ch).isOpen = true → (w.channels ch).taken ≤ tag →
    (w.channels ch).delivered[tag]? = some m → ∃ queue, w.place m = some (.unacked queue ch tag)

/-- The broker goes on without an acknowledgement. -/
structure Goes (w w' : PageWorld) : Prop where
  sound : Sound w'
  delivered : ∀ ch, (w.channels ch).delivered <+: (w'.channels ch).delivered
  taken : ∀ ch, (w.channels ch).taken ≤ (w'.channels ch).taken
  acked : ∀ m, w.place m = some .acked → w'.place m = some .acked
  acks : w'.acks = w.acks

/-- What every step does, insertions of pages and acknowledgements apart. -/
structure Effect (w w' : PageWorld) : Prop where
  uuid : w.nextUuid ≤ w'.nextUuid
  pending : ∀ i pageId page, (w'.pending i).get? pageId = some page →
    (w.pending i).get? pageId = some page
  broker : Sound w → Goes w w'

variable {w : PageWorld}

lemma Goes.refl (h : Sound w) : Goes w w :=
  ⟨h, fun _ => prefix_refl _, fun _ => Nat.le_refl _, fun _ hm => hm, rfl⟩

variable {w' : PageWorld}

lemma Goes.trans {w'' : PageWorld} (h : Goes w w') (h' : Goes w' w'') : Goes w w'' where
  sound := h'.sound
  delivered ch := (h.delivered ch).trans (h'.delivered ch)
  taken ch := (h.taken ch).trans (h'.taken ch)
  acked m hm := h'.acked m (h.acked m hm)
  acks := h'.acks.trans h.acks

namespace Effect

variable {w w' w'' : PageWorld}

lemma refl (w : PageWorld) : Effect w w :=
  ⟨Nat.le_refl _, fun _ _ _ h => h, Goes.refl⟩

lemma trans (h : Effect w w') (h' : Effect w' w'') : Effect w w'' where
  uuid := h.uuid.trans h'.uuid
  pending i pageId page hp := h.pending i pageId page (h'.pending i pageId page hp)
  broker hs := (h.broker hs).trans (h'.broker (h.broker hs).sound)

end Effect

/-- A step changes one channel: what the broker has delivered there and the gateway has taken
grows, the messages of the other channels stay where they are. -/
lemma goes_of_channel (ch : Nat) (hs : Sound w)
    (hne : ∀ ch', ch' ≠ ch → w'.channels ch' = w.channels ch')
    (hn : w.nextChannel ≤ w'.nextChannel)
    (hf : w'.nextChannel ≤ ch → (w'.channels ch).isOpen = false ∧
      (w'.channels ch).delivered = [] ∧ (w'.channels ch).taken = 0)
    (hw : ∀ tag m, (w'.channels ch).isOpen = true → (w'.channels ch).taken ≤ tag →
      (w'.channels ch).delivered[tag]? = some m → ∃ queue, w'.place m = some (.unacked queue ch tag))
    (hk : ∀ ch' m queue tag, ch' ≠ ch → w.place m = some (.unacked queue ch' tag) →
      w'.place m = some (.unacked queue ch' tag))
    (hd : (w.channels ch).delivered <+: (w'.channels ch).delivered)
    (hta : (w.channels ch).taken ≤ (w'.channels ch).taken)
    (ha : ∀ m, w.place m = some .acked → w'.place m = some .acked) (hac : w'.acks = w.acks) :
    Goes w w' := by
  refine ⟨⟨fun ch' hc => ?_, fun ch' tag m ho ht hm => ?_⟩, fun ch' => ?_, fun ch' => ?_, ha,
    hac⟩ <;> by_cases h : ch' = ch
  · subst h
    exact hf hc
  · rw [hne ch' h]
    exact hs.fresh ch' (hn.trans hc)
  · subst h
    exact hw tag m ho ht hm
  · rw [hne ch' h] at ho ht hm
    obtain ⟨queue, hp⟩ := hs.waiting ch' tag m ho ht hm
    exact ⟨queue, hk ch' m queue tag h hp⟩
  · subst h
    exact hd
  · simp only [hne ch' h, prefix_rfl]
  · subst h
    exact hta
  · rw [hne ch' h]

section Effects

variable (w : PageWorld)

lemma effect_other {w : PageWorld} (hc : w'.channels = w.channels) (hp : w'.place = w.place)
    (hn : w'.nextChannel = w.nextChannel) (ha : w'.acks = w.acks) (hpa : w'.pending = w.pending)
    (hu : w.nextUuid ≤ w'.nextUuid) : Effect w w' := by
  refine ⟨hu, fun _ _ _ h => hpa ▸ h, fun hs => ⟨⟨?_, ?_⟩, fun ch => ?_, fun ch => ?_, ?_, ha⟩⟩
  · rw [hn, hc]
    exact hs.fresh
  · rw [hc, hp]
    exact hs.waiting
  · simp only [hc, prefix_rfl]
  · rw [hc]
  · rw [hp]
    exact fun _ hm => hm

lemma effect_setChannel (ch : Nat) (c : Channel) (ho : c.isOpen = (w.channels ch).isOpen)
    (hd : c.delivered = (w.channels ch).delivered) (ht : c.taken = (w.channels ch).taken) :
    Effect w (w.setChannel ch c) := by
  have he : (w.setChannel ch c).channels ch = c := update_self ..
  refine ⟨Nat.le_refl _, fun _ _ _ h => h, fun hs => goes_of_channel ch hs
    (fun ch' h => update_of_ne h ..) (Nat.le_refl _) ?_ ?_ (fun _ _ _ _ _ h => h) ?_ ?_
    (fun _ h => h) rfl⟩
  all_goals rw [he]
  · rw [ho, hd, ht]
    exact hs.fresh ch
  · rw [ho, hd, ht]
    exact hs.waiting ch
  · simp only [hd, prefix_rfl]
  · exact Nat.le_of_eq ht.symm

lemma effect_hold (ch : Nat) (t : Option Nat) : Effect w (w.hold ch t) :=
  effect_setChannel w ch _ rfl rfl rfl

lemma effect_holdAll (t : Nat) (pages : List PendingPage) :
    Effect w (pages.foldl (fun w page => w.hold page.channel (some t)) w) := by
  induction pages generalizing w with
  | nil => exact Effect.refl w
  | cons page _ ih => exact (effect_hold w page.channel (some t)).trans (ih _)

lemma effect_giveUp (t : Nat) : Effect w (w.giveUp t) := by
  have hc : ∀ ch, ((w.giveUp t).channels ch).isOpen = (w.channels ch).isOpen ∧
      ((w.giveUp t).channels ch).delivered = (w.channels ch).delivered ∧
      ((w.giveUp t).channels ch).taken = (w.channels ch).taken := by
    intro ch
    simp only [giveUp]
    split <;> exact ⟨rfl, rfl, rfl⟩
  refine ⟨Nat.le_refl _, fun _ _ _ h => h, fun hs => ⟨⟨fun ch hh => ?_, fun ch tag m ho ht hm => ?_⟩,
    fun ch => ?_, fun ch => ?_, fun _ h => h, rfl⟩⟩
  · rw [(hc ch).1, (hc ch).2.1, (hc ch).2.2]
    exact hs.fresh ch hh
  · rw [(hc ch).1] at ho
    rw [(hc ch).2.2] at ht
    rw [(hc ch).2.1] at hm
    exact hs.waiting ch tag m ho ht hm
  · simp only [(hc ch).2.1, prefix_rfl]
  · exact Nat.le_of_eq (hc ch).2.2.symm

lemma effect_withoutPages (i : Nat) (gone : String → PendingPage → Bool) :
    Effect w (w.withoutPages i gone) := by
  refine ⟨Nat.le_refl _, fun i' pageId page h => ?_, fun hs => ⟨⟨hs.fresh, hs.waiting⟩,
    fun _ => prefix_rfl, fun _ => Nat.le_refl _, fun _ h => h, rfl⟩⟩
  replace h : (update w.pending i _ i').get? pageId = some page := h
  by_cases hi : i' = i
  · subst hi
    rw [update_self, Table.get?_delete] at h
    exact (filter_eq_some_iff.1 h).1
  · rwa [update_of_ne hi] at h

lemma closeChannel_acked (ch : Nat) {m : Nat} (h : w.place m = some .acked) :
    (w.closeChannel ch).place m = some .acked := by
  simp only [closeChannel, h]

lemma closeChannel_unacked {ch ch' m tag : Nat} {queue : String} (hne : ch' ≠ ch)
    (h : w.place m = some (.unacked queue ch' tag)) :
    (w.closeChannel ch).place m = some (.unacked queue ch' tag) := by
  simp only [closeChannel, h, if_neg hne]

lemma effect_closeChannel (ch : Nat) : Effect w (w.closeChannel ch) := by
  have he : (w.closeChannel ch).channels ch =
      { w.channels ch with isOpen := false, consumes := none } := update_self ..
  refine ⟨Nat.le_refl _, fun _ _ _ h => h, fun hs => goes_of_channel ch hs
    (fun ch' h => update_of_ne h ..) (Nat.le_refl _) (fun hc => ?_) (fun tag m ho => ?_)
    (fun ch' m queue tag h hp => closeChannel_unacked w h hp) ?_ ?_
    (fun m hm => closeChannel_acked w ch hm) rfl⟩
  · rw [he]
    exact ⟨rfl, (hs.fresh ch hc).2⟩
  · rw [he] at ho
    cases ho
  · simp only [he, prefix_rfl]
  · have ht := congrArg Channel.taken he
    exact Nat.le_of_eq ht.symm

lemma effect_createChannel (t : Nat) : Effect w (w.createChannel t) := by
  have he : (w.createChannel t).channels w.nextChannel = ⟨none, 0, true, [], 0, some t, false⟩ :=
    update_self ..
  refine ⟨Nat.le_refl _, fun _ _ _ h => h, fun hs => goes_of_channel w.nextChannel hs
    (fun ch' h => update_of_ne h ..) (Nat.le_succ _)
    (fun hc => absurd hc (Nat.not_succ_le_self _)) (fun tag m _ _ hm => ?_)
    (fun _ _ _ _ _ h => h) ?_ ?_ (fun _ h => h) rfl⟩
  · rw [he] at hm
    cases hm
  · rw [(hs.fresh _ (Nat.le_refl _)).2.1]
    exact nil_prefix
  · rw [(hs.fresh _ (Nat.le_refl _)).2.2]
    exact Nat.zero_le _

lemma next_cases (ch : Nat) :
    (w.next ch = (none, w)) ∨ ∃ m, (w.channels ch).delivered[(w.channels ch).taken]? = some m ∧
      w.next ch = (some ⟨(w.channels ch).taken, m⟩,
        w.setChannel ch { w.channels ch with taken := (w.channels ch).taken + 1 }) := by
  unfold PageWorld.next
  cases hm : (w.channels ch).delivered[(w.channels ch).taken]? with
  | none => exact .inl (by simp only [hm])
  | some m => exact .inr ⟨m, rfl, by simp only [hm]⟩

lemma effect_next (ch : Nat) : Effect w (w.next ch).2 := by
  rcases next_cases w ch with h | ⟨_, hm, h⟩
  · rw [h]
    exact Effect.refl w
  · rw [h]
    have he : (w.setChannel ch { w.channels ch with
        taken := (w.channels ch).taken + 1 }).channels ch =
      { w.channels ch with taken := (w.channels ch).taken + 1 } := update_self ..
    refine ⟨Nat.le_refl _, fun _ _ _ h => h, fun hs => goes_of_channel ch hs
      (fun ch' h => update_of_ne h ..) (Nat.le_refl _) (fun hc => ?_)
      (fun tag m' ho ht hm' => ?_) (fun _ _ _ _ _ h => h) ?_ ?_ (fun _ h => h) rfl⟩
    · -- a new channel has nothing to take
      rw [(hs.fresh ch hc).2.1] at hm
      cases hm
    · rw [he] at ho ht hm'
      exact hs.waiting ch tag m' ho (Nat.le_of_succ_le ht) hm'
    · simp only [he, prefix_rfl]
    · rw [he]
      exact Nat.le_succ _

lemma effect_push (ch m : Nat) : Effect w (w.push ch m) := by
  unfold push
  simp only []
  split
  · rename_i queue queue' hc hp
    split
    · rename_i hco
      let c := w.channels ch
      have he : ((w.setChannel ch { c with delivered := c.delivered ++ [m] }).setPlace m
          (.unacked queue ch c.delivered.length)).channels ch =
        { c with delivered := c.delivered ++ [m] } := update_self ..
      -- the other messages, which are not the ready one, stay where they are
      have hot : ∀ m', w.place m' ≠ some (.ready queue') →
          ((w.setChannel ch { c with delivered := c.delivered ++ [m] }).setPlace m
            (.unacked queue ch c.delivered.length)).place m' = w.place m' := by
        intro m' hm'
        refine update_of_ne ?_ ..
        rintro rfl
        exact hm' hp
      refine ⟨Nat.le_refl _, fun _ _ _ h => h, fun hs => goes_of_channel ch hs
        (fun ch' h => update_of_ne h ..) (Nat.le_refl _) (fun hh => ?_)
        (fun tag m' ho ht hm' => ?_) (fun ch' m' q tag hne hp' => ?_) ?_ ?_ (fun m' hm' => ?_) rfl⟩
      · -- a new channel is closed
        rw [(hs.fresh ch hh).1] at hco
        cases hco.2.1
      · rw [he] at ho ht hm'
        rcases Nat.lt_or_ge tag c.delivered.length with hlt | hg
        · rw [getElem?_append_left hlt] at hm'
          obtain ⟨q, hq⟩ := hs.waiting ch tag m' ho ht hm'
          rw [hot m' (by rw [hq]; simp)]
          exact ⟨q, hq⟩
        · rw [getElem?_append_right hg, getElem?_singleton] at hm'
          split at hm'
          · obtain rfl : m = m' := Option.some.inj hm'
            obtain rfl : tag = c.delivered.length := by omega
            exact ⟨queue, update_self ..⟩
          · cases hm'
      · rw [hot m' (by rw [hp']; simp)]
        exact hp'
      · rw [he]
        exact prefix_append _ _
      · have ht := congrArg Channel.taken he
        exact Nat.le_of_eq ht.symm
      · rw [hot m' (by rw [hm']; simp)]
        exact hm'
    · exact Effect.refl w
  · exact Effect.refl w

end Effects

/-- The broker receives the acknowledgement of a message that waits on the channel. -/
structure AckStep (t ch tag m : Nat) (w w' : PageWorld) : Prop where
  isOpen : (w.channels ch).isOpen = true
  delivered : (w.channels ch).delivered[tag]? = some m
  waits : ∃ queue, w.place m = some (.unacked queue ch tag)
  world : w' = { w.setPlace m .acked with acks := ⟨t, ch, tag, m⟩ :: w.acks }

section Machine

variable {X : Crates} {w w' : PageWorld}
variable {o : Outcome} {α : Type} {r : Except String α × PageWorld}

lemma remote_world {x : Except String α} (h : remote o w r = some (x, w')) :
    w' = w ∨ w' = r.2 := by
  unfold remote at h
  split at h <;> cases h
  · exact .inr rfl
  · exact .inr rfl
  · exact .inl rfl
  · exact .inl rfl

lemma effect_remote {x : Except String α} (h : remote o w r = some (x, w')) (he : Effect w r.2) :
    Effect w w' := by
  rcases remote_world h with rfl | rfl
  · exact Effect.refl w'
  · exact he

lemma effect_onOpen (ch : Nat) (he : Effect w r.2) : Effect w (w.onOpen ch r).2 := by
  unfold onOpen
  split
  · exact he
  · exact Effect.refl w

lemma basicAck_cases (t ch tag : Nat) : Effect w (w.onOpen ch (w.basicAck t ch tag)).2 ∨
      ∃ m, AckStep t ch tag m w (w.onOpen ch (w.basicAck t ch tag)).2 := by
  unfold onOpen
  split
  · rename_i ho
    unfold basicAck
    split
    · rename_i m hm
      split
      · rename_i queue ch' tag' hp
        split
        · rename_i heq
          obtain ⟨rfl, rfl⟩ := heq
          exact .inr ⟨m, ho, hm, ⟨queue, hp⟩, rfl⟩
        · exact .inl (effect_closeChannel w ch)
      · exact .inl (effect_closeChannel w ch)
    · exact .inl (effect_closeChannel w ch)
  · exact .inl (Effect.refl w)

lemma perform_cases {t : Nat} {c : Cmd} {r : Except String Unit}
    (h : perform t c o w = some (r, w')) :
    Effect w w' ∨ (∃ i pageId page, c = .insertPending i pageId page ∧ r = .ok () ∧
      w' = w.insertPending i pageId page) ∨
    ∃ ch tag m, c = .basicAck ch tag ∧ AckStep t ch tag m w w' := by
  cases c with
  | gaps =>
    refine .inl ?_
    obtain ⟨_, -, hr⟩ := map_eq_some_iff.1 h
    cases hr
    exact effect_other rfl rfl rfl rfl rfl (Nat.le_refl _)
  | releaseOwner =>
    exact .inl (effect_remote h (effect_other rfl rfl rfl rfl rfl (Nat.le_refl _)))
  | ensureTenantMailboxes | post | respond => exact .inl (effect_remote h (Effect.refl w))
  | basicQos ch | basicConsume ch | basicCancel ch =>
    exact .inl (effect_remote h (effect_onOpen ch (effect_setChannel w ch _ rfl rfl rfl)))
  | basicAck ch tag =>
    rcases remote_world h with rfl | rfl
    · exact .inl (Effect.refl w')
    · rcases basicAck_cases t ch tag with he | ⟨m, hm⟩
      · exact .inl he
      · exact .inr (Or.inr ⟨ch, tag, m, rfl, hm⟩)
  | close ch => exact .inl (effect_remote h (effect_onOpen ch (effect_closeChannel w ch)))
  | insertPending i pageId page =>
    cases h
    exact .inr (Or.inl ⟨i, pageId, page, rfl, rfl, rfl⟩)
  | issue =>
    cases h
    exact .inl (Effect.refl w)

lemma effect_acquire (key : String × DeliveryClass) (row : OwnerRow) :
    Effect w (w.acquire key row).2 := by
  have ht : Effect w { w with owners := w.owners.upsert key fun _ => row } :=
    effect_other rfl rfl rfl rfl rfl (Nat.le_refl _)
  cases hk : w.owners.get? key with
  | none =>
    simp only [acquire, hk]
    exact ht
  | some =>
    simp only [acquire, hk]
    split
    · exact ht
    · exact Effect.refl w

lemma effect_answer {t : Nat} {q : Query} {r : Except String (Ans q)}
    (h : answer X t q o w = some (r, w')) : Effect w w' := by
  cases q with
  | gaps =>
    obtain ⟨_, -, hr⟩ := map_eq_some_iff.1 h
    cases hr
    exact effect_other rfl rfl rfl rfl rfl (Nat.le_refl _)
  | newPageId | newEpoch =>
    cases h
    exact effect_other rfl rfl rfl rfl rfl (Nat.le_succ _)
  | tryAcquireOwner key =>
    exact effect_remote h (effect_acquire key _)
  | loadOwner => exact effect_remote h (Effect.refl w)
  | nowMs | instantNow =>
    cases h
    exact Effect.refl w
  | createChannel => exact effect_remote h (effect_createChannel w t)
  | next ch =>
    simp only [answer] at h
    split at h
    · cases h
      exact Effect.refl w
    · exact effect_remote h (effect_onOpen ch (effect_next w ch))
  | removePending i =>
    cases h
    unfold removePending
    split
    · exact (effect_withoutPages w i _).trans (effect_hold _ _ _)
    · exact Effect.refl w
  | takeExpired i =>
    cases h
    exact (effect_withoutPages w i _).trans (effect_holdAll _ t _)

lemma effect_env (e : Env) : Effect w (env e w) := by
  cases e with
  | arrive m queue =>
    show Effect w (if w.place m = none then w.setPlace m (.ready queue) else w)
    split
    · rename_i hm
      -- the place of a message that was nowhere
      have hot : ∀ m', w.place m' ≠ none → (w.setPlace m (.ready queue)).place m' = w.place m' := by
        intro m' hm'
        refine update_of_ne ?_ ..
        rintro rfl
        exact hm' hm
      refine ⟨Nat.le_refl _, fun _ _ _ h => h, fun hs => ⟨⟨hs.fresh, fun ch tag m' ho ht hm' => ?_⟩,
        fun _ => prefix_rfl, fun _ => Nat.le_refl _, fun m' hm' => ?_, rfl⟩⟩
      · obtain ⟨q, hq⟩ := hs.waiting ch tag m' ho ht hm'
        rw [hot m' (by rw [hq]; simp)]
        exact ⟨q, hq⟩
      · rw [hot m' (by rw [hm']; simp)]
        exact hm'
    · exact Effect.refl w
  | push ch m => exact effect_push w ch m
  | reclaim ch =>
    show Effect w (if (w.channels ch).abandoned then w.closeChannel ch else w)
    split
    · exact effect_closeChannel w ch
    · exact Effect.refl w
  | _ => exact effect_other rfl rfl rfl rfl rfl (Nat.le_refl _)

lemma effect_settle (s : PageSys) (t : Nat) : Effect s.world (s.settle (pages X) t).world := by
  unfold settle
  split
  · exact effect_giveUp s.world t
  · exact Effect.refl s.world

lemma step_effect (s : PageSys) (a : Action Env) : Effect s.world (s.step (pages X) a).world ∨
    (∃ t o i pageId page k, a = .run t o ∧ (s.threads t).prog = .cmd (.insertPending i pageId page) k ∧
      ((s.step (pages X) a).threads t).hist.Did (.insertPending i pageId page) ∧
      Effect (s.world.insertPending i pageId page) (s.step (pages X) a).world) ∨
    (∃ t o ch tag m k w, a = .run t o ∧ (s.threads t).prog = .cmd (.basicAck ch tag) k ∧
      AckStep t ch tag m s.world w ∧ Effect w (s.step (pages X) a).world) := by
  rcases step_results (pages X) s a with hs | ⟨e, -, hs⟩ | ⟨t, o, c, k, r, w, ha, hp, hx, hs⟩ |
    ⟨t, o, q, k, r, w, ha, hp, hx, hs⟩ <;> rw [hs]
  · exact .inl (Effect.refl _)
  · exact .inl (effect_env e)
  · have hn := effect_settle (X := X) (s.afterCmd (pages X) t c k r w) t
    rw [world_afterCmd] at hn
    rcases perform_cases hx with he | ⟨i, pageId, page, rfl, rfl, rfl⟩ | ⟨ch, tag, m, rfl, hm⟩
    · exact .inl (he.trans hn)
    · refine .inr (Or.inl ⟨t, o, i, pageId, page, k, ha, hp, ?_, hn⟩)
      rw [settle_hist, afterCmd, advance_self]
      exact did_self _ _ _
    · exact .inr (Or.inr ⟨t, o, ch, tag, m, k, w, ha, hp, hm, hn⟩)
  · have hn := effect_settle (X := X) (s.afterAsk (pages X) t q k r w) t
    rw [world_afterAsk] at hn
    exact .inl ((effect_answer hx).trans hn)

end Machine

end WattGateway.Message.Pages
