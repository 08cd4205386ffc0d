import WattGateway.Message.PageCommits

/-!
# Expired pages

A round of the reaping task, and the first step of a pull, take the expired pages out of the map and
close their channels one by one. The first close that fails ends the call, and the pages after it are
in no map any more (`reap_leaves_open`). All of them are closed and counted if and only if all closes
succeed (`expired_pages_released_iff`).
-/

namespace WattGateway.Message.Pages

open Prog Sys List RabbitAdapter

def Closable (w : PageWorld) (o : Nat → Outcome) (page : PendingPage) : Prop :=
  (w.channels page.channel).isOpen = true ∧ o page.channel = .ok

/-- The closes of these pages succeed, one after the other. -/
def AllClose (w : PageWorld) (o : Nat → Outcome) (ps : List PendingPage) : Prop :=
  (∀ page ∈ ps, Closable w o page) ∧ (ps.map PendingPage.channel).Nodup

/-- Every page that was taken and whose close can succeed is closed. -/
def Released (w w' : PageWorld) (o : Nat → Outcome) (expired : List PendingPage) : Prop :=
  ∀ page ∈ expired, Closable w o page → (w'.channels page.channel).isOpen = false

def closes (t : Nat) (o : Nat → Outcome) (ps : List PendingPage) : List (Action Env) :=
  ps.map fun page => .run t (o page.channel)

def closing {α : Type} (X : Crates) (w : PageWorld) (t : Nat) (o : Nat → Outcome) (p : PageProg α)
    (expired : List PendingPage) : Sys Cmd Query Ans PageWorld α :=
  (Sys.start w fun _ => p).runActions (pages X) (.run t .ok :: closes t o expired)

section

variable {X : Crates} {α : Type} {s : Sys Cmd Query Ans PageWorld α} {w : PageWorld} {t : Nat}
  {o : Nat → Outcome}

lemma isOpen_settle (ch : Nat) :
    ((s.settle (pages X) t).world.channels ch).isOpen = (s.world.channels ch).isOpen := by
  unfold settle
  split
  · show (if _ then _ else _ : Channel).isOpen = _
    split <;> rfl
  · rfl

lemma isOpen_closeChannel (ch ch' : Nat) : ((w.closeChannel ch).channels ch').isOpen = true ↔
    (w.channels ch').isOpen = true ∧ ch' ≠ ch := by
  show (Function.update w.channels ch _ ch').isOpen = true ↔ _
  by_cases h : ch' = ch
  · subst h
    simp
  · simp [h]

lemma isOpen_takeExpired (i lease : Nat) (mailbox : Option MailboxBinding) (ch : Nat) :
    ((w.takeExpired t i lease mailbox).2.channels ch).isOpen = (w.channels ch).isOpen := by
  have hold (ps : List PendingPage) (w : PageWorld) :
      ((ps.foldl (fun w page => w.hold page.channel (some t)) w).channels ch).isOpen =
        (w.channels ch).isOpen := by
    induction ps generalizing w with
    | nil => rfl
    | cons page _ ih =>
      rw [foldl_cons, ih]
      by_cases h : ch = page.channel
      · simp [PageWorld.hold, PageWorld.setChannel, h]
      · simp [PageWorld.hold, PageWorld.setChannel, h]
  exact hold _ _

lemma AllClose.sublist {ps ps' : List PendingPage} (h : AllClose w o ps) (hs : ps'.Sublist ps) :
    AllClose w o ps' :=
  ⟨fun page hp => h.1 page (hs.subset hp), h.2.sublist (hs.map _)⟩

variable {page : PendingPage}

/-- A close that cannot succeed is an error, and the channels that can be closed stay open. -/
lemma perform_close (h : ¬ Closable w o page) :
    ∃ e w', (pages X).perform t (.close page.channel) (o page.channel) w = some (.error e, w') ∧
      ∀ ch, o ch = .ok → ((w'.channels ch).isOpen = true ↔ (w.channels ch).isOpen = true) := by
  cases ho : o page.channel with
  | ok =>
    refine ⟨"invalid channel state", w, ?_, fun _ _ => Iff.rfl⟩
    show remote .ok w (if _ then _ else _) = _
    rw [if_neg fun hop => h ⟨hop, ho⟩]
    rfl
  | lost =>
    refine ⟨_, _, rfl, fun ch hc => ?_⟩
    unfold PageWorld.onOpen
    split
    · rw [isOpen_closeChannel]
      refine and_iff_left ?_
      rintro rfl
      cases ho.symm.trans hc
    · exact Iff.rfl
  | refused | failed => exact ⟨_, _, rfl, fun _ _ => Iff.rfl⟩

lemma runActions_of_fail {e : String} (h : (s.threads t).prog = .fail e) (ps : List PendingPage) :
    s.runActions (pages X) (closes t o ps) = s := by
  have hs (o : Outcome) : s.step (pages X) (.run t o) = s := by simp only [step, h]
  induction ps with
  | nil => rfl
  | cons _ _ ih => exact (congrArg (runActions _ · _) (hs _)).trans ih

lemma allClose_closeChannel (hc : Closable w o page) (ps : List PendingPage) :
    AllClose (w.closeChannel page.channel) o ps ↔ AllClose w o (page :: ps) := by
  simp only [AllClose, Closable, isOpen_closeChannel, forall_mem_cons, map_cons,
    nodup_cons, mem_map, not_exists, not_and]
  constructor
  · exact fun h => ⟨⟨hc, fun p hp => ⟨(h.1 p hp).1.1, (h.1 p hp).2⟩⟩, fun p hp => (h.1 p hp).1.2, h.2⟩
  · exact fun h => ⟨fun p hp => ⟨⟨(h.1.2 p hp).1, h.2.1 p hp⟩, (h.1.2 p hp).2⟩, h.2.2⟩

/-- From `w` these pages have been closed, up to the first whose close does not succeed. -/
structure Closed (w : PageWorld) (o : Nat → Outcome) (t : Nat) (k : PageProg α)
    (ps pre post : List PendingPage) (s : Sys Cmd Query Ans PageWorld α) : Prop where
  split : ps = pre ++ post
  closed : AllClose w o pre
  ends : post = [] ∧ (s.threads t).prog = k ∨ (∃ e, (s.threads t).prog = .fail e) ∧
    ∃ page rest, post = page :: rest ∧ ¬ AllClose w o (pre ++ [page])
  isOpen : ∀ ch, o ch = .ok → ((s.world.channels ch).isOpen = true ↔
    (w.channels ch).isOpen = true ∧ ch ∉ pre.map PendingPage.channel)

variable {k : PageProg α}

lemma closeAll_run (ps : List PendingPage)
    (hw : ∀ ch, (s.world.channels ch).isOpen = (w.channels ch).isOpen)
    (hp : (s.threads t).prog = closeAll ps >>= fun _ => k) :
    ∃ pre post, Closed w o t k ps pre post (s.runActions (pages X) (closes t o ps)) := by
  induction ps generalizing s w with
  | nil => exact ⟨[], [], rfl, ⟨by simp, by simp⟩, .inl ⟨rfl, hp⟩, by simp [closes, runActions, hw]⟩
  | cons page ps ih =>
    have hp : (s.threads t).prog = .cmd (.close page.channel) (closeAll ps >>= fun _ => k) := hp
    show ∃ pre post, Closed _ o t k _ pre post
      ((s.step (pages X) (.run t (o page.channel))).runActions (pages X) (closes t o ps))
    by_cases hc : Closable w o page
    · have hx : (pages X).perform t (.close page.channel) (o page.channel) s.world =
          some (.ok (), s.world.closeChannel page.channel) := by
        show remote (o page.channel) _ (if _ then _ else _) = _
        rw [hc.2, if_pos ((hw _).trans hc.1)]
        rfl
      obtain ⟨pre, post, rfl, hr, he, ho⟩ := ih (w := w.closeChannel page.channel)
        (s := s.step (pages X) (.run t (o page.channel)))
        (fun ch => by
          rw [step_cmd hp hx, isOpen_settle, Bool.eq_iff_iff, isOpen_closeChannel, ← hw]
          exact isOpen_closeChannel _ _)
        (by rw [step_cmd hp hx]; simp)
      simp only [allClose_closeChannel hc, isOpen_closeChannel] at hr he ho
      exact ⟨page :: pre, post, rfl, hr, he, fun ch hh => by simp [ho ch hh, and_assoc]⟩
    · have hc' : ¬ Closable s.world o page := fun h => hc ⟨(hw _).symm.trans h.1, h.2⟩
      obtain ⟨e, w', hx, ho⟩ := perform_close (X := X) (t := t) hc'
      have hs : s.step (pages X) (.run t (o page.channel)) = (s.abort t e w').settle (pages X) t := by
        simp [step, hp, hx]
      rw [hs, runActions_of_fail (e := e) (by simp [abort])]
      refine ⟨[], page :: ps, rfl, ⟨by simp, by simp⟩, .inr ⟨⟨e, by simp [abort]⟩, page, ps, rfl, ?_⟩,
        fun ch hh => ?_⟩
      · exact fun ha => hc (ha.1 page mem_cons_self)
      · rw [isOpen_settle]
        simpa [hw] using ho ch hh

variable (X w t o) in
lemma closing_run (i lease : Nat) (mailbox : Option MailboxBinding)
    (k : List PendingPage → PageProg α) :
    let expired := (w.takeExpired t i lease mailbox).1
    ∃ pre post, Closed w o t (k expired) expired pre post (closing X w t o
      (query (.takeExpired i lease mailbox) >>= fun expired =>
        closeAll expired >>= fun _ => k expired) expired) := by
  intro expired
  let s₀ : Sys Cmd Query Ans PageWorld α := Sys.start w fun _ =>
    query (.takeExpired i lease mailbox) >>= fun expired => closeAll expired >>= fun _ => k expired
  have hs : s₀.step (pages X) (.run t .ok) = _ := step_ask (x := expired) rfl rfl
  refine closeAll_run (s := s₀.step (pages X) (.run t .ok)) expired (fun ch => ?_)
    (by rw [hs]; simp; rfl)
  rw [hs, isOpen_settle]
  exact isOpen_takeExpired i lease mailbox ch

variable {expired pre post : List PendingPage}

lemma Closed.released_iff (h : Closed w o t k expired pre post s) :
    Released w s.world o expired ↔ ∀ page ∈ expired, Closable w o page →
      ∃ pre post, expired = pre ++ post ∧ AllClose w o pre ∧
        page.channel ∈ pre.map PendingPage.channel := by
  refine forall₃_congr fun page hp hc => ?_
  rw [← Bool.not_eq_true, h.isOpen _ hc.2, and_iff_right hc.1, not_not]
  constructor
  · exact fun hm => ⟨pre, post, h.split, h.closed, hm⟩
  · rintro ⟨pre', post', hs, ha, hm⟩
    -- the closes that succeed do not reach beyond the first that does not
    have hin : pre' <+: pre := by
      rcases h.ends with ⟨rfl, -⟩ | ⟨-, last, rest, rfl, hn⟩
      · rw [← append_nil pre, ← h.split]
        exact ⟨post', hs.symm⟩
      · have hl : ¬ pre ++ [last] <+: pre' := fun hle => hn (ha.sublist hle.sublist)
        have hla : pre ++ [last] <+: expired := ⟨rest, by rw [h.split, append_assoc]; rfl⟩
        rcases prefix_or_prefix_of_prefix ⟨post', hs.symm⟩ hla with hle | hle
        · rcases prefix_concat_iff.1 hle with rfl | hle
          · exact absurd (prefix_refl _) hl
          · exact hle
        · exact absurd hle hl
    exact (hin.sublist.map _).subset hm

end

/-- A round of the reaping task closes what can be closed and counts all, if and only if all closes
succeed; the first step of a pull closes what can be closed, if and only if all of it stands before
the first close that does not succeed. -/
theorem expired_pages_released_iff (X : Crates) (D : Deployment) (w : PageWorld) (t i : Nat)
    (o : Nat → Outcome) :
    (let expired := (w.takeExpired t i (D.gateway i).deliveryOwnerLease none).1
      let s := closing X w t o (reapExpiredPages D i) expired
      Released w s.world o expired ∧ (s.threads t).prog = .ret expired.length ↔
        AllClose w o expired) ∧ ∀ mailbox (rest : PageProg (Option PulledPage)),
      let expired := (w.takeExpired t i (D.gateway i).deliveryOwnerLease (some mailbox)).1
      let s := closing X w t o (abandonExpiredPages D i mailbox >>= fun _ => rest) expired
      Released w s.world o expired ↔ ∀ page ∈ expired, Closable w o page →
        ∃ pre post, expired = pre ++ post ∧ AllClose w o pre ∧
          page.channel ∈ pre.map PendingPage.channel := by
  constructor
  · obtain ⟨pre, post, h⟩ := closing_run X w t o i (D.gateway i).deliveryOwnerLease none
      fun expired => .ret expired.length
    constructor
    · rintro ⟨-, hr⟩
      rcases h.ends with ⟨rfl, -⟩ | ⟨⟨_, hf⟩, -⟩
      · rw [h.split, append_nil]
        exact h.closed
      · cases hf.symm.trans hr
    · intro ha
      refine ⟨h.released_iff.2 fun page hp _ => ?_, ?_⟩
      · exact ⟨_, [], (append_nil _).symm, ha, mem_map_of_mem hp⟩
      · rcases h.ends with ⟨-, hr⟩ | ⟨-, page, rest, rfl, hn⟩
        · exact hr
        · refine absurd ((h.split ▸ ha).sublist ?_) hn
          exact (sublist_append_left [page] rest).append_left pre
  · intro mailbox rest
    obtain ⟨_, _, h⟩ := closing_run X w t o i (D.gateway i).deliveryOwnerLease (some mailbox)
      fun _ => rest
    exact h.released_iff

namespace Expired

open Forwarded

def page (ch : Nat) : PendingPage := ⟨ch, [], "n", "p", .interactive, 1, 0⟩

def world : PageWorld :=
  { begun.world with
    instant := fun _ => 10
    channels := fun _ => ⟨none, 0, true, [], 0, none, false⟩
    pending := fun _ => (Table.empty.upsert "a" fun _ => page 0).upsert "b" fun _ => page 1 }

def outcome (ch : Nat) : Outcome := if ch = 0 then .failed else .ok

end Expired

set_option maxRecDepth 100000

open Forwarded Expired in
/-- The close of the first page fails, and the second one is taken and left open. -/
theorem reap_leaves_open :
    (world.takeExpired 0 0 (deployment.gateway 0).deliveryOwnerLease none).1 = [page 0, page 1] ∧
    Closable world outcome (page 1) ∧
    ¬ Released world (closing crates world 0 outcome (reapExpiredPages deployment 0)
      [page 0, page 1]).world outcome [page 0, page 1] := by
  refine ⟨by rfl, ⟨rfl, rfl⟩, fun h => ?_⟩
  cases h (page 1) (by simp) ⟨rfl, rfl⟩

end WattGateway.Message.Pages
