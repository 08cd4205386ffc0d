import WattGateway.Message.Pages

/-!
# What a page's calls may do

The rule that the programs of `Pages` follow: a pull inserts one page under the identifier it drew
and makes tokens for that page only; a call acknowledges its principal's own messages, or those of a
page it has taken from the map after a session presented the page's token.
-/

namespace WattGateway.Message.Pages

open Prog Hist List Option RabbitAdapter

variable {X : Crates} {D : Deployment} {session : VerifiedSession} {request : CommitRequest}
  {i : Nat} {call : Call} {h : Hist Cmd Query Ans} {cls : DeliveryClass}

/-! ## Tokens -/

variable {claims : CommitClaims} {secret : Bytes} {token : String} {now : Nat}

lemma verify_eq_ok :
    verify X secret token now = .ok claims ↔ ∃ payload, genuinePayload X secret token = .ok payload ∧
      X.fromSlice payload = some claims ∧ now < claims.expiresAt := by
  unfold verify
  constructor
  · intro h
    obtain ⟨payload, hp, h⟩ := bind_eq_ok.1 h
    obtain ⟨_, hc, h⟩ := bind_eq_ok.1 h
    obtain ⟨_, he, h⟩ := bind_eq_ok.1 h
    rw [orFail_eq_ok] at hc
    rw [failIf_eq_ok, Nat.not_le] at he
    cases h
    exact ⟨payload, hp, hc, he⟩
  · rintro ⟨payload, hp, hc, he⟩
    refine bind_eq_ok.2 ⟨payload, hp, bind_eq_ok.2 ⟨claims, orFail_eq_ok.2 hc, ?_⟩⟩
    exact bind_eq_ok.2 ⟨(), failIf_eq_ok.2 (Nat.not_le.2 he), rfl⟩

lemma verify_unique {now' : Nat} {claims' : CommitClaims}
    (h : verify X secret token now = .ok claims) (h' : verify X secret token now' = .ok claims') :
    claims = claims' := by
  obtain ⟨_, hp, hc, -⟩ := verify_eq_ok.1 h
  obtain ⟨_, hp', hc', -⟩ := verify_eq_ok.1 h'
  rw [hp] at hp'
  cases hp'
  rw [hc] at hc'
  exact Option.some.inj hc'

/-! ## The rule -/

/-- The call is a commit whose session presented a token with these claims before it expired. -/
def Presented (X : Crates) (D : Deployment) (call : Call) (h : Hist Cmd Query Ans)
    (claims : CommitClaims) : Prop :=
  ∃ i session request now, call = .commit i session request ∧ h.Heard (.nowMs i) now ∧
    verify X D.commitHmacSecret request.commitToken now = .ok claims ∧
    claims.networkId = session.networkId ∧ claims.principalId = session.principalId ∧
    claims.pageId = request.pageId

def AuthoredBy (D : Deployment) (m : Nat) (principalId : String) : Prop :=
  ∃ r, D.envelope m = some (.record r) ∧ r.sourcePrincipalId = principalId

def AckOk (X : Crates) (D : Deployment) (call : Call) (h : Hist Cmd Query Ans) (ch tag : Nat) :
    Prop :=
  (∃ i session cls limit pageId m, call = .pull i session cls limit ∧ h.Heard .newPageId pageId ∧
    h.Heard (.next ch) (some ⟨tag, m⟩) ∧ AuthoredBy D m session.principalId) ∨
  (∃ claims j page, Presented X D call h claims ∧
    h.Heard (.removePending j claims.pageId) (some page) ∧ page.channel = ch ∧
    tag ∈ page.deliveryTags)

/-- The page belongs to the pull: its mailbox, identifier and epoch are the pull's, and its tags
are of messages the pull has taken. -/
structure PageOf (call : Call) (h : Hist Cmd Query Ans) (i : Nat) (pageId : String)
    (page : PendingPage) : Prop where
  pull : ∃ session cls limit, call = .pull i session cls limit ∧
    page.networkId = session.networkId ∧ page.principalId = session.principalId ∧
    page.deliveryClass = cls
  pageId : h.Heard .newPageId pageId
  epoch : h.Heard .newEpoch page.consumerEpoch
  tags : ∀ tag ∈ page.deliveryTags, ∃ m, h.Heard (.next page.channel) (some ⟨tag, m⟩)

structure TokenOf (call : Call) (h : Hist Cmd Query Ans) (claims : CommitClaims) : Prop where
  pull : ∃ i session limit, call = .pull i session claims.deliveryClass limit ∧
    claims.networkId = session.networkId ∧ claims.principalId = session.principalId
  pageId : h.Heard .newPageId claims.pageId
  epoch : h.Heard .newEpoch claims.consumerEpoch

def CmdOk (X : Crates) (D : Deployment) (call : Call) (h : Hist Cmd Query Ans) : Cmd → Prop
  | .basicAck ch tag => AckOk X D call h ch tag
  | .insertPending i pageId page => PageOf call h i pageId page
  | .issue claims => TokenOf call h claims
  | _ => True

/-- A pull draws each of its identifiers once. -/
def AskOk (h : Hist Cmd Query Ans) : Query → Prop
  | .newPageId => ∀ a, ¬ h.Heard .newPageId a
  | .newEpoch => ∀ a, ¬ h.Heard .newEpoch a
  | _ => True

def pageRule (X : Crates) (D : Deployment) (call : Call) : Rule Cmd Query Ans where
  onCmd := CmdOk X D call
  onAsk := AskOk

section Mono

variable {h h' : Hist Cmd Query Ans}

lemma Presented.mono (hp : Presented X D call h claims) (hs : h <:+ h') :
    Presented X D call h' claims := by
  obtain ⟨i, session, request, now, hc, hn, hr⟩ := hp
  exact ⟨i, session, request, now, hc, hn.mono hs, hr⟩

lemma AckOk.mono {ch tag : Nat} (ha : AckOk X D call h ch tag) (hs : h <:+ h') :
    AckOk X D call h' ch tag := by
  rcases ha with ⟨i, session, cls, limit, pageId, m, hc, hi, hn, hm⟩ |
    ⟨claims, j, page, hp, hr, he⟩
  · exact .inl ⟨i, session, cls, limit, pageId, m, hc, hi.mono hs, hn.mono hs, hm⟩
  · exact .inr ⟨claims, j, page, hp.mono hs, hr.mono hs, he⟩

lemma PageOf.mono {pageId : String} {page : PendingPage}
    (hp : PageOf call h i pageId page) (hs : h <:+ h') : PageOf call h' i pageId page where
  pull := hp.pull
  pageId := hp.pageId.mono hs
  epoch := hp.epoch.mono hs
  tags tag ht := (hp.tags tag ht).imp fun _ hm => hm.mono hs

lemma TokenOf.mono (ht : TokenOf call h claims) (hs : h <:+ h') : TokenOf call h' claims :=
  ⟨ht.pull, ht.pageId.mono hs, ht.epoch.mono hs⟩

end Mono

/-! ## The programs follow the rule -/

section Walk

lemma follows_ask {q : Query} {Q : Ans q → Hist Cmd Query Ans → Prop} (hok : AskOk h q)
    (hq : ∀ a (h' : Hist Cmd Query Ans), h <:+ h' → h'.Heard q a → Q a h') :
    (query q).Follows (pageRule X D call) Q h :=
  follows_query hok fun τ a => hq a _ (suffix_cons _ _) (heard_self τ q a h)

lemma follows_do {c : Cmd} {Q : Unit → Hist Cmd Query Ans → Prop} (hok : CmdOk X D call h c)
    (hq : ∀ h' : Hist Cmd Query Ans, h <:+ h' → h'.Did c → Q () h') :
    (run c).Follows (pageRule X D call) Q h :=
  follows_run hok fun τ => hq _ (suffix_cons _ _) (did_self τ c h)

lemma follows_onGaps {α : Type} {p : Gaps.GapProg α} {Q : α → Hist Cmd Query Ans → Prop}
    (hq : ∀ a h', h <:+ h' → Q a h') : (onGaps p).Follows (pageRule X D call) Q h :=
  follows_lift (fun _ _ => trivial) (fun _ _ => trivial) hq

lemma follows_closeAll (pages : List PendingPage) :
    (closeAll pages).Follows (pageRule X D call) (fun _ h' => h <:+ h') h := by
  refine follows_turns (suffix_refl h) List.IsSuffix.trans fun page _ h' _ => ?_
  exact follows_do trivial fun _ hs _ => hs

lemma follows_collect (ch n : Nat) : (collect ch n).Follows (pageRule X D call)
      (fun ds h' => h <:+ h' ∧ ∀ d ∈ ds, h'.Heard (.next ch) (some d)) h := by
  induction n generalizing h with
  | zero => exact ⟨suffix_refl h, by simp⟩
  | succ _ ih =>
    refine .bind (follows_ask trivial fun message h₁ hs₁ hm => ?_)
    cases message with
    | none => exact ⟨hs₁, by simp⟩
    | some =>
      refine .bind (ih.mono fun ds h₂ ⟨hs₂, hds⟩ => ⟨hs₁.trans hs₂, fun d' hd' => ?_⟩)
      rcases mem_cons.1 hd' with rfl | hd'
      · exact hm.mono hs₂
      · exact hds d' hd'

variable {limit : Option Nat} {pageId : String}

section

variable (hca : call = .pull i session cls limit)
include hca

/-- Filling a page acknowledges the principal's own messages, and the tags it keeps are of
messages that were taken. -/
lemma follows_fill (hi : h.Heard .newPageId pageId)
    (ch : Nat) (ds : List Delivery) (page : RabbitAdapter.Filled)
    (hds : ∀ d ∈ ds, h.Heard (.next ch) (some d))
    (ha : ∀ tag ∈ page.tags, ∃ m, h.Heard (.next ch) (some ⟨tag, m⟩)) :
    (fill X D ⟨session.networkId, session.principalId, cls⟩ ch ds page).Follows
      (pageRule X D call)
      (fun page' h' => h <:+ h' ∧ ∀ tag ∈ page'.tags, ∃ m, h'.Heard (.next ch) (some ⟨tag, m⟩))
      h := by
  induction ds generalizing h page with
  | nil => exact ⟨suffix_refl h, ha⟩
  | cons d rest ih =>
    have hd := hds d mem_cons_self
    have hr : ∀ d ∈ rest, h.Heard (.next ch) (some d) :=
      fun d hd => hds d (mem_cons_of_mem _ hd)
    have hk : ∀ tag ∈ page.tags ++ [d.deliveryTag], ∃ m, h.Heard (.next ch) (some ⟨tag, m⟩) := by
      intro tag ht
      rcases mem_append.1 ht with ht | ht
      · exact ha tag ht
      · rw [mem_singleton.1 ht]
        exact ⟨d.message, hd⟩
    refine .bind (follows_ofOption fun envelope he => ?_)
    cases envelope with
    | record r =>
      refine .bind (follows_bailIf fun _ => ?_)
      by_cases hse : r.sourcePrincipalId = session.principalId
      · -- the principal's own record is acknowledged at once
        rw [if_pos hse]
        refine .bind (follows_do (Or.inl ⟨i, session, cls, limit, pageId, d.message, hca,
          hi, hd, r, he, hse⟩) fun h₁ hs₁ _ => ?_)
        refine (ih (hi.mono hs₁) page (fun d hd => (hr d hd).mono hs₁)
          fun tag ht => (ha tag ht).imp fun _ hm => hm.mono hs₁).mono ?_
        rintro _ _ ⟨hs₂, ht⟩
        exact ⟨hs₁.trans hs₂, ht⟩
      · rw [if_neg hse]
        refine .bind (follows_ofOption fun deliveryId _ => ?_)
        exact ih hi _ hr hk
    | control =>
      refine .bind (follows_bailIf fun _ => ?_)
      refine .bind (follows_ofOption fun deliveryId _ => ?_)
      exact ih hi _ hr hk

lemma follows_rabbitPullPage {epoch : Nat}
    (ha : h.Heard .newPageId pageId) (he : h.Heard .newEpoch epoch) (n : Nat) :
    (RabbitAdapter.pullPage X D i ⟨session.networkId, session.principalId, cls⟩ pageId epoch
      n).Follows (pageRule X D call)
      (fun page h' => h <:+ h' ∧ ∀ p ∈ page, p.consumerEpoch = epoch) h := by
  refine .bind (.bind (follows_ask trivial fun expired h₀ hs₀ _ => ?_))
  refine (follows_closeAll expired).mono fun _ h₁ hs₁ => ?_
  refine .bind (follows_ask trivial fun openedAt h₂ hs₂ _ => ?_)
  refine .bind (follows_do trivial fun h₃ hs₃ _ => ?_)
  refine .bind (follows_ask trivial fun ch h₄ hs₄ _ => ?_)
  refine .bind (follows_do trivial fun h₅ hs₅ _ => ?_)
  refine .bind (follows_do trivial fun h₆ hs₆ _ => ?_)
  have hs : h <:+ h₆ :=
    ((((((hs₀.trans hs₁).trans hs₂).trans hs₃).trans hs₄).trans hs₅).trans hs₆)
  refine .bind ((follows_collect ch n).mono fun ds h₇ ⟨hs₇, hds⟩ => ?_)
  refine .bind (follows_do trivial fun h₈ hs₈ _ => ?_)
  split
  · exact .bind (follows_do trivial fun h₉ hs₉ _ => ⟨((hs.trans hs₇).trans hs₈).trans hs₉, by simp⟩)
  · refine .bind ((follows_fill hca (ha.mono ((hs.trans hs₇).trans hs₈)) ch ds _
      (fun d hd => (hds d hd).mono hs₈) (by simp)).mono fun page h₉ ⟨hs₉, ht⟩ => ?_)
    have hs' := ((hs.trans hs₇).trans hs₈).trans hs₉
    refine .bind (follows_do ?_ fun h₁₀ hs₁₀ _ => ?_)
    · exact ⟨⟨session, cls, limit, hca, rfl, rfl, rfl⟩, ha.mono hs', he.mono hs', ht⟩
    · split
      · refine .bind (follows_ask trivial fun pending h₁₁ hs₁₁ _ => ?_)
        cases pending with
        | none => exact ⟨(hs'.trans hs₁₀).trans hs₁₁, by simp⟩
        | some =>
          exact .bind (follows_do trivial fun h₁₂ hs₁₂ _ =>
            ⟨((hs'.trans hs₁₀).trans hs₁₁).trans hs₁₂, by simp⟩)
      · refine ⟨hs'.trans hs₁₀, fun p hp => ?_⟩
        cases hp
        rfl

lemma follows_answerPage {epoch : Nat}
    (ha : h.Heard .newPageId pageId) (he : h.Heard .newEpoch epoch)
    {page : Option RabbitAdapter.PulledPage} (hp : ∀ p ∈ page, p.consumerEpoch = epoch)
    (gaps : List Gaps.MailboxGap) :
    (answerPage X D i ⟨session.networkId, session.principalId, cls⟩ pageId epoch page gaps).Follows
      (pageRule X D call) (fun _ _ => True) h := by
  refine .bind (follows_ask trivial fun now h₁ hs₁ _ => ?_)
  refine .bind (follows_ofExcept fun token _ => ?_)
  refine .bind (follows_do ⟨⟨i, session, limit, hca, rfl, rfl⟩, ha.mono hs₁, ?_⟩
    fun h₂ _ _ => ?_)
  · show Heard h₁ .newEpoch ((page.map (·.consumerEpoch)).getD epoch)
    cases page with
    | none => exact he.mono hs₁
    | some p =>
      rw [map_some, getD_some, hp p rfl]
      exact he.mono hs₁
  · exact .bind (follows_bailIf fun _ => trivial)

end

lemma follows_pullPage (i : Nat) (session : VerifiedSession) (cls : DeliveryClass)
    (limit : Option Nat) :
    (pullPage X D i session cls limit).Follows (pageRule X D (.pull i session cls limit))
      (fun _ _ => True) [] := by
  refine .bind (follows_query (fun a => not_heard_nil _ a) fun τ pageId => ?_)
  refine .bind (follows_query (q := Query.newEpoch) ?_ fun τ' epoch => ?_)
  · intro a ha
    rcases ha.of_cons with hq | hn
    · cases hq
    · exact not_heard_nil _ a hn
  let h₀ : Hist Cmd Query Ans := [(τ', .heard .newEpoch epoch), (τ, .heard .newPageId pageId)]
  have hpa : h₀.Heard .newPageId pageId := (heard_self τ Query.newPageId pageId []).cons _
  have he : h₀.Heard .newEpoch epoch := heard_self τ' Query.newEpoch epoch _
  refine .bind (.bind (follows_bailIf fun _ => follows_ask trivial
    fun acquired h₁ hs₁ _ => ?_))
  cases acquired with
  | false => trivial
  | true =>
    have key : ∀ (page : Option RabbitAdapter.PulledPage) (gaps : List Gaps.MailboxGap)
        (h' : Hist Cmd Query Ans), h₁ <:+ h' → (∀ p ∈ page, p.consumerEpoch = epoch) →
        (if page.isNone ∧ gaps.isEmpty then pure Reply.noContent
          else answerPage X D i ⟨session.networkId, session.principalId, cls⟩ pageId epoch page
            gaps).Follows (pageRule X D (.pull i session cls limit)) (fun _ _ => True) h' := by
      intro page gaps _ hs' hp
      split
      · trivial
      · exact follows_answerPage rfl (hpa.mono (hs₁.trans hs')) (he.mono (hs₁.trans hs')) hp
          gaps
    refine .bind (.bind ((follows_rabbitPullPage rfl (hpa.mono hs₁)
      (he.mono hs₁) _).mono fun page h₂ ⟨hs₂, hp⟩ => ?_))
    refine .bind (follows_onGaps fun gaps h₃ hs₃ => ?_)
    split
    · exact .bind (follows_do trivial fun h₄ hs₄ _ =>
        key page gaps h₄ ((hs₂.trans hs₃).trans hs₄) hp)
    · exact key page gaps h₃ (hs₂.trans hs₃) hp

/-! ## Commits -/

/-- Committing a page acknowledges its messages after its token was presented. -/
lemma follows_rabbitCommitPage (hp : Presented X D call h claims) (j : Nat) (principalId : String)
    (cls : DeliveryClass) (epoch : Nat) :
    (RabbitAdapter.commitPage j claims.pageId principalId cls epoch).Follows (pageRule X D call)
      (fun _ h' => h <:+ h') h := by
  refine .bind (follows_ask trivial fun pending h₁ hs₁ he => ?_)
  cases pending with
  | none => exact hs₁
  | some page =>
    refine .bind (follows_bailIf fun _ => ?_)
    refine .bind ((follows_turns (suffix_refl h₁) List.IsSuffix.trans
      fun tag ht h₂ hs₂ => ?_).mono fun _ h₂ hs₂ => ?_)
    · exact follows_do (Or.inr ⟨claims, j, page, hp.mono (hs₁.trans hs₂), he.mono hs₂, rfl,
        ht⟩) fun _ hs₃ _ => hs₃
    · exact .bind (follows_do trivial fun h₃ hs₃ _ => (hs₁.trans hs₂).trans hs₃)

lemma follows_loadDeliveryOwner (claims : CommitClaims) :
    (loadDeliveryOwner claims).Follows (pageRule X D call) (fun _ h' => h <:+ h') h :=
  .bind (follows_ask trivial fun _ _ hs _ => follows_ofOption fun _ _ => hs)

lemma follows_commitLocalDeliveries (hp : Presented X D call h claims) (j : Nat) :
    (commitLocalDeliveries D j claims).Follows (pageRule X D call) (fun _ h' => h <:+ h') h := by
  refine .bind ((follows_loadDeliveryOwner claims).mono fun owner h₁ hs₁ => ?_)
  refine .bind (follows_bailIf fun _ => ?_)
  refine .bind ((follows_rabbitCommitPage (hp.mono hs₁) j _ _ _).mono
    fun committed h₂ hs₂ => ?_)
  cases committed with
  | none => exact hs₁.trans hs₂
  | some => exact .bind (follows_do trivial fun h₃ hs₃ _ => (hs₁.trans hs₂).trans hs₃)

section

variable (hp : Presented X D (.commit i session request) h claims)
include hp

lemma follows_commitOwnedPage (j : Nat) :
    (commitOwnedPage X D j request).Follows (pageRule X D (.commit i session request))
      (fun _ h' => h <:+ h') h := by
  refine .bind (follows_ask trivial fun now h₁ hs₁ _ => ?_)
  refine .bind (follows_ofExcept fun claims' hv => ?_)
  obtain rfl : claims = claims' := by
    obtain ⟨_, _, _, _, hc, -, hv', -⟩ := hp
    cases hc
    exact verify_unique hv' hv
  refine .bind (follows_bailIf fun _ => ?_)
  exact (follows_commitLocalDeliveries (hp.mono hs₁) j).mono fun _ h₂ hs₂ => hs₁.trans hs₂

lemma follows_forwardCommitToOwner :
    (forwardCommitToOwner X D i request claims).Follows (pageRule X D (.commit i session request))
      (fun _ h' => h <:+ h') h := by
  refine .bind ((follows_loadDeliveryOwner claims).mono fun owner h₁ hs₁ => ?_)
  refine .bind (follows_bailIf fun _ => ?_)
  refine .bind (follows_ofOption fun _ _ => ?_)
  refine .bind (follows_ofOption fun _ _ => ?_)
  refine .bind (follows_do trivial fun h₂ hs₂ _ => ?_)
  refine .bind (follows_ofOption fun j _ => ?_)
  refine .bind ((follows_commitOwnedPage (hp.mono (hs₁.trans hs₂)) j).mono
    fun committed h₃ hs₃ => ?_)
  exact .bind (follows_do trivial fun h₄ hs₄ _ => ((hs₁.trans hs₂).trans hs₃).trans hs₄)

lemma follows_commitDeliveries :
    (commitDeliveries X D i request claims).Follows (pageRule X D (.commit i session request))
      (fun _ h' => h <:+ h') h := by
  unfold commitDeliveries
  split
  · exact follows_commitLocalDeliveries hp i
  · exact follows_forwardCommitToOwner hp

end

lemma follows_releaseAfterGaps (claims : CommitClaims) (n : Nat) :
    (releaseAfterGaps claims n).Follows (pageRule X D call) (fun _ h' => h <:+ h') h := by
  unfold releaseAfterGaps
  split
  · exact follows_do trivial fun _ hs _ => hs
  · exact suffix_refl h

lemma follows_commitPage (i : Nat) (session : VerifiedSession) (request : CommitRequest) :
    (commitPage X D i session request).Follows (pageRule X D (.commit i session request))
      (fun _ _ => True) [] := by
  refine .bind (follows_ask trivial fun now h₁ hs₁ hn => ?_)
  refine .bind (follows_ofExcept fun claims hv => ?_)
  refine .bind (follows_bailIf fun hb => ?_)
  push Not at hb
  have hp : Presented X D (.commit i session request) h₁ claims :=
    ⟨i, session, request, now, rfl, hn, hv, hb.2.1, hb.2.2.1, hb.1⟩
  refine .bind ((follows_commitDeliveries hp).mono fun committed h₂ hs₂ => ?_)
  refine .bind (follows_onGaps fun gaps h₃ hs₃ => ?_)
  refine .bind ((follows_releaseAfterGaps claims gaps).mono fun _ h₄ _ => ?_)
  exact .bind (follows_bailIf fun _ => trivial)

lemma prog_follows (call : Call) :
    (call.prog X D).Follows (pageRule X D call) (fun _ _ => True) [] := by
  cases call with
  | pull i session cls limit => exact follows_pullPage i session cls limit
  | commit i session request => exact follows_commitPage i session request
  | reap =>
    refine .bind (.bind (follows_ask trivial fun expired h₁ _ _ => ?_))
    exact .bind ((follows_closeAll expired).mono fun _ _ _ => trivial)

end Walk

/-! ## Errors -/

section Errors

open RabbitAdapter (mismatch)

abbrev Other (e : String) : Prop := e ≠ mismatch

/-- The session presented claims, and the page taken under their identifier is not theirs. -/
def Mismatched (X : Crates) (D : Deployment) (call : Call) (h : Hist Cmd Query Ans) : Prop :=
  ∃ claims j page, Presented X D call h claims ∧
    h.Heard (.removePending j claims.pageId) (some page) ∧
    (page.principalId ≠ claims.principalId ∨ page.deliveryClass ≠ claims.deliveryClass ∨
      page.consumerEpoch ≠ claims.consumerEpoch)

/-- The mismatch is the end of mismatched calls only. -/
def MismatchOnly (X : Crates) (D : Deployment) (call : Call) (e : String)
    (h : Hist Cmd Query Ans) : Prop :=
  e = mismatch → Mismatched X D call h

lemma fails_of_errs {α : Type} {p : PageProg α} (hp : p.Errs Other) :
    p.FailsWhen (MismatchOnly X D call) h :=
  hp.failsWhen fun _ _ hne he => absurd he hne

lemma fails_bind {α β : Type} {p : PageProg α} {f : α → PageProg β} (hp : p.Errs Other)
    (hf : p.Follows (pageRule X D call) (fun a h' => (f a).FailsWhen (MismatchOnly X D call) h') h) :
    (p >>= f).FailsWhen (MismatchOnly X D call) h :=
  (fails_of_errs hp).bind hf

lemma errs_closeAll (pages : List PendingPage) : (closeAll pages).Errs Other :=
  errs_forEach fun _ _ => errs_run _

lemma errs_collect (ch n : Nat) : (collect ch n).Errs Other := by
  induction n with
  | zero => trivial
  | succ _ ih =>
    refine (errs_query _).bind fun message => ?_
    cases message with
    | none => trivial
    | some => exact ih.bind fun _ => trivial

lemma errs_fill (mailbox : MailboxBinding) (ch : Nat) (ds : List Delivery)
    (page : RabbitAdapter.Filled) : (fill X D mailbox ch ds page).Errs Other := by
  induction ds generalizing page with
  | nil => trivial
  | cons _ _ ih =>
    refine (errs_ofOption (by decide)).bind fun envelope => ?_
    cases envelope with
    | record r =>
      refine (errs_bailIf (by decide)).bind fun _ => ?_
      by_cases hs : r.sourcePrincipalId = mailbox.recipientPrincipalId
      · rw [if_pos hs]
        exact (errs_run _).bind fun _ => ih page
      · rw [if_neg hs]
        exact (errs_ofOption (by decide)).bind fun _ => ih _
    | control =>
      refine (errs_bailIf (by decide)).bind fun _ => ?_
      exact (errs_ofOption (by decide)).bind fun _ => ih _

lemma errs_rabbitPullPage (i : Nat) (mailbox : MailboxBinding) (pageId : String)
    (epoch limit : Nat) : (RabbitAdapter.pullPage X D i mailbox pageId epoch limit).Errs Other := by
  refine ((errs_query _).bind fun _ => errs_closeAll _).bind fun _ => ?_
  refine (errs_query _).bind fun _ => (errs_run _).bind fun _ => (errs_query _).bind fun ch => ?_
  refine (errs_run _).bind fun _ => (errs_run _).bind fun _ => (errs_collect _ _).bind fun ds => ?_
  refine (errs_run _).bind fun _ => ?_
  split
  · exact (errs_run _).bind fun _ => trivial
  · refine (errs_fill _ _ _ _).bind fun page => (errs_run _).bind fun _ => ?_
    split
    · refine (errs_query _).bind fun pending => ?_
      cases pending with
      | none => trivial
      | some => exact (errs_run _).bind fun _ => trivial
    · trivial

variable {e : String}

lemma other_bind {α β : Type} {x : Except String α} {f : α → Except String β}
    (hx : x = .error e → Other e) (hf : ∀ a, f a = .error e → Other e) (h : x >>= f = .error e) :
    Other e :=
  (bind_eq_error.1 h).elim hx fun ⟨a, _, h⟩ => hf a h

lemma other_failIf {b : Prop} [Decidable b] {t : String} (ht : Other t)
    (h : failIf b t = .error e) : Other e :=
  (failIf_eq_error.1 h).2 ▸ ht

lemma other_orFail {α : Type} {x : Option α} {t : String} (ht : Other t)
    (h : orFail t x = .error e) : Other e :=
  (orFail_eq_error.1 h).2 ▸ ht

lemma issue_error : issue X secret claims = .error e → Other e :=
  other_bind (other_failIf (by decide)) fun _ h => by cases h

lemma genuinePayload_error : genuinePayload X secret token = .error e → Other e :=
  other_bind (other_orFail (by decide)) fun _ => other_bind (other_orFail (by decide)) fun _ =>
      other_bind (other_orFail (by decide)) fun _ =>
        other_bind (other_failIf (by decide)) fun _ h => by cases h

lemma verify_error : verify X secret token now = .error e → Other e :=
  other_bind genuinePayload_error fun _ => other_bind (other_orFail (by decide)) fun _ =>
      other_bind (other_failIf (by decide)) fun _ h => by cases h

lemma mailboxGap_error {row : Nat × Gaps.GapRow}
    (h : Gaps.mailboxGap cls row = .error e) : Other e := by
  unfold Gaps.mailboxGap Gaps.parseReason at h
  rcases bind_eq_error.1 h with h | ⟨_, -, h⟩
  · repeat' split at h
    all_goals cases h
    decide
  · cases h

lemma errs_loadForPage (page : Gaps.Page) (limit redeliveryMs : Nat) :
    (Gaps.loadForPage page limit redeliveryMs).Errs Other := by
  refine (errs_bailIf (by decide)).bind fun _ => (errs_query _).bind fun rows => ?_
  refine Errs.bind ?_ fun _ => errs_ofExcept fun e he => ?_
  · cases rows with
    | nil => trivial
    | cons => exact errs_run _
  · obtain ⟨_, -, hr⟩ := Gaps.mapM_error he
    exact mailboxGap_error hr

lemma errs_pullOwned (i : Nat) (mailbox : MailboxBinding) (pageId : String) (epoch limit : Nat) :
    (pullOwned X D i mailbox pageId epoch limit).Errs Other := by
  refine (errs_rabbitPullPage _ _ _ _ _).bind fun page => ?_
  refine (errs_lift (errs_loadForPage _ _ _)).bind fun gaps => ?_
  split
  · exact (errs_run _).bind fun _ => trivial
  · trivial

lemma errs_answerPage (i : Nat) (mailbox : MailboxBinding) (pageId : String) (epoch : Nat)
    (page : Option RabbitAdapter.PulledPage) (gaps : List Gaps.MailboxGap) :
    (answerPage X D i mailbox pageId epoch page gaps).Errs Other := by
  refine (errs_query _).bind fun now => (errs_ofExcept fun e he => issue_error he).bind fun _ => ?_
  exact (errs_run _).bind fun _ => (errs_bailIf (by decide)).bind fun _ => trivial

lemma errs_pullPage (i : Nat) (session : VerifiedSession) (cls : DeliveryClass)
    (limit : Option Nat) : (pullPage X D i session cls limit).Errs Other := by
  refine (errs_query _).bind fun pageId => (errs_query _).bind fun epoch => ?_
  refine ((errs_bailIf (by decide)).bind fun _ => errs_query _).bind fun acquired => ?_
  split
  · refine (errs_pullOwned _ _ _ _ _).bind fun pulled => ?_
    split
    split
    · trivial
    · exact errs_answerPage _ _ _ _ _ _
  · trivial

lemma errs_loadDeliveryOwner (claims : CommitClaims) : (loadDeliveryOwner claims).Errs Other :=
  (errs_query _).bind fun _ => errs_ofOption (by decide)

lemma fails_rabbitCommitPage (hp : Presented X D call h claims) (j : Nat) :
    (RabbitAdapter.commitPage j claims.pageId claims.principalId claims.deliveryClass
      claims.consumerEpoch).FailsWhen (MismatchOnly X D call) h := by
  intro τ pending
  cases pending with
  | none => trivial
  | some page =>
    let h₁ : Hist Cmd Query Ans := (τ, .heard (.removePending j claims.pageId) (some page)) :: h
    show (bailIf _ mismatch >>= _).FailsWhen (MismatchOnly X D call) h₁
    unfold bailIf
    split
    · rename_i hne
      exact fun _ => ⟨claims, j, page, hp.mono (suffix_cons _ _), heard_self _ _ _ _, hne⟩
    · refine fails_of_errs (Errs.bind trivial fun _ => ?_)
      exact (errs_forEach fun _ _ => errs_run _).bind fun _ => (errs_run _).bind fun _ => trivial

lemma fails_commitLocalDeliveries (hp : Presented X D call h claims) (j : Nat) :
    (commitLocalDeliveries D j claims).FailsWhen (MismatchOnly X D call) h := by
  refine fails_bind (errs_loadDeliveryOwner claims)
    ((follows_loadDeliveryOwner claims).mono fun owner h₁ hs₁ => ?_)
  refine fails_bind (errs_bailIf (by decide)) (follows_bailIf fun _ => ?_)
  refine (fails_rabbitCommitPage (hp.mono hs₁) j).bind
    ((follows_rabbitCommitPage (hp.mono hs₁) j _ _ _).mono fun committed h₂ _ => ?_)
  cases committed with
  | none => trivial
  | some => exact fails_of_errs ((errs_run _).bind fun _ => trivial)

section

variable (hp : Presented X D (.commit i session request) h claims)
include hp

lemma fails_commitOwnedPage (j : Nat) :
    (commitOwnedPage X D j request).FailsWhen (MismatchOnly X D (.commit i session request)) h := by
  refine fails_bind (errs_query _) (follows_ask trivial fun now h₁ hs₁ _ => ?_)
  refine fails_bind (errs_ofExcept fun e he => verify_error he) (follows_ofExcept fun claims' hv => ?_)
  obtain rfl : claims = claims' := by
    obtain ⟨_, _, _, _, hc, -, hv', -⟩ := hp
    cases hc
    exact verify_unique hv' hv
  refine fails_bind (errs_bailIf (by decide)) (follows_bailIf fun _ => ?_)
  exact fails_commitLocalDeliveries (hp.mono hs₁) j

lemma fails_forwardCommitToOwner :
    (forwardCommitToOwner X D i request claims).FailsWhen
      (MismatchOnly X D (.commit i session request)) h := by
  refine fails_bind (errs_loadDeliveryOwner claims)
    ((follows_loadDeliveryOwner claims).mono fun owner h₁ hs₁ => ?_)
  refine fails_bind (errs_bailIf (by decide)) (follows_bailIf fun _ => ?_)
  refine fails_bind (errs_ofOption (by decide)) (follows_ofOption fun _ _ => ?_)
  refine fails_bind (errs_ofOption (by decide)) (follows_ofOption fun _ _ => ?_)
  refine fails_bind (errs_run _) (follows_do trivial fun h₂ hs₂ _ => ?_)
  refine fails_bind (errs_ofOption (by decide)) (follows_ofOption fun j _ => ?_)
  refine (fails_commitOwnedPage (hp.mono (hs₁.trans hs₂)) j).bind
    ((follows_commitOwnedPage (hp.mono (hs₁.trans hs₂)) j).mono fun committed h₃ _ => ?_)
  exact fails_of_errs ((errs_run _).bind fun _ => trivial)

end

lemma fails_commitPage (i : Nat) (session : VerifiedSession) (request : CommitRequest) :
    (commitPage X D i session request).FailsWhen
      (MismatchOnly X D (.commit i session request)) [] := by
  refine fails_bind (errs_query _) (follows_ask trivial fun now h₁ hs₁ hn => ?_)
  refine fails_bind (errs_ofExcept fun e he => verify_error he) (follows_ofExcept fun claims hv => ?_)
  refine fails_bind (errs_bailIf (by decide)) (follows_bailIf fun hb => ?_)
  push Not at hb
  have hp : Presented X D (.commit i session request) h₁ claims :=
    ⟨i, session, request, now, rfl, hn, hv, hb.2.1, hb.2.2.1, hb.1⟩
  refine FailsWhen.bind (R := pageRule X D (.commit i session request)) ?_
    ((follows_commitDeliveries hp).mono fun committed h₂ _ => ?_)
  · unfold commitDeliveries
    split
    · exact fails_commitLocalDeliveries hp i
    · exact fails_forwardCommitToOwner hp
  · refine fails_of_errs ((errs_lift (errs_query _)).bind fun gaps => Errs.bind ?_ fun _ => ?_)
    · unfold releaseAfterGaps
      split <;> trivial
    · exact (errs_bailIf (by decide)).bind fun _ => trivial

lemma prog_fails (call : Call) : (call.prog X D).FailsWhen (MismatchOnly X D call) [] := by
  cases call with
  | pull i session cls limit => exact fails_of_errs (errs_pullPage i session cls limit)
  | commit i session request => exact fails_commitPage i session request
  | reap =>
    refine fails_of_errs (Errs.bind ((errs_query _).bind fun expired => ?_) fun _ => trivial)
    exact (errs_closeAll expired).bind fun _ => trivial

end Errors

end WattGateway.Message.Pages
