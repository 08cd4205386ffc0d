import WattGateway.Lib.Progress
import WattGateway.Message.Publish

/-!
# The commands of a publish

Between the `begin_scope_fence` and the commit of a publish there are statements of its transaction,
broker commands, and statements through the pool on the route bindings. `publish_of` proves a
property of the program of a publish from what the property makes of its begin and its commit.
-/

namespace WattGateway.Message

open Prog

def Stmt.Binds : Stmt → Prop
  | deleteRouteBindings _ _ _ => True
  | insertBinding _ _ _ _ _ _ => True
  | activateBindings _ _ => True
  | _ => False

/-- A command that a publish issues between its begin and its commit. -/
def Cmd.Within : Cmd → Prop
  | begin _ _ _ => False
  | exec st => st.Binds
  | commit => False
  | _ => True

section Parts

variable (X : Wattswarm) (config : Config) {B : Cmd → Prop} (hB : ∀ c : Cmd, c.Within → ¬ B c)

include hB

lemma never_stmt (st : Stmt) : (stmt st).Never B := never_run (hB _ (by trivial))

lemma never_exec {st : Stmt} (hs : st.Binds) : (exec st).Never B := never_run (hB _ hs)

lemma never_mailboxes (n p : String) : (ensureTenantMailboxes X n p).Never B :=
  never_forEach fun _ => (never_run (hB _ (by trivial))).bind fun _ => never_run (hB _ (by trivial))

lemma never_bindScopeMember (n p a v : String) : (bindScopeMember X n p a v).Never B :=
  (never_mailboxes X hB n p).bind fun _ => never_forEach fun _ => never_run (hB _ (by trivial))

omit hB in
lemma never_authorized (n : String) (scope : SwarmScope) (p : String) (allow : Bool) :
    (authorizedScopeVersionAndCount X n scope p allow).Never B := by
  unfold authorizedScopeVersionAndCount
  split
  · exact (never_query _).bind fun _ => never_bailIf.bind fun _ => (never_query _).bind fun _ =>
      never_bailIf.bind fun _ => trivial
  · exact (never_ofOption _).bind fun l => (never_query _).bind fun _ => never_bailIf.bind fun _ =>
      (never_query _).bind fun _ => (never_query _).bind fun _ => trivial

omit hB in
lemma never_scopeContains (n : String) (scope : SwarmScope) (p : String) (v : Option String) :
    (scopeContainsPrincipal X n scope p v).Never B := by
  unfold scopeContainsPrincipal
  split
  · trivial
  · exact (never_ofOption _).bind fun _ => never_query _

omit hB in
lemma never_authorIsRecipient (session : VerifiedSession) (scope : SwarmScope)
    (v : Option String) (m : Option MembershipMutation) :
    (authorIsRecipient X session scope v m).Never B := by
  unfold authorIsRecipient
  split
  · trivial
  · split
    · trivial
    · exact never_scopeContains X _ _ _ _
  · exact never_scopeContains X _ _ _ _

lemma never_applyMembershipMutation (n : String) (m : MembershipMutation) (a : Option String) :
    (applyMembershipMutation X config n m a).Never B := by
  unfold applyMembershipMutation recordMembershipMutation bindMembers
  refine (never_query _).bind fun _ => (never_ofOption _).bind fun _ => ?_
  refine ((never_stmt hB _).bind fun _ => (never_query _).bind fun _ =>
    (never_ofOption _).bind fun _ => never_bailIf).bind fun _ => ?_
  refine (never_query _).bind fun _ => (never_ofExcept _).bind fun _ => (never_query _).bind fun _ => ?_
  refine ((never_forEach fun _ => never_forEach fun _ => never_bindScopeMember X hB _ _ _ _).bind
    fun _ => never_forEach fun _ => never_mailboxes X hB _ _).bind fun _ => ?_
  exact (never_forEach (never_stmt hB)).bind fun _ => (never_query _).bind fun _ =>
    never_bailIf.bind fun _ => trivial

lemma never_applyFrameMutation (session : VerifiedSession) (route : EventTransportRoute)
    (current : Option String × Nat) (m : Option MembershipMutation) :
    (applyFrameMutation X config session route current m).Never B := by
  cases m with
  | none => trivial
  | some => exact (never_applyMembershipMutation X config hB _ _ _).bind fun _ => trivial

omit hB in
lemma never_acquireTokens (n : String) (scope : SwarmScope) (cls : DeliveryClass) (k : Nat) :
    (acquireTokens config n scope cls k).Never B := by
  have tokens : (acquireNonGlobalDeliveryTokens n k
      config.reservedNonGlobalDeliveriesPerSecond).Never B := by
    unfold acquireNonGlobalDeliveryTokens
    split
    · trivial
    · split
      · trivial
      · exact never_query _
  cases scope with
  | node => trivial
  | global => exact (never_query _).bind fun _ => never_bailIf
  | region | group => exact tokens.bind fun _ => never_bailIf

lemma never_reconcile (n : String) (route : EventTransportRoute)
    (m : Option MembershipMutation) : (reconcileUnlessMutated X n route m).Never B := by
  cases m with
  | some => trivial
  | none =>
    show (reconcileScopeBindings X n route).Never B
    unfold reconcileScopeBindings
    split
    · trivial
    · refine (never_ofOption _).bind fun l => ?_
      unfold reconcileShared rebindRoute unbindScopeMember
      refine (never_query _).bind fun _ => (never_ofOption _).bind fun _ => ?_
      refine (never_query _).bind fun _ => (never_query _).bind fun _ => ?_
      refine (never_forEach fun _ => never_bindScopeMember X hB _ _ _ _).bind fun _ => ?_
      refine (never_forEach fun _ => never_forEach fun _ => never_run (hB _ (by trivial))).bind
        fun _ => (never_exec hB (by trivial)).bind fun _ => ?_
      exact (never_forEach fun _ => never_forEach fun _ => never_exec hB (by trivial)).bind fun _ =>
        never_exec hB (by trivial)

lemma never_publishRecord (recipient : Option String) (r : BrokerRecord) :
    (publishRecord X recipient r).Never B := by
  cases recipient with
  | some => exact (never_mailboxes X hB _ _).bind fun _ => never_run (hB _ (by trivial))
  | none => exact (never_ofOption _).bind fun _ => never_run (hB _ (by trivial))

omit hB in
lemma never_checkSnapshot (session : VerifiedSession) (m : Option MembershipMutation) :
    (checkSnapshot X session m).Never B := by
  unfold checkSnapshot validateMembershipSnapshotAuthority
  split
  · exact never_bailIf.bind fun _ => (never_query _).bind fun _ => never_bailIf.bind fun _ =>
      (never_query _).bind fun _ => never_ofExcept _
  · trivial

omit hB in
lemma never_checkGlobalAuthority (session : VerifiedSession) (route : EventTransportRoute) :
    (checkGlobalAuthority session route).Never B := by
  unfold checkGlobalAuthority
  split
  · exact (never_query _).bind fun _ => never_bailIf
  · trivial

omit hB in
lemma never_loadConfirmedReceipt (n p rid : String) (h₁ h₂ : Digest) :
    (loadConfirmedReceipt n p rid h₁ h₂).Never B := by
  unfold loadConfirmedReceipt
  refine (never_query _).bind fun row => ?_
  cases row with
  | none => trivial
  | some => exact (never_ofExcept _).bind fun _ => trivial

lemma publish_of (session : VerifiedSession) (frame : PublishFrame)
    {P Q : Gw PublishAcceptance → Prop}
    (hP : ∀ {β : Type} {p : Gw β} {f : β → Gw PublishAcceptance}, p.Never B → (∀ a, P (f a)) →
      P (p >>= f))
    (hQ : ∀ {β : Type} {p : Gw β} {f : β → Gw PublishAcceptance}, p.Never B → (∀ a, Q (f a)) →
      Q (p >>= f))
    (hb : ∀ n l e (f : Unit → Gw PublishAcceptance), P (f ()) → Q (run (.begin n l e) >>= f))
    (hc : ∀ r, P (run .commit >>= fun _ => return r)) (hr : ∀ r, Q (return r)) :
    Q (publish X config session frame) := by
  unfold publish
  refine hQ never_bailIf fun _ => hQ (never_ofExcept _) fun vf => ?_
  refine hQ (never_checkSnapshot X _ _) fun _ => hQ (never_checkGlobalAuthority _ _) fun _ => ?_
  refine hQ (never_loadConfirmedReceipt _ _ _ _ _) fun found => ?_
  cases found with
  | some r => exact hQ never_bailIf fun _ => hr r
  | none =>
    show Q (publishFenced X config session frame vf _)
    unfold publishFenced
    refine hQ (never_ofOption _) fun l => hb _ _ _ _ ?_
    refine hP (never_authorized X _ _ _ _) fun _ => ?_
    refine hP (never_applyFrameMutation X config hB _ _ _ _) fun _ => ?_
    refine hP never_bailIf fun _ => hP (never_authorIsRecipient X _ _ _ _) fun _ => ?_
    refine hP (never_ofOption _) fun _ => hP never_bailIf fun _ => ?_
    refine hP (never_acquireTokens config _ _ _ _) fun _ => ?_
    refine hP (never_reconcile X hB _ _ _) fun _ => hP (never_query _) fun _ => ?_
    refine hP (never_query _) fun _ => hP (never_publishRecord X hB _ _) fun _ => ?_
    refine hP (never_query _) fun _ => hP (never_stmt hB _) fun _ => hP (never_stmt hB _) fun _ => ?_
    exact hc _

end Parts

section

variable (X : Wattswarm) (config : Config) (session : VerifiedSession) (frame : PublishFrame)
include X config session frame

lemma last_publish : (publish X config session frame).Last (· = .commit) := by
  refine publish_of X config ?_ session frame (P := Last (· = .commit)) Never.upon_bind
    Never.upon_bind ?_ ?_ fun _ => trivial
  · rintro c hc rfl
    exact hc
  · exact fun n l e f hf => (never_run nofun).upon_bind fun _ => hf
  · exact fun r => ⟨fun _ => ⟨r, rfl⟩, trivial⟩

lemma never_unbinding :
    (publish X config session frame).Never fun c => ∃ st : Stmt, c = .exec st ∧ ¬ st.Binds := by
  refine publish_of X config ?_ session frame Never.bind Never.bind ?_ ?_ fun _ => trivial
  · rintro _ hc ⟨_, rfl, hs⟩
    exact hs hc
  · exact fun n l e f hf => (never_run (by simp)).bind fun _ => hf
  · exact fun r => (never_run (by simp)).bind fun _ => trivial

end

end WattGateway.Message
