import WattGateway.Message.Sessions

/-!
# What a call may do when

The rule every call follows: which members a mutation binds and writes and where it read them
(`Applied`), what was checked before a snapshot is applied (`SnapshotChecked`), what stands in the
transaction at a commit (`CommitOk`), and that nothing follows a commit. It is proved of each
program once; from then on the programs are not looked at again.
-/

namespace WattGateway.Message

open Prog Hist

variable {h h' : Hist Cmd Query Ans} {m : MembershipMutation}

/-! ## The rule -/

/-- The queries whose answers a fence keeps true. -/
def Query.Fenced : Query → Prop
  | txSelect _ => True
  | select (.scopeVersion _ _) => True
  | select (.members _ _ _) => True
  | select (.boundPrincipals _ _ _) => True
  | _ => False

def Fenced : Entry Cmd Query Ans → Prop
  | .heard q _ => q.Fenced
  | .did _ => False

/-- Nothing has been read that a fence should protect. -/
def Unfenced (h : Hist Cmd Query Ans) : Prop := ∀ e ∈ h, ¬ Fenced e.2

/-- The statements of the open transaction leave the scopes alone. -/
def QuietTx (h : Hist Cmd Query Ans) : Prop :=
  ∀ tx, txOf h = some tx → ∀ w ∈ tx.writes, w.2.Quiet

section

variable (X : Wattswarm)

/-- The call applies the mutation `m` to the scope with label `l` of network `n`. -/
def Call.Mutates : Call → String → String → MembershipMutation → Prop
  | publish session frame, n, l, m => session.networkId = n ∧ ∃ vf,
      validateRecordFrame X frame session = .ok vf ∧ vf.membershipMutation = some m ∧
      X.scopeLabel m.scope = some l
  | admitGrant grant, n, l, m => grant.networkId = n ∧ X.scopeLabel .global = some l ∧ ∃ gid,
      X.networkMembershipGrantId grant = some gid ∧ m = grantMutation grant gid
  | _, _, _, _ => False

variable {X} in
lemma Call.Mutates.snapshot {call : Call} {n l v : String} {scope : SwarmScope}
    {membership : Membership} {threshold : Nat} {signatures : List SignatureEnvelope}
    (h : call.Mutates X n l (.snapshot scope membership threshold signatures v)) :
    scope = .global ∧ ∃ session frame, call = .publish session frame ∧ session.networkId = n := by
  cases call with
  | publish session frame =>
    obtain ⟨hn, _, hv, hm, -⟩ := h
    rcases (validateRecordFrame_mutation hv hm).2 with ⟨_, _, _, he⟩ | ⟨_, _, he, -⟩
    · cases he
      exact ⟨rfl, session, frame, rfl, hn⟩
    · cases he
  | admitGrant =>
    obtain ⟨-, -, _, -, he⟩ := h
    cases he
  | challenge => exact h.elim
  | control => exact h.elim

def scopeBinding (n p a v : String) (c : DeliveryClass) : Cmd :=
  .queueBind (.scope c) (queueName X n p c) (scopeRouteKey n a v)

/-- The mutation `m` was applied: the active members were read in the transaction, the desired
ones bound to every route, and `ws` are the statements issued. -/
def Applied (n l : String) (m : MembershipMutation) (additional : Option String)
    (h : Hist Cmd Query Ans) (ws : List (Nat × Stmt)) : Prop :=
  ∃ existing routes τ window core, h.Heard (.txSelect (.activePrincipals n l)) existing ∧
    ws = (τ, .recordMembershipMutation n l m.version window) :: core ∧
    core.map Prod.snd = mutationStmts n l m (m.desired existing) routes ∧
    (∀ a ∈ additional, a ∈ routes) ∧
    ∀ a ∈ routes, ∀ p ∈ m.desired existing, ∀ c, h.Did (scopeBinding X n p a m.version c)

variable {X} in
lemma Applied.mono {n l : String} {additional : Option String}
    {ws : List (Nat × Stmt)} (ha : Applied X n l m additional h ws)
    (hs : h <:+ h') : Applied X n l m additional h' ws := by
  obtain ⟨existing, routes, τ, window, core, hex, hw, hc, hr, hd⟩ := ha
  exact ⟨existing, routes, τ, window, core, hex.mono hs, hw, hc, hr,
    fun a ha p hp c => (hd a ha p hp c).mono hs⟩

/-- The author and quorum rule was evaluated on the roles and the genesis authority read. -/
def SnapshotChecked (session : VerifiedSession) (h : Hist Cmd Query Ans) : MembershipMutation → Prop
  | .snapshot _ membership threshold signatures _ => ∃ genesis rows,
      h.Heard (.select (.genesisAuthority session.networkId)) genesis ∧
      h.Heard (.select (.globalRoles session.networkId)) rows ∧
      snapshotAuthority X genesis rows session.principalId membership threshold signatures = .ok ()
  | .principal _ _ _ _ => True

variable {X} in
lemma SnapshotChecked.mono {session : VerifiedSession}
    (hc : SnapshotChecked X session h m) (hs : h <:+ h') :
    SnapshotChecked X session h' m := by
  cases m with
  | principal => trivial
  | snapshot =>
    obtain ⟨genesis, rows, hg, hr, hok⟩ := hc
    exact ⟨genesis, rows, hg.mono hs, hr.mono hs, hok⟩

def receiptLookup (session : VerifiedSession) (frame : PublishFrame) : Select :=
  .confirmedReceipt session.networkId session.principalId frame.recordId

/-- The state of a publish at its commit. -/
structure PublishReady (session : VerifiedSession) (frame : PublishFrame)
    (h : Hist Cmd Query Ans) (vf : ValidatedFrame) (l : String) (ws : List (Nat × Stmt))
    (τ : Nat) (row : ReceiptRow) : Prop where
  validated : validateRecordFrame X frame session = .ok vf
  label : X.scopeLabel vf.route.scope = some l
  looked : h.Heard (.select (receiptLookup session frame)) none
  checked : ∀ m ∈ vf.membershipMutation, SnapshotChecked X session h m
  tx : ∃ τ' audit, txOf h = some ⟨fenceKey session.networkId l, vf.membershipMutation.isSome,
    ws ++ [(τ, .insertReceipt session.networkId session.principalId frame.recordId row),
      (τ', .recordAudit audit)]⟩
  unmutated : vf.membershipMutation = none → ws = []
  mutated : ∀ m ∈ vf.membershipMutation,
    Applied X session.networkId l m (some vf.route.address) h ws

/-- The state of `admit_grant` at its commit. -/
structure GrantReady (config : Config) (grant : NetworkMembershipGrant)
    (h : Hist Cmd Query Ans) (gid : String) (found : Option String) (ws : List (Nat × Stmt)) :
    Prop where
  verified : ∃ genesis now, config.trustedNetworkGenesis.get? grant.networkId = some genesis ∧
    h.Heard .clock now ∧ X.verifyNetworkMembershipGrant grant genesis now = true
  grantId : X.networkMembershipGrantId grant = some gid
  looked : h.Heard (.txSelect (.admittedVersion grant.networkId grant.principalId)) found
  tx : ∃ τ, txOf h = some ⟨fenceKey grant.networkId "global", true,
    (τ, .upsertNetworkMembershipGrant grant.networkId grant.principalId gid grant.issuedAt
      grant.expiresAt) :: ws⟩
  early : found ≠ none → ws = []
  mutated : found = none → Applied X grant.networkId "global" (grantMutation grant gid) none h ws

/-- What stands in the transaction when the call commits. -/
def CommitOk (config : Config) (h : Hist Cmd Query Ans) : Call → Prop
  | .publish session frame => ∃ vf l ws τ row, PublishReady X session frame h vf l ws τ row
  | .admitGrant grant => ∃ gid found ws, GrantReady X config grant h gid found ws
  | _ => False

/-- The call may bind the mailbox to a scope route: a member it read or is about to write, or,
at a challenge, the challenged principal on a route it read. -/
def BindOk (call : Call) (h : Hist Cmd Query Ans) (c : DeliveryClass) (queue : String)
    (key : Digest) : Prop :=
  ∃ n p a v, queue = queueName X n p c ∧ key = scopeRouteKey n a v ∧
    ((∃ l m existing, call.Mutates X n l m ∧ v = m.version ∧
        h.Heard (.txSelect (.activePrincipals n l)) existing ∧ p ∈ m.desired existing) ∨
      (∃ l ps, h.Heard (.select (.members n l v)) ps ∧ p ∈ ps) ∨
      (∃ routes, h.Heard (.select (.admissionRoutes n p)) routes ∧ (a, v) ∈ routes))

/-- The call may unbind a mailbox: a bound principal that is not a member, both read under the
fence. -/
def UnbindOk (h : Hist Cmd Query Ans) : Prop :=
  ∃ n l a v e ws ps bs p, txOf h = some ⟨fenceKey n l, e, ws⟩ ∧
    h.Heard (.select (.scopeVersion n l)) (some v) ∧ h.Heard (.select (.members n l v)) ps ∧
    h.Heard (.select (.boundPrincipals n l a)) bs ∧ p ∈ bs ∧ p ∉ ps

/-- The principals a scoped publish is for, as the call knows them. -/
def Recipients (call : Call) (h : Hist Cmd Query Ans) (n l a v : String) (ps : List String) :
    Prop :=
  (∃ m existing, call.Mutates X n l m ∧ v = m.version ∧
      h.Heard (.txSelect (.activePrincipals n l)) existing ∧ ps = m.desired existing ∧
      ∀ p ∈ ps, ∀ c, h.Did (scopeBinding X n p a v c)) ∨
    (∃ v', (∀ m, ¬ call.Mutates X n l m) ∧ h.Heard (.select (.scopeVersion n l)) (some v) ∧
      h.Heard (.select (.scopeVersion n l)) (some v') ∧ h.Heard (.select (.members n l v')) ps ∧
      ∀ p ∈ ps, ∀ c, h.Did (scopeBinding X n p a v' c))

def PublishOk (h : Hist Cmd Query Ans) (ex : Exchange) (key : Digest) : Call → Prop
  | .publish session frame => h.Heard (.select (receiptLookup session frame)) none ∧
      ∀ c, ex = .scope c → ∃ vf l a v ps e ws,
        validateRecordFrame X frame session = .ok vf ∧ X.scopeLabel vf.route.scope = some l ∧
        txOf h = some ⟨fenceKey session.networkId l, e, ws⟩ ∧
        key = scopeRouteKey session.networkId a v ∧
        Recipients X (.publish session frame) h session.networkId l a v ps
  | _ => ∃ c, ex = .direct c

/-- The receipt is for what the publish carries, and the lookup found none before. -/
def ReceiptOk (call : Call) (h : Hist Cmd Query Ans) (n p rid : String) (row : ReceiptRow) : Prop :=
  ∃ session frame vf version expected now, call = .publish session frame ∧
    n = session.networkId ∧ p = session.principalId ∧ rid = frame.recordId ∧
    validateRecordFrame X frame session = .ok vf ∧
    h.Heard (.select (receiptLookup session frame)) none ∧ h.Heard .clock now ∧
    row = publishReceipt frame vf.route (X.deliveryClassForRecord vf.route.lane vf.urgency)
      version expected (now + receiptLifetimeMs)

def StmtOk (call : Call) (h : Hist Cmd Query Ans) : Stmt → Prop
  | .insertReceipt n p rid row => ReceiptOk X call h n p rid row
  | .insertControlReceipt _ _ _ _ _ _ _ => False
  | _ => True

def ExecOk (call : Call) (h : Hist Cmd Query Ans) : Stmt → Prop
  | .deleteRouteBindings _ _ _ => True
  | .insertBinding n l _ p _ v => ∃ e ws ps, txOf h = some ⟨fenceKey n l, e, ws⟩ ∧
      h.Heard (.select (.scopeVersion n l)) (some v) ∧
      h.Heard (.select (.members n l v)) ps ∧ p ∈ ps
  | .activateBindings _ _ => True
  | .insertControlReceipt n p _ _ _ _ _ => ∃ session frame, call = .control session frame ∧
      n = session.networkId ∧ p = session.principalId
  | _ => False

def CmdOk (config : Config) (call : Call) (h : Hist Cmd Query Ans) : Cmd → Prop
  | .begin _ _ _ => Unfenced h
  | .stmt s => StmtOk X call h s
  | .exec s => ExecOk call h s
  | .commit => CommitOk X config h call
  | .queueDeclare _ => True
  | .queueBind (.scope c) queue key => BindOk X call h c queue key
  | .queueBind (.direct _) _ _ => True
  | .queueUnbind _ _ _ => UnbindOk h
  | .basicPublish ex key _ => PublishOk X h ex key call

/-- The call looks a receipt up once, under its own key. -/
def LookupOk (h : Hist Cmd Query Ans) (s : Select) : Call → Prop
  | .publish session frame => s = receiptLookup session frame ∧
      ∀ r, ¬ h.Heard (.select (receiptLookup session frame)) r
  | .control _ _ => True
  | _ => False

def AskOk (call : Call) (h : Hist Cmd Query Ans) : Query → Prop
  | .txSelect s => QuietTx h ∧
      ∀ n p, s = .admittedVersion n p → ∀ r, ¬ h.Heard (.txSelect s) r
  | .select (.confirmedReceipt n p rid) => LookupOk h (.confirmedReceipt n p rid) call
  | .select (.globalRoles n) => ∃ session frame, call = .publish session frame ∧
      n = session.networkId
  | .select (.admissionRoutes n p) => call = .challenge n p
  | _ => True

def callRule (config : Config) (call : Call) : Rule Cmd Query Ans where
  onCmd h c := ¬ h.Did .commit ∧ CmdOk X config call h c
  onAsk h q := ¬ h.Did .commit ∧ AskOk call h q

def ReplyOk (call : Call) (h : Hist Cmd Query Ans) : Reply → Prop
  | .publish r => ∃ session frame vf, call = .publish session frame ∧
      validateRecordFrame X frame session = .ok vf ∧
      (h.Did .commit ∨ ∃ receipt, h.Heard (.select (receiptLookup session frame)) (some receipt) ∧
        receiptAcceptance frame.recordId (.record frame.payload) (.route vf.route) receipt = .ok r ∧
        r.deliveryClass = X.deliveryClassForRecord vf.route.lane vf.urgency ∧
        r.deliveryPolicyVersion = frame.deliveryPolicyVersion)
  | .control _ => (∃ session frame, call = .control session frame) ∧
      ((∀ ex key m, ¬ h.Did (.basicPublish ex key m)) ∨
        ∃ n p cid rh pv bh e, h.Did (.exec (.insertControlReceipt n p cid rh pv bh e)))
  | .admitGrant _ => (∃ grant, call = .admitGrant grant) ∧ h.Did .commit
  | .challenge => ∃ n p, call = .challenge n p

end

end WattGateway.Message
