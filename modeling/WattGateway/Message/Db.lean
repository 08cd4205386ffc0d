import Mathlib.Data.List.Dedup
import WattGateway.Message.Types

/-!
# The gateway database

The control tables of `message-gateway/src/db.rs` under their primary keys, and the SQL statements
of `db.rs` and `service.rs` on them. `Select.run` and `Stmt.run` are their meaning at a clock
reading, in milliseconds. Columns that no modelled function reads are left out, as is
`publish_status`, which every insert sets to `'confirmed'`. Column constraints are kept for publish
receipts only (`Schema`).
-/

namespace WattGateway.Message

inductive MemberState where
  | active
  | revoked
  deriving DecidableEq

inductive BindingState where
  | pending
  | active
  | revoked
  deriving DecidableEq

/-- A row of `gateway_scope_memberships`. -/
structure MembershipRow where
  membershipVersion : String
  state : MemberState
  interactiveBindingState : BindingState
  bulkBindingState : BindingState
  rolesJson : List Role
  deriving DecidableEq

/-- A row of `gateway_network_membership_grants`. -/
structure GrantRow where
  grantId : String
  issuedAtMs : Nat
  expiresAtMs : Option Nat
  deriving DecidableEq

/-- A row of `gateway_scope_versions`. -/
structure ScopeVersionRow where
  activeMembershipVersion : String
  routingFence : Nat
  deriving DecidableEq

/-- A row of `gateway_network_authorities`. -/
structure AuthorityRow where
  projectionVersion : String
  state : MemberState
  deriving DecidableEq

/-- A row of `gateway_scope_route_bindings`. -/
structure RouteBindingRow where
  membershipVersion : String
  bindingState : BindingState
  deriving DecidableEq

/-- A row of `gateway_scope_mutation_windows`. -/
structure MutationWindowRow where
  windowStartedAt : Nat
  mutationCount : Nat
  lastMembershipVersion : String
  deriving DecidableEq

/-- A row of `gateway_publish_receipts`; no `recordHash` stands for the empty text. -/
structure ReceiptRow where
  authorizedRouteHash : Digest
  recordHash : Option Digest
  membershipVersion : Option String
  deliveryClass : DeliveryClass
  deliveryPolicyVersion : Nat
  expectedRecipients : Nat
  bindingSetHash : Digest
  expiresAt : Nat
  deriving DecidableEq

/-- A row of `gateway_audit`. -/
structure AuditRow where
  networkId : String
  principalId : String
  action : String
  outcome : String
  recordId : String
  deriving DecidableEq

structure Column where
  name : String
  notNull : Bool
  default : Option String
  deriving DecidableEq

structure Db where
  /-- By network, scope label and principal. -/
  memberships : Table (String × String × String) MembershipRow
  /-- By network and principal. -/
  grants : Table (String × String) GrantRow
  /-- By network and scope label. -/
  scopeVersions : Table (String × String) ScopeVersionRow
  /-- By network, principal and authority kind. -/
  authorities : Table (String × String × String) AuthorityRow
  /-- By network, scope label, route address, principal and class. -/
  routeBindings : Table (String × String × String × String × DeliveryClass) RouteBindingRow
  /-- By network and scope label. -/
  mutationWindows : Table (String × String) MutationWindowRow
  /-- By network, principal and record. -/
  receipts : Table (String × String × String) ReceiptRow
  audit : List AuditRow
  /-- The columns of `gateway_publish_receipts`. -/
  receiptColumns : List Column

namespace Db

def empty (receiptColumns : List Column) : Db where
  memberships := .empty
  grants := .empty
  scopeVersions := .empty
  authorities := .empty
  routeBindings := .empty
  mutationWindows := .empty
  receipts := .empty
  audit := []
  receiptColumns := receiptColumns

/-- The condition the queries put on the joined grant: no row, no expiry, or a later one. -/
def grantCurrent (db : Db) (now : Nat) (network principal : String) : Bool :=
  match db.grants.get? (network, principal) with
  | none => true
  | some g => match g.expiresAtMs with
    | none => true
    | some e => now < e

def activeRows (db : Db) (network label : String) :
    List ((String × String × String) × MembershipRow) :=
  db.memberships.select fun k r => k.1 = network ∧ k.2.1 = label ∧ r.state = .active

def activeRoles (db : Db) (network label principal : String) : Option (List Role) :=
  ((db.memberships.get? (network, label, principal)).filter fun r => r.state = .active).map
    MembershipRow.rolesJson

end Db

/-! ## Reading -/

inductive Select where
  | principalIsAdmitted (network principal : String)
  | activeTenantCount (network : String)
  /-- The Global routes that `ensure_tenant_transport_admission` binds `principal` to. -/
  | admissionRoutes (network principal : String)
  | principalIsGlobalAuthority (network principal : String)
  /-- `active_version` of `admit_grant`. -/
  | admittedVersion (network principal : String)
  | confirmedReceipt (network principal recordId : String)
  /-- `genesis` of `validate_membership_snapshot_authority`. -/
  | genesisAuthority (network : String)
  /-- `rows` of `validate_membership_snapshot_authority`. -/
  | globalRoles (network : String)
  /-- `author_allowed` of `authorized_scope_version_and_count`. -/
  | authorAllowed (network label principal : String) (allowNetworkMember : Bool)
  /-- `active_membership_version` of a scope. -/
  | scopeVersion (network label : String)
  /-- `count` of `authorized_scope_version_and_count`. -/
  | memberCount (network label : String) (version : Option String)
  | scopeContainsPrincipal (network label principal : String) (version : Option String)
  /-- `members` of `reconcile_scope_bindings`. -/
  | members (network label version : String)
  /-- `bound` of `reconcile_scope_bindings`. -/
  | boundPrincipals (network label address : String)
  /-- `existing` of `apply_membership_mutation`. -/
  | activePrincipals (network label : String)
  /-- `routes` of `apply_membership_mutation`. -/
  | routeAddresses (network label : String)
  | mutationCount (network label : String)

abbrev Select.Row : Select → Type
  | principalIsAdmitted _ _ => Bool
  | activeTenantCount _ => Nat
  | admissionRoutes _ _ => List (String × String)
  | principalIsGlobalAuthority _ _ => Bool
  | admittedVersion _ _ => Option String
  | confirmedReceipt _ _ _ => Option ReceiptRow
  | genesisAuthority _ => Option String
  | globalRoles _ => List (String × List Role)
  | authorAllowed _ _ _ _ => Bool
  | scopeVersion _ _ => Option String
  | memberCount _ _ _ => Nat
  | scopeContainsPrincipal _ _ _ _ => Bool
  | members _ _ _ => List String
  | boundPrincipals _ _ _ => List String
  | activePrincipals _ _ => List String
  | routeAddresses _ _ => List String
  | mutationCount _ _ => Option Nat

def Select.run (now : Nat) (db : Db) : (s : Select) → s.Row
  | principalIsAdmitted n p =>
    (db.activeRoles n "global" p).isSome && db.grantCurrent now n p
  | activeTenantCount n =>
    ((db.activeRows n "global").filter fun kr => db.grantCurrent now n kr.1.2.2).length
  | admissionRoutes n _ =>
    ((db.routeBindings.select fun k r => k.1 = n ∧ k.2.1 = "global" ∧ r.bindingState = .active).map
        fun kr => (kr.1.2.2.1, kr.2.membershipVersion)).dedup
  | principalIsGlobalAuthority n p =>
    match db.authorities.get? (n, p, "genesis") with
    | some r => r.state = .active
    | none => false
  | admittedVersion n p =>
    match db.memberships.get? (n, "global", p) with
    | some r => if r.state = .active ∧ db.grantCurrent now n p then some r.membershipVersion else none
    | none => none
  | confirmedReceipt n p rid =>
    (db.receipts.get? (n, p, rid)).filter fun r => now < r.expiresAt
  | genesisAuthority n =>
    ((db.authorities.select fun k r =>
      k.1 = n ∧ k.2.2 = "genesis" ∧ r.state = .active).map fun kr => kr.1.2.1).head?
  | globalRoles n => (db.activeRows n "global").map fun kr => (kr.1.2.2, kr.2.rolesJson)
  | authorAllowed n l p allow =>
    ((db.activeRoles n l p).isSome || allow && (db.activeRoles n "global" p).isSome) &&
      db.grantCurrent now n p
  | scopeVersion n l => (db.scopeVersions.get? (n, l)).map ScopeVersionRow.activeMembershipVersion
  | memberCount n l v =>
    ((db.activeRows n l).filter fun kr =>
      db.grantCurrent now n kr.1.2.2 && (v.all fun v => kr.2.membershipVersion = v)).length
  | scopeContainsPrincipal n l p v =>
    match db.memberships.get? (n, l, p) with
    | some r => r.state = .active ∧ db.grantCurrent now n p ∧ ∀ v' ∈ v, r.membershipVersion = v'
    | none => false
  | members n l v =>
    ((db.activeRows n l).filter fun kr => kr.2.membershipVersion = v).map fun kr => kr.1.2.2
  | boundPrincipals n l a =>
    ((db.routeBindings.select fun k r =>
      k.1 = n ∧ k.2.1 = l ∧ k.2.2.1 = a ∧ r.bindingState = .active).map
        fun kr => kr.1.2.2.2.1).dedup
  | activePrincipals n l => (db.activeRows n l).map fun kr => kr.1.2.2
  | routeAddresses n l =>
    ((db.routeBindings.select fun k _ => k.1 = n ∧ k.2.1 = l).map fun kr => kr.1.2.2.1).dedup
  | mutationCount n l => (db.mutationWindows.get? (n, l)).map MutationWindowRow.mutationCount

/-! ## Writing -/

inductive Stmt where
  | upsertNetworkMembershipGrant (network principal grantId : String) (issuedAtMs : Nat)
      (expiresAtMs : Option Nat)
  /-- The first statement of `record_membership_mutation`. -/
  | recordMembershipMutation (network label version : String) (windowMs : Nat)
  /-- The `UPDATE … SET state = 'revoked'` of `apply_membership_mutation`. -/
  | revokeScope (network label version : String)
  /-- The insert of a member in `apply_membership_mutation`. -/
  | upsertMember (network label principal version : String) (roles : List Role)
  | deleteScopeBindings (network label : String)
  | insertBinding (network label address principal : String) (cls : DeliveryClass)
      (version : String)
  | upsertScopeVersion (network label version : String)
  /-- The receipt of a confirmed publish. -/
  | insertReceipt (network principal recordId : String) (row : ReceiptRow)
  | recordAudit (row : AuditRow)
  /-- The `DELETE` of `reconcile_scope_bindings`. -/
  | deleteRouteBindings (network label address : String)
  /-- The last `UPDATE` of `reconcile_scope_bindings`. -/
  | activateBindings (network label : String)
  /-- The receipt of a confirmed control frame, inserted without a `record_hash`. -/
  | insertControlReceipt (network principal correlationId : String) (routeHash : Digest)
      (policyVersion : Nat) (bindingHash : Digest) (expiresAt : Nat)

/-- The columns both receipt inserts name. -/
def receiptInsertColumns : List String :=
  ["network_id", "principal_id", "record_id", "authorized_route_hash", "membership_version",
    "delivery_class", "delivery_policy_version", "expected_recipients", "binding_set_hash",
    "publish_status", "confirmed_at", "expires_at"]

/-- An insert that names the columns `given`, those in `nulls` with `NULL`: each must exist, and
no `NOT NULL` column may end up without a value. -/
def checkInsert (columns : List Column) (given nulls : List String) : Except String Unit :=
  if ∃ g ∈ given, g ∉ columns.map Column.name then .error "column does not exist"
  else if ∃ c ∈ columns, c.notNull ∧ (c.name ∈ nulls ∨ c.name ∉ given ∧ c.default = none) then
    .error "null value in column violates not-null constraint"
  else .ok ()

/-- The columns a receipt gives as `NULL`. -/
def receiptNulls (membershipVersion : Option String) : List String :=
  if membershipVersion = none then ["membership_version"] else []

/-- The new mutation window: started again once it has passed, else charged unless the version
repeats the last one. -/
def nextWindow (now windowMs : Nat) (version : String) :
    Option MutationWindowRow → MutationWindowRow
  | none => ⟨now, 1, version⟩
  | some w =>
    if w.windowStartedAt + windowMs ≤ now then ⟨now, 1, version⟩
    else ⟨w.windowStartedAt,
      if w.lastMembershipVersion = version then w.mutationCount else w.mutationCount + 1, version⟩

/-- A membership row once its scope has been revoked under version `v`. -/
def revokedAt (v : String) (r : MembershipRow) : MembershipRow :=
  { r with
    membershipVersion := v
    state := .revoked
    interactiveBindingState := .revoked
    bulkBindingState := .revoked }

/-- A membership row once its bindings are in place. -/
def boundActive (r : MembershipRow) : MembershipRow :=
  { r with interactiveBindingState := .active, bulkBindingState := .active }

/-- The version row of a scope after a mutation, one fence further. -/
def nextScopeVersion (v : String) : Option ScopeVersionRow → ScopeVersionRow
  | none => ⟨v, 1⟩
  | some r => ⟨v, r.routingFence + 1⟩

/-- The receipt under a key after an insert: the old one stays while it is alive. -/
def nextReceipt (now : Nat) (row : ReceiptRow) : Option ReceiptRow → ReceiptRow
  | none => row
  | some r => if r.expiresAt ≤ now then row else r

def Stmt.run (now : Nat) (db : Db) : Stmt → Except String Db
  | upsertNetworkMembershipGrant n p gid issued expires =>
    .ok { db with grants := db.grants.upsert (n, p) fun _ => ⟨gid, issued, expires⟩ }
  | recordMembershipMutation n l v windowMs =>
    .ok { db with mutationWindows := db.mutationWindows.upsert (n, l) (nextWindow now windowMs v) }
  | revokeScope n l v =>
    .ok { db with
      memberships := db.memberships.update (fun k _ => k.1 = n ∧ k.2.1 = l) (revokedAt v) }
  | upsertMember n l p v roles =>
    .ok { db with
      memberships := db.memberships.upsert (n, l, p) fun _ => ⟨v, .active, .active, .active, roles⟩ }
  | deleteScopeBindings n l =>
    .ok { db with routeBindings := db.routeBindings.delete fun k _ => k.1 = n ∧ k.2.1 = l }
  | insertBinding n l a p c v =>
    match db.routeBindings.insert? (n, l, a, p, c) ⟨v, .active⟩ with
    | some t => .ok { db with routeBindings := t }
    | none => .error "duplicate key value violates unique constraint"
  | upsertScopeVersion n l v =>
    .ok { db with scopeVersions := db.scopeVersions.upsert (n, l) (nextScopeVersion v) }
  | insertReceipt n p rid row => do
    checkInsert db.receiptColumns ("record_hash" :: receiptInsertColumns)
      (receiptNulls row.membershipVersion)
    return { db with receipts := db.receipts.upsert (n, p, rid) (nextReceipt now row) }
  | recordAudit row => .ok { db with audit := row :: db.audit }
  | deleteRouteBindings n l a =>
    .ok { db with
      routeBindings := db.routeBindings.delete fun k _ => k.1 = n ∧ k.2.1 = l ∧ k.2.2.1 = a }
  | activateBindings n l =>
    .ok { db with
      memberships := db.memberships.update (fun k r => k.1 = n ∧ k.2.1 = l ∧ r.state = .active)
        boundActive }
  | insertControlReceipt n p cid routeHash policy bindingHash expires => do
    checkInsert db.receiptColumns receiptInsertColumns (receiptNulls none)
    return { db with
      receipts := db.receipts.upsert (n, p, cid) fun r =>
        r.getD ⟨routeHash, none, none, .interactive, policy, 1, bindingHash, expires⟩ }

end WattGateway.Message
