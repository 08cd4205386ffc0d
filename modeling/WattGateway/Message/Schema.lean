import WattGateway.Message.Db

/-!
# Schema and seed

The part of `init_schema` that creates `gateway_publish_receipts` and migrates it, and
`seed_trusted_network_genesis`, which puts the configured genesis authorities and the first
membership of their networks into the tables.
-/

namespace WattGateway.Message

/-! ## The table of publish receipts -/

/-- A `NOT NULL` column without a default. -/
def required (name : String) : Column := ⟨name, true, none⟩

/-- A column that may be `NULL`. -/
def nullable (name : String) : Column := ⟨name, false, none⟩

/-- `CREATE TABLE IF NOT EXISTS gateway_publish_receipts`, on the columns of the table if it is
there. -/
def createPublishReceipts : Option (List Column) → List Column
  | some columns => columns
  | none =>
    [required "network_id", required "principal_id", required "record_id",
      required "authorized_route_hash", required "record_hash", nullable "membership_version",
      required "delivery_class", required "delivery_policy_version",
      required "expected_recipients", required "binding_set_hash", required "publish_status",
      nullable "confirmed_at", required "expires_at"]

/-- `ALTER TABLE … ADD COLUMN IF NOT EXISTS`. -/
def addColumnIfNotExists (columns : List Column) (c : Column) : List Column :=
  if c.name ∈ columns.map Column.name then columns else columns ++ [c]

/-- `init_schema`, on the table of publish receipts. -/
def initSchema (existing : Option (List Column)) : List Column :=
  addColumnIfNotExists (createPublishReceipts existing) ⟨"record_hash", true, some ""⟩

lemma checkInsert_control :
    checkInsert (initSchema none) receiptInsertColumns (receiptNulls none) =
      .error "null value in column violates not-null constraint" := by
  decide

/-! ## The seed -/

/-- `authority_kind` of the only authorities the gateway projects. -/
def genesisKind : String := "genesis"

def trustedGenesisVersion (genesis : String) : String := "trusted-genesis:" ++ genesis

/-- The membership row of a seeded genesis principal. -/
def genesisRow (genesis : String) : MembershipRow :=
  ⟨trustedGenesisVersion genesis, .active, .pending, .pending,
    [.proposer, .verifier, .committer, .finalizer]⟩

def seedMembership (db : Db) (network genesis : String) : Except String Db :=
  match db.memberships.insert? (network, "global", genesis) (genesisRow genesis) with
  | none => .error "duplicate key value violates unique constraint"
  | some memberships =>
    .ok { db with
      memberships := memberships
      scopeVersions := db.scopeVersions.upsert (network, "global") fun _ =>
        ⟨trustedGenesisVersion genesis, 1⟩ }

/-- One turn of the loop of `seed_trusted_network_genesis`. -/
def seedNetwork (db : Db) (entry : String × String) : Except String Db :=
  let (network, genesis) := entry
  let existing := Select.run 0 db (.genesisAuthority network)
  if ∃ g ∈ existing, g ≠ genesis then
    .error "configured network genesis conflicts with the persisted authority projection"
  else
    let db := { db with
      authorities := db.authorities.upsert (network, genesis, genesisKind) fun _ =>
        ⟨"trusted-config-v1", .active⟩ }
    if (db.scopeVersions.get? (network, "global")).isSome then .ok db
    else seedMembership db network genesis

def seedTrustedNetworkGenesis (config : Config) (db : Db) : Except String Db :=
  config.trustedNetworkGenesis.rows.foldlM seedNetwork db

end WattGateway.Message
