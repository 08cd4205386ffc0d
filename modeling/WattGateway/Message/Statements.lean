import WattGateway.Message.Service

/-!
# What the statements do to a scope

`Stmt.onMemberships`, `Stmt.onBindings` and `Stmt.onVersions` give the effect of one statement on
one table, `Tx.view_memberships` and its companions that of a transaction. By `view_mutation` the
statements of `apply_membership_mutation` leave exactly the desired members active and touch no
other scope. A scope is looked at through `Db.member`, without the binding states, which
`reconcile_scope_bindings` writes outside a transaction.
-/

namespace WattGateway.Message

open List Stmt Table

variable {desired routes : List String} {db db' : Db} {m : MembershipMutation} {n l : String}
  {tx : Tx}

/-! ## Folds of fallible steps -/

variable {τ β : Type} {g : τ → β → τ}

lemma foldlM_component {σ : Type} {f : σ → β → Except String σ} {π : σ → τ}
    (hs : ∀ s b s', f s b = .ok s' → π s' = g (π s) b) {l : List β} {s s' : σ}
    (h : l.foldlM f s = .ok s') : π s' = l.foldl g (π s) := by
  induction l generalizing s with
  | nil =>
    cases h
    rfl
  | cons b _ ih =>
    rw [foldlM_cons] at h
    cases hb : f s b with
    | error => rw [hb] at h; cases h
    | ok s₁ =>
      rw [hb] at h
      rw [foldl_cons, ← hs s b s₁ hb]
      exact ih h

lemma foldl_fixed {l : List β} (h : ∀ b ∈ l, ∀ x, g x b = x) (x : τ) : l.foldl g x = x := by
  induction l with
  | nil => rfl
  | cons b _ ih =>
    rw [foldl_cons, h b mem_cons_self]
    exact ih fun b' hb' => h b' (mem_cons_of_mem b hb')

lemma foldl_map_fixed {γ : Type} {f : γ → β} (h : ∀ c x, g x (f c) = x) (l : List γ) (x : τ) :
    (l.map f).foldl g x = x := by
  rw [foldl_map]
  exact foldl_fixed (fun c _ y => h c y) x

/-! ## One statement, table by table -/

abbrev MembershipTable := Table (String × String × String) MembershipRow

abbrev BindingTable := Table (String × String × String × String × DeliveryClass) RouteBindingRow

abbrev VersionTable := Table (String × String) ScopeVersionRow

namespace Stmt

def onMemberships (t : MembershipTable) : Stmt → MembershipTable
  | revokeScope n l v => t.update (fun k _ => k.1 = n ∧ k.2.1 = l) (revokedAt v)
  | upsertMember n l p v roles =>
    t.upsert (n, l, p) fun _ => ⟨v, .active, .active, .active, roles⟩
  | activateBindings n l =>
    t.update (fun k r => k.1 = n ∧ k.2.1 = l ∧ r.state = .active) boundActive
  | _ => t

def onBindings (t : BindingTable) : Stmt → BindingTable
  | deleteScopeBindings n l => t.delete fun k _ => k.1 = n ∧ k.2.1 = l
  | deleteRouteBindings n l a => t.delete fun k _ => k.1 = n ∧ k.2.1 = l ∧ k.2.2.1 = a
  | insertBinding n l a p c v => t.insertNew (n, l, a, p, c) ⟨v, .active⟩
  | _ => t

def onVersions (t : VersionTable) : Stmt → VersionTable
  | upsertScopeVersion n l v => t.upsert (n, l) (nextScopeVersion v)
  | _ => t

def Quiet : Stmt → Prop
  | revokeScope _ _ _ => False
  | upsertMember _ _ _ _ _ => False
  | deleteScopeBindings _ _ => False
  | insertBinding _ _ _ _ _ _ => False
  | upsertScopeVersion _ _ _ => False
  | deleteRouteBindings _ _ _ => False
  | activateBindings _ _ => False
  | _ => True

variable {s : Stmt} {now : Nat}

/-- A statement that succeeds changes the tables of the scopes as the three functions say, and
neither the authorities nor the columns of the receipts. -/
lemma run_ok (h : s.run now db = .ok db') : db'.memberships = s.onMemberships db.memberships ∧
      db'.routeBindings = s.onBindings db.routeBindings ∧
      db'.scopeVersions = s.onVersions db.scopeVersions ∧
      db'.authorities = db.authorities ∧ db'.receiptColumns = db.receiptColumns := by
  cases s with
  | insertBinding n l a p c v =>
    simp only [run] at h
    split at h
    · rename_i t ht
      cases h
      exact ⟨rfl, by simp [onBindings, Table.insertNew, ht], rfl, rfl, rfl⟩
    · cases h
  | insertReceipt _ _ _ row =>
    simp only [run] at h
    cases hc : checkInsert db.receiptColumns ("record_hash" :: receiptInsertColumns)
      (receiptNulls row.membershipVersion) with
    | error => rw [hc] at h; cases h
    | ok => rw [hc] at h; cases h; exact ⟨rfl, rfl, rfl, rfl, rfl⟩
  | insertControlReceipt _ _ _ _ _ _ e =>
    simp only [run] at h
    cases hc : checkInsert db.receiptColumns receiptInsertColumns (receiptNulls none) with
    | error => rw [hc] at h; cases h
    | ok => rw [hc] at h; cases h; exact ⟨rfl, rfl, rfl, rfl, rfl⟩
  | _ => cases h; exact ⟨rfl, rfl, rfl, rfl, rfl⟩

lemma Quiet.memberships (h : s.Quiet) (t : MembershipTable) : s.onMemberships t = t := by
  cases s <;> first | rfl | exact h.elim

lemma Quiet.bindings (h : s.Quiet) (t : BindingTable) : s.onBindings t = t := by
  cases s <;> first | rfl | exact h.elim

lemma Quiet.versions (h : s.Quiet) (t : VersionTable) : s.onVersions t = t := by
  cases s <;> first | rfl | exact h.elim

end Stmt

/-! ## A transaction, table by table -/

namespace Tx

lemma view_component {f : Db → τ} {g : τ → Stmt → τ}
    (hs : ∀ now db db' (s : Stmt), s.run now db = .ok db' → f db' = g (f db) s)
    (h : tx.view db = .ok db') : f db' = (tx.writes.map Prod.snd).foldl g (f db) := by
  rw [foldl_map]
  refine foldlM_component ?_ h
  intro db₁ w db₂ hw
  exact hs w.1 db₁ db₂ w.2 hw

section

variable (h : tx.view db = .ok db')
include h

lemma view_memberships :
    db'.memberships = (tx.writes.map Prod.snd).foldl onMemberships db.memberships :=
  view_component (fun _ _ _ _ hs => (run_ok hs).1) h

lemma view_bindings :
    db'.routeBindings = (tx.writes.map Prod.snd).foldl onBindings db.routeBindings :=
  view_component (fun _ _ _ _ hs => (run_ok hs).2.1) h

lemma view_versions :
    db'.scopeVersions = (tx.writes.map Prod.snd).foldl onVersions db.scopeVersions :=
  view_component (fun _ _ _ _ hs => (run_ok hs).2.2.1) h

lemma view_authorities : db'.authorities = db.authorities := by
  have hf : db'.authorities = (tx.writes.map Prod.snd).foldl (fun x _ => x) db.authorities :=
    view_component (fun _ _ _ _ hs => (run_ok hs).2.2.2.1) h
  rwa [foldl_fixed fun _ _ _ => rfl] at hf

lemma view_receiptColumns : db'.receiptColumns = db.receiptColumns := by
  have hf : db'.receiptColumns = (tx.writes.map Prod.snd).foldl (fun x _ => x) db.receiptColumns :=
    view_component (fun _ _ _ _ hs => (run_ok hs).2.2.2.2) h
  rwa [foldl_fixed fun _ _ _ => rfl] at hf

end

end Tx

/-! ## Scopes -/

/-- A membership row without its binding states: version, state and roles. -/
def MembershipRow.core (r : MembershipRow) : String × MemberState × List Role :=
  (r.membershipVersion, r.state, r.rolesJson)

namespace Db

def member (db : Db) (n l p : String) : Option (String × MemberState × List Role) :=
  (db.memberships.get? (n, l, p)).map MembershipRow.core

def Active (db : Db) (n l p : String) : Prop := ∃ v roles, db.member n l p = some (v, .active, roles)

lemma activeRoles_eq (db : Db) (n l p : String) : db.activeRoles n l p =
      ((db.member n l p).filter fun c => c.2.1 = .active).map fun c => c.2.2 := by
  unfold activeRoles member
  cases db.memberships.get? (n, l, p) with
  | none => rfl
  | some r =>
    by_cases hs : r.state = .active <;> simp [MembershipRow.core, Option.filter, hs]

variable {db : Db}

lemma active_iff {p : String} : db.Active n l p ↔ ∃ roles, db.activeRoles n l p = some roles := by
  rw [activeRoles_eq]
  unfold Active
  rcases db.member n l p with _ | ⟨_, s, _⟩
  · simp
  · cases s <;> simp [Option.filter]

lemma mem_activeRows {k : String × String × String} {r : MembershipRow} :
    (k, r) ∈ db.activeRows n l ↔
      k = (n, l, k.2.2) ∧ db.memberships.get? k = some r ∧ r.state = .active := by
  unfold activeRows
  rw [mem_select]
  obtain ⟨_, _, _⟩ := k
  simp only [decide_eq_true_eq, Prod.mk.injEq, and_true]
  tauto

/-- Nothing about the scope `(n, l)` differs between the two databases but binding states and
route bindings. -/
def SameScope (n l : String) (db db' : Db) : Prop :=
  (∀ p, db'.member n l p = db.member n l p) ∧
    db'.scopeVersions.get? (n, l) = db.scopeVersions.get? (n, l)

lemma SameScope.refl (n l : String) (db : Db) : SameScope n l db db := ⟨fun _ => rfl, rfl⟩

lemma SameScope.trans {db' db'' : Db} (h : SameScope n l db db') (h' : SameScope n l db' db'') :
    SameScope n l db db'' :=
  ⟨fun p => (h'.1 p).trans (h.1 p), h'.2.trans h.2⟩

lemma SameScope.active {db' : Db} (h : SameScope n l db db') (p : String) :
    db'.Active n l p ↔ db.Active n l p := by
  unfold Active
  rw [h.1 p]

lemma SameScope.activeRoles {db' : Db} (h : SameScope n l db db') (p : String) :
    db'.activeRoles n l p = db.activeRoles n l p := by
  rw [activeRoles_eq, activeRoles_eq, h.1 p]

end Db

/-! ## The statements of a mutation -/

lemma mem_mutationStmts {s : Stmt} (hs : s ∈ mutationStmts n l m desired routes) :
    s = .revokeScope n l m.version ∨ (∃ p, s = .upsertMember n l p m.version (m.roles p)) ∨
      s = .deleteScopeBindings n l ∨ (∃ a p c, s = .insertBinding n l a p c m.version) ∨
      s = .upsertScopeVersion n l m.version := by
  unfold mutationStmts at hs
  simp only [cons_append, mem_cons, mem_append, mem_map, mem_flatMap, not_mem_nil, or_false] at hs
  rcases hs with rfl | (⟨p, -, rfl⟩ | rfl | ⟨a, -, p, -, c, -, rfl⟩) | rfl
  · exact .inl rfl
  · exact .inr (.inl ⟨p, rfl⟩)
  · exact .inr (.inr (.inl rfl))
  · exact .inr (.inr (.inr (.inl ⟨a, p, c, rfl⟩)))
  · exact .inr (.inr (.inr (.inr rfl)))

section Mutation

variable {n l v : String} {roles : String → List Role}

lemma get?_upsertMembers (desired : List String) (t : MembershipTable)
    (k : String × String × String) : ((desired.map fun p => upsertMember n l p v (roles p)).foldl
        onMemberships t).get? k =
      if k.1 = n ∧ k.2.1 = l ∧ k.2.2 ∈ desired then
        some ⟨v, .active, .active, .active, roles k.2.2⟩
      else t.get? k := by
  induction desired generalizing t with
  | nil => simp
  | cons p desired ih =>
    rw [map_cons, foldl_cons, ih]
    obtain ⟨n', l', p'⟩ := k
    simp only [onMemberships, get?_upsert, Prod.mk.injEq, mem_cons]
    by_cases hn : n' = n <;> by_cases hl : l' = l <;> by_cases hp : p' = p <;>
      by_cases hd : p' ∈ desired <;> simp_all

/-- The keys under which a mutation inserts route bindings. -/
def bindingKeys (desired routes : List String) : List (String × String × DeliveryClass) :=
  routes.flatMap fun a => desired.flatMap fun p => DeliveryClass.all.map fun c => (a, p, c)

lemma mem_bindingKeys {a p : String} {c : DeliveryClass} :
    (a, p, c) ∈ bindingKeys desired routes ↔ a ∈ routes ∧ p ∈ desired := by
  unfold bindingKeys
  simp only [mem_flatMap, mem_map, Prod.mk.injEq]
  constructor
  · rintro ⟨_, ha, _, hp, _, -, rfl, rfl, rfl⟩
    exact ⟨ha, hp⟩
  · rintro ⟨ha, hp⟩
    exact ⟨a, ha, p, hp, c, DeliveryClass.mem_all c, rfl, rfl, rfl⟩

lemma get?_insertBindings (keys : List (String × String × DeliveryClass)) (t : BindingTable)
    (k : String × String × String × String × DeliveryClass) :
    ((keys.map fun x => insertBinding n l x.1 x.2.1 x.2.2 v).foldl onBindings t).get? k =
      (t.get? k).or (if k.1 = n ∧ k.2.1 = l ∧ k.2.2 ∈ keys then some ⟨v, .active⟩ else none) := by
  induction keys generalizing t with
  | nil => simp
  | cons x _ ih =>
    rw [map_cons, foldl_cons, ih]
    obtain ⟨n', l', x'⟩ := k
    simp only [onBindings, get?_insertNew, Option.or_assoc, Prod.mk.injEq, mem_cons]
    by_cases hn : n' = n <;> by_cases hl : l' = l <;> by_cases hx : x' = x <;> simp [hn, hl, hx]

variable (m : MembershipMutation) (desired routes : List String)

lemma mutationStmts_eq : mutationStmts n l m desired routes = revokeScope n l m.version ::
      (desired.map (fun p => upsertMember n l p m.version (m.roles p)) ++ deleteScopeBindings n l ::
      ((bindingKeys desired routes).map (fun x => insertBinding n l x.1 x.2.1 x.2.2 m.version) ++
      [upsertScopeVersion n l m.version])) := by
  unfold mutationStmts bindingKeys
  simp [map_flatMap, Function.comp_def]

lemma mutation_memberships (t : MembershipTable) (k : String × String × String) :
    ((mutationStmts n l m desired routes).foldl onMemberships t).get? k =
      if k.1 = n ∧ k.2.1 = l then
        if k.2.2 ∈ desired then some ⟨m.version, .active, .active, .active, m.roles k.2.2⟩
        else (t.get? k).map (revokedAt m.version)
      else t.get? k := by
  rw [mutationStmts_eq, foldl_cons, foldl_append, foldl_cons, foldl_append]
  -- only the first two groups of statements are about members
  show (((bindingKeys desired routes).map _).foldl onMemberships _).get? k = _
  rw [foldl_map_fixed (fun _ _ => rfl) (bindingKeys desired routes)]
  show ((desired.map _).foldl onMemberships _).get? k = _
  rw [get?_upsertMembers]
  simp only [onMemberships, get?_update]
  by_cases hn : k.1 = n <;> by_cases hl : k.2.1 = l <;> by_cases hp : k.2.2 ∈ desired <;>
    simp [hn, hl, hp]

lemma mutation_bindings (t : BindingTable)
    (k : String × String × String × String × DeliveryClass) :
    ((mutationStmts n l m desired routes).foldl onBindings t).get? k =
      if k.1 = n ∧ k.2.1 = l then
        if k.2.2.1 ∈ routes ∧ k.2.2.2.1 ∈ desired then some ⟨m.version, .active⟩ else none
      else t.get? k := by
  rw [mutationStmts_eq, foldl_cons, foldl_append, foldl_cons, foldl_append]
  rw [foldl_map_fixed (fun _ _ => rfl) desired]
  show (((bindingKeys desired routes).map _).foldl onBindings _).get? k = _
  rw [get?_insertBindings]
  obtain ⟨n', l', a, p, c⟩ := k
  simp only [onBindings, get?_delete, mem_bindingKeys]
  by_cases hn : n' = n <;> by_cases hl : l' = l <;>
    cases t.get? (n', l', a, p, c) <;> simp [hn, hl, Option.filter]

lemma mutation_versions (t : VersionTable) (k : String × String) :
    ((mutationStmts n l m desired routes).foldl onVersions t).get? k =
      if k = (n, l) then some (nextScopeVersion m.version (t.get? (n, l))) else t.get? k := by
  rw [mutationStmts_eq, foldl_cons, foldl_append, foldl_cons, foldl_append]
  rw [foldl_map_fixed (fun _ _ => rfl) (bindingKeys desired routes)]
  show ([upsertScopeVersion n l m.version].foldl onVersions
    ((desired.map _).foldl onVersions t)).get? k = _
  rw [foldl_map_fixed (fun _ _ => rfl) desired]
  exact get?_upsert _ _ _ _

end Mutation

/-! ## The effect of a mutation -/

/-- The scope `(n, l)` was mutated by `m`: its active members are `desired` with the roles of `m`,
every other row of it is revoked, its route bindings are those of `desired` on `routes`, and
nothing else changed in any scope. -/
structure Mutated (n l : String) (m : MembershipMutation) (desired routes : List String)
    (db db' : Db) : Prop where
  member : ∀ p, db'.member n l p =
    if p ∈ desired then some (m.version, .active, m.roles p)
    else (db.member n l p).map fun c => (m.version, .revoked, c.2.2)
  version : ∃ f, db'.scopeVersions.get? (n, l) = some ⟨m.version, f⟩
  bindings : ∀ a p c, db'.routeBindings.get? (n, l, a, p, c) =
    if a ∈ routes ∧ p ∈ desired then some ⟨m.version, .active⟩ else none
  frame : ∀ n' l', (n', l') ≠ (n, l) → Db.SameScope n' l' db db'
  frameBindings : ∀ n' l' x, (n', l') ≠ (n, l) →
    db'.routeBindings.get? (n', l', x) = db.routeBindings.get? (n', l', x)

/-- No scope and no route binding changed. -/
structure Untouched (db db' : Db) : Prop where
  memberships : db'.memberships = db.memberships
  bindings : db'.routeBindings = db.routeBindings
  versions : db'.scopeVersions = db.scopeVersions

namespace Untouched

lemma sameScope (h : Untouched db db') (n l : String) : Db.SameScope n l db db' := by
  refine ⟨fun p => ?_, by rw [h.versions]⟩
  unfold Db.member
  rw [h.memberships]

end Untouched

lemma view_quiet (h : tx.view db = .ok db')
    (hq : ∀ s ∈ tx.writes.map Prod.snd, s.Quiet) : Untouched db db' where
  memberships := by
    rw [tx.view_memberships h]
    exact foldl_fixed (fun s hs t => (hq s hs).memberships t) _
  bindings := by
    rw [tx.view_bindings h]
    exact foldl_fixed (fun s hs t => (hq s hs).bindings t) _
  versions := by
    rw [tx.view_versions h]
    exact foldl_fixed (fun s hs t => (hq s hs).versions t) _

/-- A transaction that runs the statements of a mutation among quiet ones mutates the scope. -/
lemma view_mutation (pre post : List Stmt) (h : tx.view db = .ok db')
    (hw : tx.writes.map Prod.snd = pre ++ (mutationStmts n l m desired routes ++ post))
    (hr : ∀ s ∈ pre, s.Quiet) (ho : ∀ s ∈ post, s.Quiet) : Mutated n l m desired routes db db' := by
  have hm := tx.view_memberships h
  have hb := tx.view_bindings h
  have hv := tx.view_versions h
  rw [hw, foldl_append, foldl_append, foldl_fixed (fun s hs t => (hr s hs).memberships t),
    foldl_fixed (fun s hs t => (ho s hs).memberships t)] at hm
  rw [hw, foldl_append, foldl_append, foldl_fixed (fun s hs t => (hr s hs).bindings t),
    foldl_fixed (fun s hs t => (ho s hs).bindings t)] at hb
  rw [hw, foldl_append, foldl_append, foldl_fixed (fun s hs t => (hr s hs).versions t),
    foldl_fixed (fun s hs t => (ho s hs).versions t)] at hv
  refine ⟨fun p => ?_, ?_, fun a p c => ?_, fun n' l' hne => ⟨fun p => ?_, ?_⟩,
    fun n' l' x hne => ?_⟩
  · unfold Db.member
    rw [hm, mutation_memberships, if_pos ⟨rfl, rfl⟩]
    by_cases hp : p ∈ desired
    · simp [hp, MembershipRow.core]
    · rw [if_neg hp, if_neg hp, Option.map_map, Option.map_map]
      rfl
  · rw [hv, mutation_versions, if_pos rfl]
    cases db.scopeVersions.get? (n, l) with
    | none => exact ⟨1, rfl⟩
    | some r => exact ⟨r.routingFence + 1, rfl⟩
  · rw [hb, mutation_bindings, if_pos ⟨rfl, rfl⟩]
  · unfold Db.member
    rw [hm, mutation_memberships, if_neg]
    rintro ⟨rfl, rfl⟩
    exact hne rfl
  · rw [hv, mutation_versions, if_neg hne]
  · rw [hb, mutation_bindings, if_neg]
    rintro ⟨rfl, rfl⟩
    exact hne rfl

namespace Mutated

lemma active_iff (h : Mutated n l m desired routes db db') (p : String) :
    db'.Active n l p ↔ p ∈ desired := by
  unfold Db.Active
  rw [h.member p]
  by_cases hp : p ∈ desired
  · simp [hp]
  · cases db.member n l p <;> simp [hp]

lemma activeRoles (h : Mutated n l m desired routes db db') (p : String) :
    db'.activeRoles n l p = if p ∈ desired then some (m.roles p) else none := by
  rw [Db.activeRoles_eq, h.member p]
  by_cases hp : p ∈ desired
  · simp [hp, Option.filter]
  · cases db.member n l p <;> simp [hp, Option.filter]

end Mutated

end WattGateway.Message
