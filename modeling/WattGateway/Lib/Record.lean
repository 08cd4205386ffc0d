import Mathlib.Algebra.Group.Int.Defs
import Mathlib.Data.List.Flatten
import Mathlib.Data.List.Perm.Basic
import WattGateway.Lib.Jcs

/-!
# Records as JSON objects

A record is read from the fields of an object and written to them, one slot at a time. Reading and
then writing keeps the canonical text of an object exactly if every slot is kept
(`text_write_eq_iff`); what that asks is said for each kind of slot in terms of the object alone.
-/

namespace WattGateway.Jcs

open Json List

variable {F : NumberFormat}

/-! ## Values -/

structure Codec (α : Type) where
  read : Json → Option α
  write : α → Json

namespace Codec

variable {α : Type}

def i64 : Codec Int where
  read
    | .number (.int n) => if -2 ^ 63 ≤ n ∧ n < 2 ^ 63 then some n else none
    | _ => none
  write := Json.ofInt

def string : Codec String where
  read := Json.asStr
  write := .string

def bool : Codec Bool where
  read
    | .bool b => some b
    | _ => none
  write := .bool

def value : Codec Json where
  read := some
  write := id

def list (c : Codec α) : Codec (List α) where
  read
    | .array items => items.mapM c.read
    | _ => none
  write as := .array (as.map c.write)

def option (c : Codec α) : Codec (Option α) where
  read
    | .null => some none
    | v => (c.read v).map some
  write
    | none => .null
    | some a => c.write a

def Exact (c : Codec α) : Prop := ∀ v a, c.read v = some a → c.write a = v

/-- What is read from the value is written with the same text. -/
def Rewrites (F : NumberFormat) (c : Codec α) (v : Json) : Prop :=
  ∀ a, c.read v = some a → text F (c.write a) = text F v

variable {c : Codec α}

lemma Exact.rewrites (h : c.Exact) (F : NumberFormat) (v : Json) :
    c.Rewrites F v := fun a ha => by rw [h v a ha]

lemma exact_i64 : i64.Exact := by
  intro _ _ h
  unfold i64 at h
  dsimp only at h
  split at h
  · split at h
    · cases h
      rfl
    · cases h
  · cases h

lemma exact_string : string.Exact := by
  intro v _ h
  cases v <;> cases h
  rfl

lemma exact_bool : bool.Exact := by
  intro v _ h
  cases v <;> cases h
  rfl

lemma exact_value : value.Exact := by
  rintro _ _ ⟨⟩
  rfl

variable {js : List Json} {as : List α}

lemma mapM_read_cons {j : Json} (h : (j :: js).mapM c.read = some as) :
    ∃ a as', c.read j = some a ∧ js.mapM c.read = some as' ∧ as = a :: as' := by
  rw [mapM_cons] at h
  obtain ⟨a, ha, h⟩ := Option.bind_eq_some_iff.1 h
  obtain ⟨as', hs', h⟩ := Option.bind_eq_some_iff.1 h
  cases h
  exact ⟨a, as', ha, hs', rfl⟩

lemma map_write_text_iff (h : js.mapM c.read = some as) :
    (as.map c.write).map (text F) = js.map (text F) ↔ ∀ j ∈ js, c.Rewrites F j := by
  induction js generalizing as with
  | nil =>
    cases h
    simp
  | cons j _ ih =>
    obtain ⟨a, _, ha, hs', rfl⟩ := mapM_read_cons h
    have hh : text F (c.write a) = text F j ↔ c.Rewrites F j :=
      ⟨fun heq a' ha' => Option.some.inj (ha.symm.trans ha') ▸ heq, fun hr => hr a ha⟩
    rw [map_cons, map_cons, map_cons, List.cons.injEq, ih hs', hh, forall_mem_cons]

lemma rewrites_list_iff (h : c.list.read (.array js) = some as) :
    c.list.Rewrites F (.array js) ↔ ∀ j ∈ js, c.Rewrites F j := by
  rw [← map_write_text_iff (F := F) h, ← text_array_eq_iff]
  exact ⟨fun hr => hr as h, fun heq as' ha' => Option.some.inj (h.symm.trans ha') ▸ heq⟩

lemma exact_list (hc : c.Exact) : c.list.Exact := by
  intro v as h
  cases v with
  | array js =>
    refine congrArg Json.array ?_
    have hr : js.mapM c.read = some as := h
    clear h
    induction js generalizing as with
    | nil =>
      cases hr
      rfl
    | cons j _ ih =>
      obtain ⟨a, as', ha, hs', rfl⟩ := mapM_read_cons hr
      rw [map_cons, hc j a ha, ih as' hs']
  | _ => cases h

lemma read_option_of_ne_null {v : Json} (hv : v ≠ .null) :
    c.option.read v = (c.read v).map some := by
  cases v with
  | null => exact absurd rfl hv
  | _ => rfl

lemma exact_option (hc : c.Exact) : c.option.Exact := by
  intro v _ h
  by_cases hv : v = .null
  · subst hv
    cases h
    rfl
  · rw [read_option_of_ne_null hv] at h
    obtain ⟨b, hb, rfl⟩ := Option.map_eq_some_iff.1 h
    exact hc v b hb

end Codec

/-! ## Slots -/

structure Slot (α : Type) where
  name : String
  aliases : List String
  codec : Codec α
  /-- What a missing field stands for; none if it must be there. -/
  missing : Option α
  /-- The values that are not written. -/
  skip : α → Bool

namespace Slot

variable {α : Type}

section

variable (s : Slot α)

def names : List String := s.name :: s.aliases

/-- The fields of an object that are read for the slot. -/
def sent (o : Fields) : Fields := o.filter fun f => f.1 ∈ s.names

/-- A slot is read from one field at most. -/
def read (o : Fields) : Option α :=
  match s.sent o with
  | [] => s.missing
  | [f] => s.codec.read f.2
  | _ => none

def write (a : α) : Fields := if s.skip a then [] else [(s.name, s.codec.write a)]

end

/-- The field is there under its name and its value is written with the same text; or it is not
there, and what stands for it is not written. -/
def Kept (F : NumberFormat) (s : Slot α) (o : Fields) : Prop :=
  match o.get s.name with
  | some v => ∀ a, s.codec.read v = some a → s.skip a = false ∧ text F (s.codec.write a) = text F v
  | none => s.sent o = [] ∧ ∀ a, s.missing = some a → s.skip a = true

variable {s : Slot α} {o : Fields} {a : α}

lemma get_sent (s : Slot α) (o : Fields) : Fields.get (s.sent o) s.name = o.get s.name := by
  unfold Fields.get sent
  rw [find?_filter]
  congr 2
  funext f
  by_cases hf : f.1 = s.name <;> simp [hf, names]

lemma read_cases (h : s.read o = some a) : (s.sent o = [] ∧ s.missing = some a) ∨
      ∃ k v, s.sent o = [(k, v)] ∧ k ∈ s.names ∧ s.codec.read v = some a := by
  unfold read at h
  split at h
  · rename_i hs
    exact .inl ⟨hs, h⟩
  · rename_i f hs
    have hm : f ∈ s.sent o := by rw [hs]; exact mem_singleton_self f
    exact .inr ⟨f.1, f.2, hs, of_decide_eq_true (mem_filter.1 hm).2, h⟩
  · cases h

lemma read_of_get (h : s.read o = some a) {v : Json} (hg : o.get s.name = some v) :
    s.codec.read v = some a := by
  rw [← get_sent] at hg
  rcases read_cases h with ⟨hs, -⟩ | ⟨_, _, hs, -, hr⟩
  · rw [hs, Fields.get_nil] at hg
    cases hg
  · rw [hs, Fields.get_cons, Fields.get_nil] at hg
    split at hg
    · cases hg
      exact hr
    · cases hg

lemma kept_iff (h : s.read o = some a) :
    ((s.write a).map (fieldText F)).Perm ((s.sent o).map (fieldText F)) ↔ s.Kept F o := by
  unfold Kept write
  rcases read_cases h with ⟨hs, hm⟩ | ⟨k, v, hs, _, hr⟩
  · have hg : o.get s.name = none := by rw [← get_sent, hs, Fields.get_nil]
    rw [hg, hs]
    cases hsk : s.skip a <;> simp [hm, hsk]
  · have hg : o.get s.name = if k = s.name then some v else none := by
      rw [← get_sent, hs, Fields.get_cons, Fields.get_nil]
    rw [hg, hs]
    by_cases hk : k = s.name
    · cases hsk : s.skip a <;> simp [hk, hr, hsk]
    · have hne : ¬ s.name = k := fun he => hk he.symm
      cases hsk : s.skip a <;> simp [hk, hne]

lemma keys_write (s : Slot α) (a : α) : ∀ k ∈ (s.write a).map Prod.fst, k = s.name := by
  unfold write
  split <;> simp

lemma sent_eq_nil_of_get (ha : s.aliases = []) (h : o.get s.name = none) : s.sent o = [] := by
  refine filter_eq_nil_iff.2 fun f hf hk => ?_
  have hn : f.1 = s.name := by simpa [names, ha] using hk
  have hno : ∀ f' ∈ o, ¬ f'.1 = s.name := by
    simpa [Fields.get, find?_eq_none] using h
  exact hno f hf hn

/-! ### Kinds of slots -/

variable {c : Codec α}

section

variable (name : String)

/-- A slot that must be there. -/
def plain (c : Codec α) : Slot α := ⟨name, [], c, none, fun _ => false⟩

/-- One that may be missing and is always written. -/
def withDefault (c : Codec α) (default : α) : Slot α :=
  ⟨name, [], c, some default, fun _ => false⟩

/-- An optional value that is written also where there is none. -/
def optional (aliases : List String) (c : Codec α) : Slot (Option α) :=
  ⟨name, aliases, c.option, some none, fun _ => false⟩

/-- An optional value that is written where there is one. -/
def skipNone (c : Codec α) : Slot (Option α) :=
  ⟨name, [], c.option, some none, Option.isNone⟩

/-- A list that is written unless it is empty. -/
def skipEmpty (c : Codec α) : Slot (List α) :=
  ⟨name, [], c.list, some [], List.isEmpty⟩

end

lemma kept_of_written (hs : ∀ a, s.skip a = false) (hc : s.codec.Exact)
    (h : s.read o = some a) : s.Kept F o ↔ o.get s.name ≠ none := by
  unfold Kept
  cases hg : o.get s.name with
  | some v =>
    simp only [hs, true_and, ne_eq, reduceCtorEq, not_false_eq_true, iff_true]
    exact hc.rewrites F v
  | none =>
    simp only [ne_eq, not_true_eq_false, iff_false, not_and]
    intro he hm
    rcases read_cases h with ⟨-, hr⟩ | ⟨_, _, ho, -, -⟩
    · have hco := hm a hr
      rw [hs] at hco
      cases hco
    · rw [he] at ho
      cases ho

variable {name : String}

lemma kept_plain (hc : c.Exact) (h : (plain name c).read o = some a) :
    (plain name c).Kept F o := by
  refine (kept_of_written (fun _ => rfl) hc h).2 fun hg => ?_
  have hs := sent_eq_nil_of_get (s := plain name c) rfl hg
  unfold read at h
  rw [hs] at h
  cases h

lemma kept_withDefault {default : α} (hc : c.Exact)
    (h : (withDefault name c default).read o = some a) :
    (withDefault name c default).Kept F o ↔ o.get name ≠ none :=
  kept_of_written (fun _ => rfl) hc h

lemma kept_optional {aliases : List String} {x : Option α} (hc : c.Exact)
    (h : (optional name aliases c).read o = some x) :
    (optional name aliases c).Kept F o ↔ o.get name ≠ none :=
  kept_of_written (fun _ => rfl) (Codec.exact_option hc) h

/-- An optional value is kept unless null was sent for none, if its text is. -/
lemma kept_skipNone :
    (skipNone name c).Kept F o ↔ ∀ v, o.get name = some v → v ≠ .null ∧ c.Rewrites F v := by
  unfold Kept
  change (match o.get name with | some v => _ | none => _) ↔ _
  cases hg : o.get name with
  | none =>
    have hs := sent_eq_nil_of_get (s := skipNone name c) rfl hg
    simp only [reduceCtorEq, false_implies, implies_true, iff_true]
    exact ⟨hs, fun a ha => by cases ha; rfl⟩
  | some v =>
    simp only [Option.some.injEq, forall_eq']
    by_cases hv : v = .null
    · subst hv
      simp [skipNone, Codec.option]
    · simp only [skipNone, Codec.read_option_of_ne_null hv, ne_eq, hv, not_false_eq_true, true_and,
        Option.map_eq_some_iff, forall_exists_index, and_imp]
      exact ⟨fun h a ha => (h (some a) a ha rfl).2, fun h x a ha hx => hx ▸ ⟨rfl, h a ha⟩⟩

lemma kept_skipNone_exact (hc : c.Exact) :
    (skipNone name c).Kept F o ↔ o.get name ≠ some .null := by
  rw [kept_skipNone]
  exact ⟨fun h hn => (h .null hn).1 rfl, fun h v hv => ⟨fun hn => h (hn ▸ hv), hc.rewrites F v⟩⟩

lemma kept_skipEmpty {as : List α} (h : (skipEmpty name c).read o = some as) :
    (skipEmpty name c).Kept F o ↔
      ∀ js, o.get name = some (.array js) → js ≠ [] ∧ ∀ j ∈ js, c.Rewrites F j := by
  unfold Kept
  change (match o.get name with | some v => _ | none => _) ↔ _
  cases hg : o.get name with
  | none =>
    have hs := sent_eq_nil_of_get (s := skipEmpty name c) rfl hg
    simp only [reduceCtorEq, false_implies, implies_true, iff_true]
    exact ⟨hs, fun a ha => by cases ha; rfl⟩
  | some v =>
    have hr : c.list.read v = some as := read_of_get h hg
    cases v with
    | array js =>
      have he : as = [] ↔ js = [] := by
        cases js with
        | nil =>
          cases hr
          simp
        | cons =>
          obtain ⟨_, _, -, -, rfl⟩ := Codec.mapM_read_cons hr
          simp
      simp only [skipEmpty, hr, Option.some.injEq, forall_eq', Json.array.injEq]
      rw [← Codec.rewrites_list_iff hr, Codec.Rewrites, hr]
      simp [isEmpty_eq_false_iff, he]
    | _ => cases hr

lemma kept_skipEmpty_exact {as : List α} (hc : c.Exact)
    (h : (skipEmpty name c).read o = some as) :
    (skipEmpty name c).Kept F o ↔ o.get name ≠ some (.array []) := by
  rw [kept_skipEmpty h]
  exact ⟨fun hk he => (hk [] he).1 rfl,
    fun hne js hj => ⟨fun hn => hne (hn ▸ hj), fun j _ => hc.rewrites F j⟩⟩

end Slot

/-! ## Records -/

/-- A slot of the record `σ`. -/
structure Column (σ : Type) where
  type : Type
  slot : Slot type
  get : σ → type

section

variable {σ : Type} (columns : List (Column σ))

def names : List String := columns.flatMap fun col => col.slot.names

def write (record : σ) : Fields := columns.flatMap fun col => col.slot.write (col.get record)

def Reads (o : Fields) (record : σ) : Prop :=
  ∀ col ∈ columns, col.slot.read o = some (col.get record)

variable {columns}

lemma perm_flatMap_filter {β γ : Type*} {P : γ → β → Bool} {classes : List γ} {l : List β}
    (hd : classes.Pairwise fun c c' => ∀ b, P c b = true → P c' b = false)
    (hco : ∀ b ∈ l, ∃ c ∈ classes, P c b = true) :
    l.Perm (classes.flatMap fun c => l.filter (P c)) := by
  induction classes generalizing l with
  | nil =>
    cases l with
    | nil => exact .nil
    | cons b =>
      obtain ⟨c, hc, -⟩ := hco b mem_cons_self
      cases hc
  | cons c classes ih =>
    obtain ⟨hc, hr⟩ := pairwise_cons.1 hd
    have ho := @ih (l.filter fun b => !P c b) hr fun b hb => by
      obtain ⟨hb, hn⟩ := mem_filter.1 hb
      obtain ⟨c', hc', hP⟩ := hco b hb
      rcases mem_cons.1 hc' with rfl | hc'
      · simp [hP] at hn
      · exact ⟨c', hc', hP⟩
    have hs : (classes.flatMap fun c' => (l.filter fun b => !P c b).filter (P c')) =
        classes.flatMap fun c' => l.filter (P c') := by
      refine flatMap_congr fun c' hc' => ?_
      rw [filter_filter]
      refine filter_congr fun b _ => ?_
      cases hP : P c b with
      | true => simp [hc c' hc' b hP]
      | false => simp
    rw [flatMap_cons, ← hs]
    exact (filter_append_perm (P c) l).symm.trans (ho.append_left _)

section

variable (hn : (names columns).Nodup)
include hn

lemma keys_write_nodup (record : σ) : ((write columns record).map Prod.fst).Nodup := by
  refine List.Nodup.sublist ?_ hn
  unfold write names
  rw [map_flatMap]
  refine List.Sublist.flatMap_right columns fun col _ => ?_
  unfold Slot.write Slot.names
  split <;> simp

lemma names_disjoint : columns.Pairwise fun col col' =>
      ∀ f : String × Json, decide (f.1 ∈ col.slot.names) = true →
        decide (f.1 ∈ col'.slot.names) = false := by
  refine (nodup_flatMap.1 hn).2.imp fun {col col'} hd f hf => ?_
  exact decide_eq_false fun hf' => hd (of_decide_eq_true hf) hf'

lemma sent_write (record : σ) {col : Column σ} (hc : col ∈ columns) :
    col.slot.sent (write columns record) = col.slot.write (col.get record) := by
  have ht : ∀ l : List (Column σ), (∀ col' ∈ l, col'.slot.name ∉ col.slot.names) →
      col.slot.sent (write l record) = [] := by
    intro l hl
    refine filter_eq_nil_iff.2 fun f hf hk => ?_
    obtain ⟨col', hc', hf'⟩ := mem_flatMap.1 hf
    have hna := col'.slot.keys_write _ f.1 (mem_map_of_mem hf')
    exact hl col' hc' (hna ▸ of_decide_eq_true hk)
  have ho : col.slot.sent (col.slot.write (col.get record)) = col.slot.write (col.get record) := by
    refine filter_eq_self.2 fun f hf => decide_eq_true ?_
    rw [col.slot.keys_write _ f.1 (mem_map_of_mem hf)]
    exact mem_cons_self
  obtain ⟨l, l', rfl⟩ := append_of_mem hc
  have hd := pairwise_append.1 (nodup_flatMap.1 hn).2
  have hb := ht l fun col' hc' hna => hd.2.2 col' hc' col mem_cons_self mem_cons_self hna
  have ha := ht l' fun col' hc' hna => (pairwise_cons.1 hd.2.1).1 col' hc' hna mem_cons_self
  unfold Slot.sent at hb ha ho ⊢
  unfold write at hb ha ⊢
  rw [flatMap_append, flatMap_cons, filter_append, filter_append, hb,
    ha, ho, nil_append, append_nil]

/-- What is written of the record has the text of the object it was read from, exactly if every
column is kept. -/
lemma text_write_eq_iff {o : Fields} {record : σ}
    (hkn : ∀ f ∈ o, f.1 ∈ names columns)
    (hr : Reads columns o record) : text F (.object (write columns record)) = text F (.object o) ↔
      ∀ col ∈ columns, col.slot.Kept F o := by
  have hp : o.Perm (columns.flatMap fun col => col.slot.sent o) :=
    perm_flatMap_filter (names_disjoint hn) fun f hf => by
      obtain ⟨col, hc, hk⟩ := mem_flatMap.1 (hkn f hf)
      exact ⟨col, hc, decide_eq_true hk⟩
  rw [text_object_eq_iff F (keys_write_nodup hn record)]
  have hs : ∀ (col : Column σ) (o : Fields), (o.map (fieldText F)).filter
      (fun m => m.1 ∈ col.slot.names) = (col.slot.sent o).map (fieldText F) := by
    intro col _
    simp only [filter_map, Function.comp_def, fieldText_fst, Slot.sent]
  constructor
  · intro h col hc
    rw [← Slot.kept_iff (hr col hc), ← sent_write hn record hc, ← hs, ← hs]
    exact h.filter _
  · intro h
    refine List.Perm.trans ?_ (hp.map (fieldText F)).symm
    unfold write
    rw [map_flatMap, map_flatMap]
    exact List.Perm.flatMap_left columns fun col hc => (Slot.kept_iff (hr col hc)).2 (h col hc)

end

end

end WattGateway.Jcs
