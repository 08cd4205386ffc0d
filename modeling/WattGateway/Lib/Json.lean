import Mathlib.Data.List.Basic

/-!
# JSON values

A value tree with the accessors a program uses on it. An object is a list of fields; `get` reads
the first one under a key, `insert` and `orInsert` never add a second one, and `remove` leaves none,
so that each has one lemma that says what `get` returns afterwards.
-/

namespace WattGateway

open List

/-- A number is an integer or the bits of a double. -/
inductive Number where
  | int (n : Int)
  | float (bits : UInt64)
  deriving DecidableEq

inductive Json where
  | null
  | bool (b : Bool)
  | number (n : Number)
  | string (s : String)
  | array (items : List Json)
  | object (fields : List (String × Json))

namespace Json

abbrev Fields := List (String × Json)

namespace Fields

variable (o : Fields) (k : String) (v : Json)

def get : Option Json := (o.find? fun kv => kv.1 = k).map Prod.snd

def containsKey : Bool := (o.get k).isSome

/-- Set the field, in place of the one that is there. -/
def insert : Fields :=
  if o.containsKey k then o.map fun kv => if kv.1 = k then (k, v) else kv else o ++ [(k, v)]

/-- Set the field unless it is there. -/
def orInsert : Fields := if o.containsKey k then o else o ++ [(k, v)]

def remove : Fields := o.filter fun kv => kv.1 ≠ k

variable {o k v} {k' : String}

@[simp] lemma get_nil : get [] k = none := rfl

lemma get_cons (kv : String × Json) :
    get (kv :: o) k = if kv.1 = k then some kv.2 else o.get k := by
  unfold get
  by_cases h : kv.1 = k <;> simp [h]

lemma get_append (o' : Fields) : get (o ++ o') k = (o.get k).or (get o' k) := by
  induction o with
  | nil => simp
  | cons _ _ ih =>
    rw [cons_append, get_cons, get_cons, ih]
    split <;> simp

lemma get_map_set : get (o.map fun kv => if kv.1 = k then (k, v) else kv) k' =
    if k' = k then (o.get k).map fun _ => v else o.get k' := by
  induction o with
  | nil => simp
  | cons kv _ ih =>
    rw [map_cons, get_cons, ih, get_cons, get_cons]
    by_cases h : kv.1 = k
    · by_cases h' : k' = k
      · simp [h, h']
      · have hne : ¬ k = k' := fun he => h' he.symm
        simp [h, h', hne]
    · by_cases h' : k' = k
      · simp [h, h']
      · simp [h, h']

lemma get_append_new (hk : o.get k = none) :
    get (o ++ [(k, v)]) k' = if k' = k then some v else o.get k' := by
  rw [get_append, get_cons, get_nil]
  by_cases h : k' = k
  · simp [h, hk]
  · have hne : ¬ k = k' := fun he => h he.symm
    simp [h, hne]

@[simp] lemma get_insert : (o.insert k v).get k' = if k' = k then some v else o.get k' := by
  unfold insert containsKey
  cases hk : o.get k with
  | none =>
    simp only [Option.isSome_none, Bool.false_eq_true, if_false]
    exact get_append_new hk
  | some =>
    simp only [Option.isSome_some, if_true]
    rw [get_map_set, hk]
    rfl

lemma get_foldl_insert (keys : List String) (f : String → Json) :
    (keys.foldl (fun o k => o.insert k (f k)) o).get k' =
      if k' ∈ keys then some (f k') else o.get k' := by
  induction keys generalizing o with
  | nil => simp
  | cons k keys ih =>
    rw [foldl_cons, ih, get_insert]
    by_cases h : k' ∈ keys
    · simp [h]
    · by_cases hk : k' = k <;> simp [h, hk]

lemma insert_ne_nil : o.insert k v ≠ [] := by
  intro h
  have hg : (o.insert k v).get k = some v := by simp
  rw [h] at hg
  cases hg

@[simp] lemma get_orInsert :
    (o.orInsert k v).get k' = if k' = k then some ((o.get k).getD v) else o.get k' := by
  unfold orInsert containsKey
  cases hk : o.get k with
  | none =>
    simp only [Option.isSome_none, Bool.false_eq_true, if_false]
    exact get_append_new hk
  | some =>
    by_cases h : k' = k <;> simp [h, hk]

@[simp] lemma get_remove : (o.remove k).get k' = if k' = k then none else o.get k' := by
  unfold remove
  induction o with
  | nil => simp
  | cons kv _ ih =>
    rw [filter_cons]
    by_cases hk : kv.1 = k
    · rw [if_neg (by simp [hk]), ih, get_cons]
      by_cases h : k' = k
      · simp [h]
      · have hne : ¬ kv.1 = k' := fun he => h (he.symm.trans hk)
        simp [h, hne]
    · rw [if_pos (by simp [hk]), get_cons, ih, get_cons]
      by_cases h : k' = k
      · have hne : ¬ kv.1 = k' := fun he => hk (he.trans h)
        simp [h, hk]
      · simp [h]

lemma insert_insert : (o.insert k v).insert k v = o.insert k v := by
  have he : (o.insert k v).containsKey k = true := by simp [containsKey]
  have hs : ∀ kv ∈ o.insert k v, (if kv.1 = k then (k, v) else kv) = id kv := by
    intro kv hv
    unfold insert at hv
    split at hv
    · obtain ⟨kv', -, rfl⟩ := mem_map.1 hv
      by_cases h : kv'.1 = k <;> simp [h]
    · rename_i hno
      rcases mem_append.1 hv with hm | hm
      · have hf : ∀ x, (k, x) ∉ o := by simpa [containsKey, get] using hno
        exact if_neg fun hk : kv.1 = k => hf kv.2 (hk ▸ hm)
      · rw [mem_singleton.1 hm]
        simp
  rw [insert, if_pos he, map_congr_left hs, map_id]

lemma remove_remove : (o.remove k).remove k = o.remove k := by
  simp [remove]

end Fields

def asObject : Json → Option Fields
  | .object o => some o
  | _ => none

def get (v : Json) (k : String) : Option Json := v.asObject.bind fun o => o.get k

def asStr : Json → Option String
  | .string s => some s
  | _ => none

def ofInt (n : Int) : Json := .number (.int n)

def ofNat (n : Nat) : Json := .number (.int n)

def ofOption : Option String → Json
  | some s => .string s
  | none => .null

def index (v : Json) (k : String) : Json := (v.get k).getD .null

@[simp] lemma get_object (o : Fields) (k : String) : (Json.object o).get k = o.get k := rfl

end Json

end WattGateway
