import Mathlib.Data.List.Sort
import Mathlib.Data.List.Pairwise
import Mathlib.Data.List.Perm.Subperm

/-!
# The newest rows of distinct identities

A page is the rows of a feed sorted newest first, without older rows of an identity that is already
on the page, cut to a length `k`: the rows that are not `Overtaken`. `mem_topBy_of_subperm` and
`topBy_eq_iff` compare the page of a part of the feed with that of the whole.
-/

namespace WattGateway.TopK

open List Option

variable {α κ τ : Type}

section Page

variable [DecidableEq κ] [LinearOrder τ]

/-- The first row of each identity that is not yet seen, and every row without one. -/
def dedupeBy (key : α → Option κ) : List α → List κ → List α
  | [], _ => []
  | row :: rows, seen =>
    match key row with
    | none => row :: dedupeBy key rows seen
    | some identity =>
      if identity ∈ seen then dedupeBy key rows seen
      else row :: dedupeBy key rows (identity :: seen)

def newestFirst (time : α → τ) (rows : List α) : List α :=
  rows.insertionSort fun a b => time b ≤ time a

def topBy (key : α → Option κ) (time : α → τ) (k : Nat) (rows : List α) : List α :=
  (dedupeBy key (newestFirst time rows) []).take k

end Page

def Timed (time : α → τ) (rows : List α) : Prop := (rows.map time).Nodup

/-- Rows that do not stand for the same thing. -/
def Separate (key : α → Option κ) (a b : α) : Prop := ∀ identity ∈ key a, key b ≠ some identity

/-- Among the rows is a newer one of the identity of this one, or `k` newer ones that are separate
from each other. -/
def Overtaken [LinearOrder τ] (key : α → Option κ) (time : α → τ) (k : Nat) (rows : List α)
    (row : α) : Prop :=
  (∃ newer ∈ rows, time row < time newer ∧ ¬ Separate key newer row) ∨
    ∃ newer : List α, newer.length = k ∧ Timed time newer ∧ newer.Pairwise (Separate key) ∧
      ∀ other ∈ newer, other ∈ rows ∧ time row < time other

variable {key : α → Option κ} {time : α → τ}

lemma Separate.symm {a b : α} (h : Separate key a b) : Separate key b a :=
  fun identity hb ha => h identity ha hb

instance : Std.Symm (Separate key) := ⟨fun _ _ => Separate.symm⟩

lemma not_separate_trans {a b c : α} (hab : ¬ Separate key a b) (hac : ¬ Separate key a c) :
    ¬ Separate key b c := by
  simp only [Separate, mem_def, not_forall, ne_eq, not_not] at hab hac ⊢
  obtain ⟨identity, ha, hb⟩ := hab
  obtain ⟨_, ha', hc⟩ := hac
  rw [ha] at ha'
  cases ha'
  exact ⟨identity, hb, hc⟩

variable {rows part : List α}

lemma Overtaken.mono [LinearOrder τ] {k : Nat} {row : α}
    (h : Overtaken key time k part row) (hs : part ⊆ rows) : Overtaken key time k rows row := by
  rcases h with ⟨newer, hn, h⟩ | ⟨newer, hl, ht, he, hn⟩
  · exact .inl ⟨newer, hs hn, h⟩
  · exact .inr ⟨newer, hl, ht, he, fun other ho => ⟨hs (hn other ho).1, (hn other ho).2⟩⟩

/-! ## Sorted rows -/

lemma Timed.of_subperm (hrows : Timed time rows) (ha : part <+~ rows) : Timed time part := by
  obtain ⟨_, hp, hs⟩ := ha
  exact (hp.map time).nodup_iff.1 (hrows.sublist (hs.map time))

lemma Timed.nodup (hrows : Timed time rows) : rows.Nodup := hrows.of_map

section Sorted

variable [LinearOrder τ]

def Newer (time : α → τ) (a b : α) : Prop := time b < time a

instance : Std.Irrefl (Newer time) := ⟨fun _ h => lt_irrefl _ h⟩

instance : Std.Antisymm (Newer time) := ⟨fun _ _ h h' => (lt_asymm h h').elim⟩

variable (time) in
lemma newestFirst_perm (rows : List α) : newestFirst time rows ~ rows :=
  perm_insertionSort _ rows

lemma sorted_newestFirst (rows : List α) :
    (newestFirst time rows).Pairwise fun a b => time b ≤ time a := by
  let le : α → α → Prop := fun a b => time b ≤ time a
  have : Std.Total le := ⟨fun a b => le_total (time b) (time a)⟩
  have : IsTrans α le := ⟨fun _ _ _ h h' => le_trans h' h⟩
  exact pairwise_insertionSort le rows

lemma Timed.newestFirst (hrows : Timed time rows) :
    (newestFirst time rows).Pairwise (Newer time) := by
  have ht : Timed time (TopK.newestFirst time rows) :=
    hrows.of_subperm (newestFirst_perm time rows).subperm
  have hd := pairwise_map.1 ht
  exact ((sorted_newestFirst rows).and hd).imp fun h => lt_of_le_of_ne h.1 h.2.symm

end Sorted

/-! ## One pass over the rows -/

section Pass

variable [DecidableEq κ]
variable (key) in
lemma dedupeBy_sublist (rows : List α) (seen : List κ) : dedupeBy key rows seen <+ rows := by
  induction rows generalizing seen with
  | nil => exact Sublist.refl _
  | cons row _ ih =>
    unfold dedupeBy
    split
    · exact (ih seen).cons_cons row
    · split
      · exact (ih seen).cons row
      · exact (ih _).cons_cons row

variable (key) in
lemma dedupeBy_cons (row : α) (rows : List α) (seen : List κ) :
    (∃ identity ∈ seen, key row = some identity) ∧
        dedupeBy key (row :: rows) seen = dedupeBy key rows seen ∨
      (∀ identity ∈ key row, identity ∉ seen) ∧ dedupeBy key (row :: rows) seen =
          row :: dedupeBy key rows ((key row).toList ++ seen) := by
  rw [dedupeBy]
  cases hk : key row with
  | none => exact .inr ⟨by simp, rfl⟩
  | some identity =>
    by_cases hs : identity ∈ seen
    · exact .inl ⟨⟨identity, hs, rfl⟩, by simp [hs]⟩
    · exact .inr ⟨by simpa using hs, by simp [hs]⟩

variable {seen : List κ}

lemma separate_dedupeBy (rows : List α) (seen : List κ) :
    (dedupeBy key rows seen).Pairwise (Separate key) ∧
      ∀ row ∈ dedupeBy key rows seen, ∀ identity ∈ key row, identity ∉ seen := by
  induction rows generalizing seen with
  | nil => exact ⟨Pairwise.nil, by simp [dedupeBy]⟩
  | cons row rows ih =>
    rcases dedupeBy_cons key row rows seen with ⟨-, hd⟩ | ⟨hn, he⟩
    · rw [hd]
      exact ih seen
    · rw [he]
      obtain ⟨hp, hs⟩ := ih ((key row).toList ++ seen)
      refine ⟨pairwise_cons.2 ⟨fun other ho identity hr hk => ?_, hp⟩, ?_⟩
      · exact hs other ho identity hk (mem_append_left _ (mem_toList.2 hr))
      · intro other ho identity hk hm
        rcases mem_cons.1 ho with rfl | ho
        · exact hn identity hk hm
        · exact hs other ho identity hk (mem_append_right _ hm)

/-- A row is dropped for an identity that was seen, or for a row of its identity before it. -/
lemma exists_of_not_mem_dedupeBy {r : α → α → Prop} (hso : rows.Pairwise r) {row : α}
    (hr : row ∈ rows) (hd : row ∉ dedupeBy key rows seen) :
    (∃ identity ∈ seen, key row = some identity) ∨
      ∃ first ∈ dedupeBy key rows seen, r first row ∧ ¬ Separate key first row := by
  induction rows generalizing seen with
  | nil => exact absurd hr not_mem_nil
  | cons first rows ih =>
    obtain ⟨hf, he⟩ := pairwise_cons.1 hso
    rcases dedupeBy_cons key first rows seen with ⟨hse, heq⟩ | ⟨-, heq⟩
    · rcases mem_cons.1 hr with rfl | hr
      · exact .inl hse
      · rw [heq] at hd ⊢
        exact ih he hr hd
    · rw [heq, mem_cons, not_or] at hd
      rw [heq]
      have hr : row ∈ rows := (mem_cons.1 hr).resolve_left hd.1
      rcases ih he hr hd.2 with ⟨identity, hm, hk⟩ | ⟨other, ho, h⟩
      · rcases mem_append.1 hm with hm | hm
        · refine .inr ⟨first, mem_cons_self, hf row hr, fun hs => ?_⟩
          exact hs identity (mem_toList.1 hm) hk
        · exact .inl ⟨identity, hm, hk⟩
      · exact .inr ⟨other, mem_cons_of_mem _ ho, h⟩

end Pass

/-! ## Pages of parts and of the whole -/

section Pages

variable [DecidableEq κ] [LinearOrder τ] {part rows : List α} {k : Nat}

lemma topBy_subperm (rows : List α) : topBy key time k rows <+~ rows :=
  ((take_sublist k _).trans (dedupeBy_sublist key _ [])).subperm.trans (newestFirst_perm time rows).subperm

section

variable (hrows : Timed time rows)
include hrows

lemma sorted_topBy : (topBy key time k rows).Pairwise (Newer time) :=
  hrows.newestFirst.sublist ((take_sublist k _).trans (dedupeBy_sublist key _ []))

variable {row : α}

variable (key) in
/-- The pass keeps each row, or a newer one of its identity. -/
lemma exists_kept (hr : row ∈ rows) : ∃ kept ∈ dedupeBy key (newestFirst time rows) [],
      kept = row ∨ time row < time kept ∧ ¬ Separate key kept row := by
  by_cases hin : row ∈ dedupeBy key (newestFirst time rows) []
  · exact ⟨row, hin, .inl rfl⟩
  · rcases exists_of_not_mem_dedupeBy hrows.newestFirst
      ((newestFirst_perm time rows).mem_iff.2 hr) hin with ⟨_, h, _⟩ | ⟨kept, hk, h⟩
    · exact absurd h not_mem_nil
    · exact ⟨kept, hk, .inr h⟩

/-- Fewer than `k` rows are kept before a row of the page, and each one is separate from it. -/
lemma before_of_mem_topBy (hp : row ∈ topBy key time k rows) :
    ∃ before : List α, before.length < k ∧
      ∀ kept ∈ dedupeBy key (newestFirst time rows) [], time row < time kept →
        kept ∈ before ∧ Separate key kept row := by
  obtain ⟨before, after, hsp⟩ := append_of_mem hp
  have hk : dedupeBy key (newestFirst time rows) [] =
      before ++ row :: (after ++ (dedupeBy key (newestFirst time rows) []).drop k) := by
    nth_rewrite 1 [← take_append_drop k (dedupeBy key (newestFirst time rows) [])]
    rw [show (dedupeBy key (newestFirst time rows) []).take k = before ++ row :: after from hsp]
    simp
  refine ⟨before, ?_, fun kept hin hlt => ?_⟩
  · have hl : (topBy key time k rows).length ≤ k := length_take_le _ _
    rw [hsp, length_append, length_cons] at hl
    omega
  · have ho := hrows.newestFirst.sublist (dedupeBy_sublist key _ [])
    have hs : (dedupeBy key (newestFirst time rows) []).Pairwise (Separate key) :=
      (separate_dedupeBy _ []).1
    rw [hk] at hin ho hs
    rcases mem_append.1 hin with hb | ha
    · exact ⟨hb, (pairwise_append.1 hs).2.2 kept hb row mem_cons_self⟩
    · rcases mem_cons.1 ha with rfl | ha
      · exact absurd hlt (lt_irrefl _)
      · have hold := (pairwise_cons.1 (pairwise_append.1 ho).2.1).1 kept ha
        exact absurd hlt (lt_asymm hold)

lemma not_overtaken_of_mem_topBy (hp : row ∈ topBy key time k rows) :
    ¬ Overtaken key time k rows row := by
  obtain ⟨before, _, he⟩ := before_of_mem_topBy hrows hp
  rintro (⟨other, ho, hlt, hsa⟩ | ⟨newer, _, ht, hs, hn⟩)
  · obtain ⟨kept, hin, rfl | ⟨hl, hsa'⟩⟩ := exists_kept key hrows ho
    · exact hsa (he kept hin hlt).2
    · have hs := (he kept hin (hlt.trans hl)).2
      exact not_separate_trans (mt Separate.symm hsa') hsa hs
  · -- the rows kept for the newer ones are as many, and all come before the row
    have hk : ∀ other ∈ newer, ∃ kept ∈ before, kept = other ∨ ¬ Separate key kept other := by
      intro other ho
      obtain ⟨hin, hlt⟩ := hn other ho
      obtain ⟨kept, hk, rfl | ⟨hl, hsa⟩⟩ := exists_kept key hrows hin
      · exact ⟨kept, (he kept hk hlt).1, .inl rfl⟩
      · exact ⟨kept, (he kept hk (hlt.trans hl)).1, .inr hsa⟩
    choose! kept hm hk using hk
    have hi : ∀ a ∈ newer, ∀ b ∈ newer, kept a = kept b → a = b := by
      intro a ha b hb heq
      by_contra hne
      refine absurd (hs.forall ha hb hne) ?_
      rcases hk a ha with h | h <;> rcases hk b hb with h' | h'
      · exact absurd (h.symm.trans (heq.trans h')) hne
      · rwa [← heq, h] at h'
      · rw [heq, h'] at h
        exact mt Separate.symm h
      · exact not_separate_trans (heq ▸ h) h'
    have hu : newer.map kept <+~ before :=
      subperm_of_subset (ht.nodup.map_on hi) (forall_mem_map.2 hm)
    have := hu.length_le
    rw [length_map] at this
    omega

/-- What is not on the page is overtaken by rows that are. -/
lemma overtaken_of_not_mem_topBy (hr : row ∈ rows) (ha : row ∉ topBy key time k rows) :
    Overtaken key time k (topBy key time k rows) row := by
  obtain ⟨kept, hk, hf⟩ := exists_kept key hrows hr
  by_cases hin : kept ∈ topBy key time k rows
  · rcases hf with rfl | ⟨hlt, hs⟩
    · exact absurd hin ha
    · exact .inl ⟨kept, hin, hlt, hs⟩
  · -- the page is full, and what is on it comes before the kept row
    have hp := hrows.newestFirst.sublist (dedupeBy_sublist key _ [])
    rw [← take_append_drop k (dedupeBy key (newestFirst time rows) [])] at hk hp
    have hd := (mem_append.1 hk).resolve_left hin
    refine .inr ⟨topBy key time k rows, length_take_of_le ?_, hrows.of_subperm (topBy_subperm rows),
      (separate_dedupeBy _ []).1.sublist (take_sublist _ _), fun other ho => ⟨ho, ?_⟩⟩
    · refine Nat.le_of_not_lt fun hlt => ?_
      rw [drop_of_length_le hlt.le] at hd
      exact absurd hd not_mem_nil
    · have hlt : time kept < time other := (pairwise_append.1 hp).2.2 other ho kept hd
      rcases hf with rfl | ⟨hl, -⟩
      · exact hlt
      · exact hl.trans hlt

lemma mem_topBy_iff (hr : row ∈ rows) :
    row ∈ topBy key time k rows ↔ ¬ Overtaken key time k rows row := by
  refine ⟨not_overtaken_of_mem_topBy hrows, not_imp_comm.1 fun hp => ?_⟩
  exact (overtaken_of_not_mem_topBy hrows hr hp).mono (topBy_subperm rows).subset

lemma mem_topBy_of_subperm (ha : part <+~ rows) (hp : row ∈ topBy key time k rows)
    (hr : row ∈ part) : row ∈ topBy key time k part :=
  (mem_topBy_iff (hrows.of_subperm ha) hr).2 fun h =>
    not_overtaken_of_mem_topBy hrows hp (h.mono ha.subset)

/-- The page of a part is that of the whole just if nothing on the latter is missing. -/
lemma topBy_eq_iff (ha : part <+~ rows) :
    topBy key time k part = topBy key time k rows ↔ ∀ row ∈ topBy key time k rows, row ∈ part := by
  constructor
  · intro heq row hr
    exact (topBy_subperm part).subset (heq ▸ hr)
  · intro hp
    have ht := hrows.of_subperm ha
    have hs : (topBy key time k part).Pairwise (Newer time) := sorted_topBy ht
    have hs' : (topBy key time k rows).Pairwise (Newer time) := sorted_topBy hrows
    refine ((perm_ext_iff_of_nodup hs.nodup hs'.nodup).2 fun row => ?_).eq_of_pairwise'
      hs hs'
    refine ⟨fun hin => ?_, fun hin => mem_topBy_of_subperm hrows ha hin (hp row hin)⟩
    by_contra ho
    have hr := ha.subset ((topBy_subperm part).subset hin)
    exact not_overtaken_of_mem_topBy ht hin
      ((overtaken_of_not_mem_topBy hrows hr ho).mono hp)

end

end Pages

/-! ## Merging -/

section Merging

variable [DecidableEq κ] [LinearOrder τ] {own : List α} {parts : List (List α)} {k : Nat}

lemma flatten_map_subperm {f : List α → List α} (hf : ∀ part, f part <+~ part)
    (parts : List (List α)) : (parts.map f).flatten <+~ parts.flatten := by
  induction parts with
  | nil => exact Subperm.refl _
  | cons part _ ih => exact (hf part).append ih

variable (key k) in
lemma topBy_merge (hrows : Timed time (own ++ parts.flatten)) :
    topBy key time k (own ++ (parts.map (topBy key time k)).flatten) =
      topBy key time k (own ++ parts.flatten) := by
  have hp (part : List α) : topBy key time k part <+~ part := topBy_subperm part
  rw [topBy_eq_iff hrows ((Subperm.refl own).append (flatten_map_subperm hp parts))]
  intro _ hr
  rcases mem_append.1 ((topBy_subperm _).subset hr) with ho | hm
  · exact mem_append_left _ ho
  · obtain ⟨part, hin, hm⟩ := mem_flatten.1 hm
    refine mem_append_right _ (mem_flatten.2 ⟨_, mem_map_of_mem hin, ?_⟩)
    have hs : part <+~ own ++ parts.flatten :=
      ((sublist_flatten_of_mem hin).trans (sublist_append_right _ _)).subperm
    exact mem_topBy_of_subperm hrows hs hr hm

lemma flatten_perm_take_drop (k : Nat) (parts : List (List α)) :
    parts.flatten ~ (parts.map (take k)).flatten ++ (parts.map (drop k)).flatten := by
  induction parts with
  | nil => exact Perm.refl _
  | cons part _ ih =>
    simp only [flatten_cons, map_cons, append_assoc]
    nth_rewrite 1 [← take_append_drop k part]
    rw [append_assoc]
    refine Perm.append_left _ ((ih.append_left _).trans ?_)
    rw [← append_assoc, ← append_assoc]
    exact perm_append_comm.append_right _

variable (key k) in
/-- Parts cut in some other order merge into the page of the whole just if each row they lose is
overtaken. -/
lemma topBy_cut_iff (hrows : Timed time (own ++ parts.flatten)) :
    topBy key time k (own ++ (parts.map (take k)).flatten) = topBy key time k (own ++ parts.flatten) ↔
      ∀ part ∈ parts, ∀ row ∈ part.drop k, Overtaken key time k (own ++ parts.flatten) row := by
  have hc := flatten_map_subperm (fun part => (take_sublist k part).subperm) parts
  have hm {part row} (ha : part ∈ parts) (hr : row ∈ part) : row ∈ own ++ parts.flatten :=
    mem_append_right _ (mem_flatten.2 ⟨part, ha, hr⟩)
  rw [topBy_eq_iff hrows ((Subperm.refl own).append hc)]
  constructor
  · intro hp part ha row hd
    by_contra hv
    have hr := hm ha (mem_of_mem_drop hd)
    have hin := hp row ((mem_topBy_iff hrows hr).2 hv)
    have he := (flatten_perm_take_drop k parts).append_left own
    rw [← append_assoc] at he
    have hi := (nodup_append.1 (he.nodup_iff.1 hrows.nodup)).2.2
    have hl : row ∈ (parts.map (drop k)).flatten :=
      mem_flatten.2 ⟨_, mem_map_of_mem ha, hd⟩
    exact hi row hin row hl rfl
  · intro hv row hr
    rcases mem_append.1 ((topBy_subperm _).subset hr) with ho | hin
    · exact mem_append_left _ ho
    · obtain ⟨part, ha, hin⟩ := mem_flatten.1 hin
      refine mem_append_right _ (mem_flatten.2 ⟨_, mem_map_of_mem ha, ?_⟩)
      rw [← take_append_drop k part] at hin
      refine (mem_append.1 hin).resolve_right fun hd => ?_
      exact (mem_topBy_iff hrows ((topBy_subperm _).subset hr)).1 hr (hv part ha row hd)

end Merging

section Listing

variable [DecidableEq κ] [LinearOrder τ]

/-- A row is on the page if no other row of its identity is as new and at most `k` rows are. -/
lemma mem_topBy_of {row : α} (hr : row ∈ rows)
    (hs : ∀ other ∈ rows, other = row ∨ Separate key other row ∨ time other < time row)
    (hk : rows.countP (fun other => time row ≤ time other) ≤ k) :
    row ∈ topBy key time k rows := by
  have hp := newestFirst_perm time rows
  have hsub := dedupeBy_sublist key (newestFirst time rows) []
  have hin : row ∈ dedupeBy key (newestFirst time rows) [] := by
    by_contra hd
    rcases exists_of_not_mem_dedupeBy (sorted_newestFirst rows) (hp.mem_iff.2 hr) hd with
      ⟨_, hse, -⟩ | ⟨first, hf, hle, hn⟩
    · exact not_mem_nil hse
    · rcases hs first (hp.mem_iff.1 (hsub.subset hf)) with rfl | hs | hlt
      · exact hd hf
      · exact hn hs
      · exact absurd hle (not_le.2 hlt)
  obtain ⟨before, after, he⟩ := append_of_mem hin
  have hle : ∀ other ∈ before ++ [row], time row ≤ time other := by
    have ho := (sorted_newestFirst rows).sublist hsub
    rw [he, pairwise_append] at ho
    intro other hm
    rcases mem_append.1 hm with hm | hm
    · exact ho.2.2 other hm row mem_cons_self
    · rw [mem_singleton.1 hm]
  have hpre : before ++ [row] <+: dedupeBy key (newestFirst time rows) [] := ⟨after, by simp [he]⟩
  have hl : (before ++ [row]).length ≤ k := by
    rw [← countP_eq_length.2 fun other hm => decide_eq_true (hle other hm)]
    exact ((hpre.sublist.trans hsub).countP_le).trans (hp.countP_eq _ ▸ hk)
  exact (prefix_take_iff.2 ⟨hpre, hl⟩).subset (by simp)

end Listing

/-! ## Another order -/

section Ranked

variable [DecidableEq κ] [LinearOrder τ] {ρ : Type} [LinearOrder ρ] (rank : α → ρ) (S : Set α)

lemma newestFirst_pair {a b : α} (h : time b ≤ time a) : newestFirst time [a, b] = [a, b] := by
  simp [newestFirst, h]

lemma dedupeBy_pair {a b : α} (h : Separate key a b) : dedupeBy key [a, b] [] = [a, b] := by
  unfold dedupeBy
  cases ha : key a with
  | none => cases hb : key b <;> simp [dedupeBy, hb]
  | some identity =>
    have ho := h identity ha
    cases hb : key b with
    | none => simp [dedupeBy, hb]
    | some other =>
      have hne : other ≠ identity := fun heq => ho (heq ▸ hb)
      simp [dedupeBy, hb, hne]

lemma ranked_of_time {page rows : List α} (h : ∀ a ∈ S, ∀ b ∈ S, Separate key a b →
      rank b < rank a → time b < time a) (hrows : ∀ row ∈ rows, row ∈ S)
    (hp : page <+ dedupeBy key (newestFirst time rows) []) :
    page.Pairwise fun a b => rank b ≤ rank a := by
  have hs := hp.trans (dedupeBy_sublist key (newestFirst time rows) [])
  have hin : ∀ row ∈ page, row ∈ S := fun row hr =>
    hrows row ((newestFirst_perm time rows).mem_iff.1 (hs.subset hr))
  have ho := (sorted_newestFirst rows).sublist hs
  have he : page.Pairwise (Separate key) :=
    (separate_dedupeBy (newestFirst time rows) []).1.sublist hp
  refine (ho.and he).imp_of_mem fun {a b} ha hb hab => ?_
  by_contra hlt
  exact absurd (h b (hin b hb) a (hin a ha) hab.2.symm (not_le.1 hlt)) (not_lt.2 hab.1)

/-- Pages are ordered by a rank, whatever their rows, just if the times of separate rows are. -/
lemma topBy_ranked_iff : (∀ k rows, (∀ row ∈ rows, row ∈ S) →
      (topBy key time k rows).Pairwise fun a b => rank b ≤ rank a) ↔
    ∀ a ∈ S, ∀ b ∈ S, Separate key a b → rank b < rank a → time b < time a := by
  refine ⟨fun h a ha b hb hs hr => ?_, fun h k rows hrows =>
    ranked_of_time rank S h hrows (take_sublist k _)⟩
  by_contra hle
  have hor := h 2 [b, a] (by simp [ha, hb])
  rw [topBy, newestFirst_pair (not_lt.1 hle), dedupeBy_pair hs.symm] at hor
  exact absurd (rel_of_pairwise_cons hor mem_cons_self) (not_le.2 hr)

/-- The same for a list that is not cut, where also each identity keeps its highest row. -/
lemma dedupeBy_ranked_iff : (∀ rows, (∀ row ∈ rows, row ∈ S) →
      (dedupeBy key (newestFirst time rows) []).Pairwise (fun a b => rank b ≤ rank a) ∧
      ∀ kept ∈ dedupeBy key (newestFirst time rows) [], ∀ row ∈ rows,
        ¬ Separate key kept row → rank row ≤ rank kept) ↔
    ∀ a ∈ S, ∀ b ∈ S, rank b < rank a → time b < time a := by
  constructor
  · intro h a ha b hb hr
    by_contra hle
    obtain ⟨hor, hk⟩ := h [b, a] (by simp [ha, hb])
    rw [newestFirst_pair (not_lt.1 hle)] at hor hk
    by_cases he : Separate key b a
    · rw [dedupeBy_pair he] at hor
      exact absurd (rel_of_pairwise_cons hor mem_cons_self) (not_le.2 hr)
    · refine absurd (hk b ?_ a (by simp) he) (not_le.2 hr)
      unfold dedupeBy
      cases key b <;> simp
  · intro h rows hrows
    refine ⟨ranked_of_time rank S (fun a ha b hb _ => h a ha b hb) hrows (Sublist.refl _),
      fun kept hk row hw hsa => ?_⟩
    have hpe := newestFirst_perm time rows
    have hin := hrows kept (hpe.mem_iff.1 ((dedupeBy_sublist key _ []).subset hk))
    by_contra hlt
    have ht := h row (hrows row hw) kept hin (not_le.1 hlt)
    have hp : (dedupeBy key (newestFirst time rows) []).Pairwise (Separate key) :=
      (separate_dedupeBy _ _).1
    have ho : ∀ other ∈ dedupeBy key (newestFirst time rows) [],
        ¬ Separate key other row → other = kept := by
      intro _ hot hw'
      by_contra hne
      have hap := hp.forall hot hk hne
      exact not_separate_trans (fun hs => hw' hs.symm) (fun hs => hsa hs.symm) hap
    by_cases hpa : row ∈ dedupeBy key (newestFirst time rows) []
    · cases ho row hpa (not_separate_trans hsa hsa)
      exact lt_irrefl _ ht
    · rcases exists_of_not_mem_dedupeBy (sorted_newestFirst rows) (hpe.mem_iff.2 hw) hpa with
        ⟨_, hse, _⟩ | ⟨first, hf, hle, hn⟩
      · exact absurd hse not_mem_nil
      · cases ho first hf hn
        exact absurd ht (not_lt.2 hle)

end Ranked

end WattGateway.TopK
