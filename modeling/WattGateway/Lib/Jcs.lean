import Mathlib.Data.List.Lex
import Mathlib.Data.List.Sort
import WattGateway.Lib.Json

/-!
# Canonical JSON

The text of a value in the JSON canonicalization scheme, with the number format as a parameter. A
text can be read in one way only: `walk` follows its brackets and quotes, so that a list of texts is
found again in what `commas` makes of it (`commas_inj`). `text_array_eq_iff` and
`text_object_eq_iff` say when two arrays and two objects have the same text.
-/

namespace WattGateway.Jcs

open Json List Prod

variable {ts' : List (List Char)} {r r' : List Char}

/-- How numbers are written: with none of the characters that separate values. -/
structure NumberFormat where
  text : Number → List Char
  ne_nil : ∀ n, text n ≠ []
  plain : ∀ n, ∀ c ∈ text n, c ∉ ['"', ',', '[', ']', '\x7b', '\x7d']

/-- The UTF-16 code units of a character. -/
def codeUnits (c : Char) : List Nat :=
  if c.toNat < 0x10000 then [c.toNat]
  else [0xD800 + (c.toNat - 0x10000) / 0x400, 0xDC00 + (c.toNat - 0x10000) % 0x400]

def utf16 (s : String) : List Nat := s.toList.flatMap codeUnits

def escape (c : Char) : List Char :=
  if c = '"' then ['\\', '"']
  else if c = '\\' then ['\\', '\\']
  else if c = '\x08' then ['\\', 'b']
  else if c = '\t' then ['\\', 't']
  else if c = '\n' then ['\\', 'n']
  else if c = '\x0c' then ['\\', 'f']
  else if c = '\r' then ['\\', 'r']
  else if c.toNat < 0x20 then
    ['\\', 'u', '0', '0', Nat.digitChar (c.toNat / 16), Nat.digitChar (c.toNat % 16)]
  else [c]

def quote (s : String) : List Char := '"' :: (s.toList.flatMap escape ++ ['"'])

def commas : List (List Char) → List Char
  | [] => []
  | t :: ts => t ++ ts.flatMap (',' :: ·)

def member (m : String × List Char) : List Char := quote m.1 ++ ':' :: m.2

def ByKey (m m' : String × List Char) : Prop := utf16 m.1 ≤ utf16 m'.1

instance : DecidableRel ByKey := fun m m' => inferInstanceAs (Decidable (utf16 m.1 ≤ utf16 m'.1))

section

variable (F : NumberFormat)

mutual

def text : Json → List Char
  | .null => ['n', 'u', 'l', 'l']
  | .bool true => ['t', 'r', 'u', 'e']
  | .bool false => ['f', 'a', 'l', 's', 'e']
  | .number n => F.text n
  | .string s => quote s
  | .array items => '[' :: (commas (texts items) ++ [']'])
  | .object fields =>
    '\x7b' :: (commas (((members fields).insertionSort ByKey).map member) ++ ['\x7d'])

def texts : List Json → List (List Char)
  | [] => []
  | j :: js => text j :: texts js

def members : Fields → List (String × List Char)
  | [] => []
  | f :: fs => fieldText f :: members fs

def fieldText : String × Json → String × List Char
  | (k, j) => (k, text j)

end

lemma texts_eq_map (js : List Json) : texts F js = js.map (text F) := by
  induction js with
  | nil => rfl
  | cons _ _ ih => rw [texts, ih, map_cons]

lemma members_eq_map (fs : Fields) : members F fs = fs.map (fieldText F) := by
  induction fs with
  | nil => rfl
  | cons _ _ ih => rw [members, ih, map_cons]

@[simp] lemma fieldText_mk (k : String) (j : Json) : fieldText F (k, j) = (k, text F j) := by
  rw [fieldText]

@[simp] lemma fieldText_fst (f : String × Json) : (fieldText F f).1 = f.1 :=
  congrArg fst (fieldText_mk F f.1 f.2)

end

/-! ## Keys -/

lemma codeUnits_append_inj {c c' : Char} {r r' : List Nat}
    (h : codeUnits c ++ r = codeUnits c' ++ r') : c = c' ∧ r = r' := by
  -- what a first unit is tells how many there are, as no character lies among the surrogates
  have hv : c.toNat < 0xD800 ∨ 0xDFFF < c.toNat ∧ c.toNat < 0x110000 := c.valid
  have hv' : c'.toNat < 0xD800 ∨ 0xDFFF < c'.toNat ∧ c'.toNat < 0x110000 := c'.valid
  unfold codeUnits at h
  split at h <;> split at h <;>
    simp only [cons_append, nil_append, List.cons.injEq] at h
  · exact ⟨Char.toNat_inj.1 h.1, h.2⟩
  · omega
  · omega
  · exact ⟨Char.toNat_inj.1 (by omega), h.2.2⟩

lemma flatMap_inj {α β : Type} {f : α → List β} (hne : ∀ a, f a ≠ [])
    (hf : ∀ {a a' : α} {r r' : List β}, f a ++ r = f a' ++ r' → a = a' ∧ r = r') {l l' : List α}
    (h : l.flatMap f = l'.flatMap f) : l = l' := by
  induction l generalizing l' with
  | nil =>
    cases l' with
    | nil => rfl
    | cons a =>
      rw [flatMap_nil, flatMap_cons] at h
      exact absurd (append_eq_nil_iff.1 h.symm).1 (hne a)
  | cons a _ ih =>
    cases l' with
    | nil =>
      rw [flatMap_nil, flatMap_cons] at h
      exact absurd (append_eq_nil_iff.1 h).1 (hne a)
    | cons =>
      rw [flatMap_cons, flatMap_cons] at h
      obtain ⟨rfl, ht⟩ := hf h
      rw [ih ht]

lemma codeUnits_ne_nil (c : Char) : codeUnits c ≠ [] := by
  unfold codeUnits
  split <;> simp

lemma utf16_inj {s s' : String} (h : utf16 s = utf16 s') : s = s' :=
  String.toList_inj.1 (flatMap_inj codeUnits_ne_nil codeUnits_append_inj h)

instance : Std.Total ByKey := ⟨fun m m' => le_total (utf16 m.1) (utf16 m'.1)⟩

instance : IsTrans (String × List Char) ByKey := ⟨fun _ _ _ h h' => le_trans h h'⟩

lemma sorted_eq_iff {ms ms' : List (String × List Char)} (he : (ms.map fst).Nodup) :
    ms.insertionSort ByKey = ms'.insertionSort ByKey ↔ ms.Perm ms' := by
  have hp := perm_insertionSort ByKey ms
  have hp' := perm_insertionSort ByKey ms'
  constructor
  · intro h
    exact hp.symm.trans (h ▸ hp')
  · intro h
    refine List.Perm.eq_of_pairwise (fun a b ha hb hab hba => ?_)
      (pairwise_insertionSort ByKey ms) (pairwise_insertionSort ByKey ms')
      (hp.trans (h.trans hp'.symm))
    have hk : a.1 = b.1 := utf16_inj (le_antisymm hab hba)
    exact inj_on_of_nodup_map he (hp.mem_iff.1 ha)
      (h.mem_iff.2 (hp'.mem_iff.1 hb)) hk

/-! ## Strings -/

def hexValue (c : Char) : Nat := if c.toNat < 97 then c.toNat - 48 else c.toNat - 87

lemma hexValue_digitChar : ∀ n < 16, hexValue (Nat.digitChar n) = n := by decide

/-- The character that a short escape stands for. -/
def unescapeShort (c : Char) : Char :=
  if c = 'b' then '\x08' else if c = 't' then '\t' else if c = 'n' then '\n'
  else if c = 'f' then '\x0c' else if c = 'r' then '\r' else c

/-- The characters of a string up to its closing quote, and what follows. -/
def unquote : List Char → Option (List Char × List Char)
  | [] => none
  | '"' :: r => some ([], r)
  | '\\' :: 'u' :: '0' :: '0' :: a :: b :: r =>
    (unquote r).map fun p => (Char.ofNat (16 * hexValue a + hexValue b) :: p.1, p.2)
  | '\\' :: c :: r => (unquote r).map fun p => (unescapeShort c :: p.1, p.2)
  | c :: r => (unquote r).map fun p => (c :: p.1, p.2)

lemma digitChar_plain : ∀ n < 16, Nat.digitChar n ≠ '"' ∧ Nat.digitChar n ≠ '\\' := by decide

lemma escape_cases (c : Char) : (∃ e, e ≠ 'u' ∧ unescapeShort e = c ∧ escape c = ['\\', e]) ∨
    (∃ a b, (a ≠ '"' ∧ a ≠ '\\') ∧ (b ≠ '"' ∧ b ≠ '\\') ∧
      Char.ofNat (16 * hexValue a + hexValue b) = c ∧ escape c = ['\\', 'u', '0', '0', a, b]) ∨
    (c ≠ '"' ∧ c ≠ '\\' ∧ escape c = [c]) := by
  by_cases hs : c ∈ ['"', '\\', '\x08', '\t', '\n', '\x0c', '\r']
  · left
    simp only [mem_cons, not_mem_nil, or_false] at hs
    rcases hs with rfl | rfl | rfl | rfl | rfl | rfl | rfl <;>
      exact ⟨_, by decide, by decide, rfl⟩
  · right
    simp only [mem_cons, not_mem_nil, or_false, not_or] at hs
    by_cases hc : c.toNat < 0x20
    · left
      refine ⟨Nat.digitChar (c.toNat / 16), Nat.digitChar (c.toNat % 16),
        digitChar_plain _ (by omega), digitChar_plain _ (by omega), ?_, ?_⟩
      · rw [hexValue_digitChar _ (by omega), hexValue_digitChar _ (by omega), Nat.div_add_mod,
          Char.ofNat_toNat]
      · simp [escape, hs, hc]
    · right
      exact ⟨hs.1, hs.2.1, by simp [escape, hs, hc]⟩

lemma unquote_escape (c : Char) (r : List Char) :
    unquote (escape c ++ r) = (unquote r).map fun p => (c :: p.1, p.2) := by
  rcases escape_cases c with ⟨_, hu, hs, he⟩ | ⟨_, _, -, -, hv, he⟩ | ⟨_, _, he⟩ <;> rw [he]
  · rw [cons_append, cons_append, nil_append, unquote, hs]
    intro _ _ _ h
    exact absurd h hu
  · rw [← hv]
    rfl
  · rw [cons_append, nil_append, unquote.eq_def]
    split <;> simp_all

lemma unquote_quoted (cs r : List Char) :
    unquote (cs.flatMap escape ++ '"' :: r) = some (cs, r) := by
  induction cs with
  | nil => rw [flatMap_nil, nil_append, unquote]
  | cons _ _ ih =>
    rw [flatMap_cons, append_assoc, unquote_escape, ih]
    rfl

lemma quote_append_inj {s s' : String}
    (h : quote s ++ r = quote s' ++ r') : s = s' ∧ r = r' := by
  unfold quote at h
  simp only [cons_append, append_assoc, nil_append, List.cons.injEq, true_and] at h
  have hr := congrArg unquote h
  rw [unquote_quoted, unquote_quoted, Option.some.injEq, mk.injEq] at hr
  exact ⟨String.toList_inj.1 hr.1, hr.2⟩

lemma member_inj {m m' : String × List Char} (h : member m = member m') : m = m' := by
  obtain ⟨hk, ht⟩ := quote_append_inj h
  exact Prod.ext hk (List.cons.inj ht).2

/-! ## Reading a text -/

inductive Mode where
  | outside
  | inString
  | escaped

/-- One character further, with the number of open brackets; none at a comma or a closing bracket
outside all of them. -/
def walk : Nat × Mode → Char → Option (Nat × Mode)
  | (d, .escaped), _ => some (d, .inString)
  | (d, .inString), c =>
    some (d, if c = '"' then .outside else if c = '\\' then .escaped else .inString)
  | (d, .outside), c =>
    if c = '"' then some (d, .inString)
    else if c = '[' ∨ c = '\x7b' then some (d + 1, .outside)
    else if c = ']' ∨ c = '\x7d' then if d = 0 then none else some (d - 1, .outside)
    else if c = ',' ∧ d = 0 then none
    else some (d, .outside)

/-- A text up to where the walk stops, and the rest of it. -/
def cut : Nat × Mode → List Char → List Char × List Char
  | _, [] => ([], [])
  | s, c :: cs =>
    match walk s c with
    | none => ([], c :: cs)
    | some s' => (c :: (cut s' cs).1, (cut s' cs).2)

variable {t : List Char}

lemma cut_append {s s' : Nat × Mode} (r : List Char) (h : t.foldlM walk s = some s') :
    cut s (t ++ r) = (t ++ (cut s' r).1, (cut s' r).2) := by
  induction t generalizing s with
  | nil =>
    cases h
    rfl
  | cons _ _ ih =>
    rw [foldlM_cons] at h
    obtain ⟨_, hs₁, ht⟩ := Option.bind_eq_some_iff.1 h
    rw [cons_append, cut, hs₁]
    simp only [ih ht, cons_append]

/-- A text that opens and closes what it opens, with nothing to separate it from what it stands in. -/
def Balanced (t : List Char) : Prop := ∀ d, t.foldlM walk (d, .outside) = some (d, .outside)

/-- One that may have commas of its own, as between brackets. -/
def Enclosed (t : List Char) : Prop :=
  ∀ d, t.foldlM walk (d + 1, .outside) = some (d + 1, .outside)

lemma Balanced.enclosed (h : Balanced t) : Enclosed t := fun d => h (d + 1)

lemma enclosed_nil : Enclosed [] := fun _ => rfl

variable {t' : List Char}

lemma Enclosed.append (h : Enclosed t) (h' : Enclosed t') : Enclosed (t ++ t') := by
  intro d
  rw [foldlM_append, h d]
  exact h' d

lemma Balanced.append (h : Balanced t) (h' : Balanced t') : Balanced (t ++ t') := by
  intro d
  rw [foldlM_append, h d]
  exact h' d

lemma enclosed_comma (h : Enclosed t) : Enclosed (',' :: t) := fun d => h d

variable {ts : List (List Char)}

lemma enclosed_commas (h : ∀ t ∈ ts, Balanced t) : Enclosed (commas ts) := by
  have ha : ∀ ts : List (List Char), (∀ t ∈ ts, Balanced t) → Enclosed (ts.flatMap (',' :: ·)) := by
    intro ts hs
    induction ts with
    | nil => exact enclosed_nil
    | cons t _ ih =>
      rw [flatMap_cons]
      exact (enclosed_comma (hs t mem_cons_self).enclosed).append
        (ih fun t' ht' => hs t' (mem_cons_of_mem _ ht'))
  cases ts with
  | nil => exact enclosed_nil
  | cons t ts =>
    exact (h t mem_cons_self).enclosed.append
      (ha ts fun t' ht' => h t' (mem_cons_of_mem _ ht'))

lemma balanced_plain (h : ∀ c ∈ t, c ∉ ['"', ',', '[', ']', '\x7b', '\x7d']) : Balanced t := by
  intro d
  induction t with
  | nil => rfl
  | cons c _ ih =>
    have hc := h c mem_cons_self
    have hw : walk (d, .outside) c = some (d, .outside) := by
      simp only [mem_cons, not_mem_nil, or_false, not_or] at hc
      simp [walk, hc]
    rw [foldlM_cons, hw]
    exact ih fun c' hc' => h c' (mem_cons_of_mem _ hc')

lemma balanced_brackets (h : Enclosed t) : Balanced ('[' :: (t ++ [']'])) := by
  intro d
  show (t ++ [']']).foldlM walk (d + 1, .outside) = _
  rw [foldlM_append, h d]
  rfl

lemma balanced_braces (h : Enclosed t) : Balanced ('\x7b' :: (t ++ ['\x7d'])) := by
  intro d
  show (t ++ ['\x7d']).foldlM walk (d + 1, .outside) = _
  rw [foldlM_append, h d]
  rfl

lemma walk_escape (c : Char) (d : Nat) :
    (escape c).foldlM walk (d, .inString) = some (d, .inString) := by
  rcases escape_cases c with ⟨_, -, -, he⟩ | ⟨_, _, ha, hb, -, he⟩ | ⟨hq, hb, he⟩ <;> rw [he]
  · rfl
  · simp [walk, ha, hb]
  · simp [walk, hq, hb]

lemma balanced_quote (s : String) : Balanced (quote s) := by
  intro d
  have hc : ∀ cs : List Char,
      (cs.flatMap escape).foldlM walk (d, .inString) = some (d, .inString) := by
    intro cs
    induction cs with
    | nil => rfl
    | cons _ _ ih =>
      rw [flatMap_cons, foldlM_append, walk_escape]
      exact ih
  show (s.toList.flatMap escape ++ ['"']).foldlM walk (d, .inString) = _
  rw [foldlM_append, hc]
  rfl

lemma balanced_member {m : String × List Char} (h : Balanced m.2) : Balanced (member m) := by
  have hc : Balanced (':' :: m.2) := fun d => h d
  exact (balanced_quote m.1).append hc

section

variable (F : NumberFormat)

mutual

lemma balanced_text : ∀ j, Balanced (text F j)
  | .null => fun _ => by rw [text]; rfl
  | .bool true => fun _ => by rw [text]; rfl
  | .bool false => fun _ => by rw [text]; rfl
  | .number n => by
    rw [text]
    exact balanced_plain (F.plain n)
  | .string s => by
    rw [text]
    exact balanced_quote s
  | .array items => by
    rw [text]
    exact balanced_brackets (enclosed_commas (balanced_texts items))
  | .object fields => by
    rw [text]
    refine balanced_braces (enclosed_commas fun t ht => ?_)
    obtain ⟨m, hm, rfl⟩ := mem_map.1 ht
    exact balanced_member (balanced_members fields m ((mem_insertionSort ByKey).1 hm))

lemma balanced_texts : ∀ js, ∀ t ∈ texts F js, Balanced t
  | [], t, ht => by
    rw [texts] at ht
    cases ht
  | j :: js, t, ht => by
    rw [texts, mem_cons] at ht
    rcases ht with rfl | ht
    · exact balanced_text j
    · exact balanced_texts js t ht

lemma balanced_members : ∀ fs, ∀ m ∈ members F fs, Balanced m.2
  | [], m, hm => by
    rw [members] at hm
    cases hm
  | f :: fs, m, hm => by
    rw [members, mem_cons] at hm
    rcases hm with rfl | hm
    · exact balanced_fieldText f
    · exact balanced_members fs m hm

lemma balanced_fieldText : ∀ f, Balanced (fieldText F f).2
  | (k, j) => by
    rw [fieldText]
    exact balanced_text j

end

lemma text_ne_nil (j : Json) : text F j ≠ [] := by
  cases j with
  | bool b => cases b <;> simp [text]
  | number n =>
    rw [text]
    exact F.ne_nil n
  | _ => simp [text, quote]

end

/-! ## Texts that are equal -/

/-- Nothing follows, or what separates a value from what follows. -/
def Ends (r : List Char) : Prop := cut (0, .outside) r = ([], r)

lemma append_inj_of_balanced (ht : Balanced t) (ht' : Balanced t')
    (hr : Ends r) (hr' : Ends r') (h : t ++ r = t' ++ r') : t = t' ∧ r = r' := by
  have hc := congrArg (cut (0, .outside)) h
  rw [cut_append r (ht 0), cut_append r' (ht' 0), hr, hr', mk.injEq] at hc
  simpa using hc

lemma ends_tail (ts : List (List Char)) : Ends (ts.flatMap (',' :: ·)) := by
  cases ts with
  | nil => rfl
  | cons => rfl

lemma tail_inj (hs : ∀ t ∈ ts, Balanced t)
    (hs' : ∀ t ∈ ts', Balanced t) (h : ts.flatMap (',' :: ·) = ts'.flatMap (',' :: ·)) :
    ts = ts' := by
  induction ts generalizing ts' with
  | nil =>
    cases ts' with
    | nil => rfl
    | cons => cases h
  | cons t ts ih =>
    cases ts' with
    | nil => cases h
    | cons t' ts' =>
      rw [flatMap_cons, flatMap_cons, cons_append, cons_append] at h
      obtain ⟨rfl, ha⟩ := append_inj_of_balanced (hs t mem_cons_self)
        (hs' t' mem_cons_self) (ends_tail ts) (ends_tail ts') (List.cons.inj h).2
      rw [ih (fun t' ht' => hs t' (mem_cons_of_mem _ ht'))
        (fun t' ht' => hs' t' (mem_cons_of_mem _ ht')) ha]

lemma commas_inj (hs : ∀ t ∈ ts, Balanced t ∧ t ≠ [])
    (hs' : ∀ t ∈ ts', Balanced t ∧ t ≠ []) (h : commas ts = commas ts') : ts = ts' := by
  cases ts with
  | nil =>
    cases ts' with
    | nil => rfl
    | cons t' =>
      exact absurd (append_eq_nil_iff.1 h.symm).1 (hs' t' mem_cons_self).2
  | cons t ts =>
    cases ts' with
    | nil => exact absurd (append_eq_nil_iff.1 h).1 (hs t mem_cons_self).2
    | cons t' ts' =>
      obtain ⟨rfl, ha⟩ := append_inj_of_balanced (hs t mem_cons_self).1
        (hs' t' mem_cons_self).1 (ends_tail ts) (ends_tail ts') h
      rw [tail_inj (fun t' ht' => (hs t' (mem_cons_of_mem _ ht')).1)
        (fun t' ht' => (hs' t' (mem_cons_of_mem _ ht')).1) ha]

section

variable (F : NumberFormat)

lemma text_array_eq_iff {js js' : List Json} :
    text F (.array js) = text F (.array js') ↔ js.map (text F) = js'.map (text F) := by
  rw [text, text, texts_eq_map, texts_eq_map]
  constructor
  · intro h
    have hit : ∀ js : List Json, ∀ t ∈ js.map (text F), Balanced t ∧ t ≠ [] := by
      intro js _ ht
      obtain ⟨j, -, rfl⟩ := mem_map.1 ht
      exact ⟨balanced_text F j, text_ne_nil F j⟩
    exact commas_inj (hit js) (hit js') (append_cancel_right (List.cons.inj h).2)
  · intro h
    rw [h]

/-- Two objects, one with a key at most once, have the same text exactly if they have the same
fields, in any order, with values of the same text. -/
lemma text_object_eq_iff {fs fs' : Fields} (hk : (fs.map fst).Nodup) :
    text F (.object fs) = text F (.object fs') ↔
      (fs.map (fieldText F)).Perm (fs'.map (fieldText F)) := by
  rw [text, text, members_eq_map, members_eq_map,
    ← sorted_eq_iff (by simpa [Function.comp_def] using hk)]
  constructor
  · intro h
    have he : ∀ fs : Fields,
        ∀ t ∈ ((fs.map (fieldText F)).insertionSort ByKey).map member, Balanced t ∧ t ≠ [] := by
      intro fs _ ht
      obtain ⟨m, hm, rfl⟩ := mem_map.1 ht
      rw [mem_insertionSort] at hm
      obtain ⟨f, -, rfl⟩ := mem_map.1 hm
      exact ⟨balanced_member (balanced_fieldText F f), by simp [member, quote]⟩
    exact map_injective_iff.2 (fun m m' => member_inj)
      (commas_inj (he fs) (he fs') (append_cancel_right (List.cons.inj h).2))
  · intro h
    rw [h]

end

end WattGateway.Jcs
