import Mathlib.Data.List.Induction
import Mathlib.Data.List.Nodup
import Mathlib.Data.List.Perm.Basic

/-!
# Insertion-ordered dictionaries

A `Dict` is a list of entries whose keys are pairwise distinct; the structure carries that fact, so
a dictionary with two entries under one key cannot be built.  `set` overwrites in place or appends
at the end, which is the order a Python `dict` iterates in, and no client of a hash map or of a
Redis hash may rely on more.

**Lookups.**  `get?_set` and `get?_del` say what a lookup sees after one update, and `mem_entries`
that the entries are exactly the successful lookups.  Most proofs about a dictionary need no more
than these and never see the list of entries.

**Order.**  `keys_set_of_isSome` and `keys_set_of_get?_none` say what one update does to the keys:
nothing, if the key is there, and else it comes last.  `keys_isPrefix_set` is the two together.

**Filling.**

* `ofEntries` — a dictionary filled by one `set` for each element of a list.  What is found in it
  is in the list (`mem_of_get?_ofEntries`), and when the keys are distinct all of the list is found
  (`get?_ofEntries`).  With equal keys the last element stays.
* `fill` — the same when the values have to be looked up, which may fail.  What is found afterwards
  is `get?_fill`, and in which order `keys_fill`.

**Loops.**  `forKeys` is a loop over the keys whose body may fail.  `forKeys_keeps` is its
invariant rule when the body does not fail, `forKeys_some` the one for a body that may, and
`forKeys_trace` the one for an invariant that speaks of the keys visited so far.
-/

namespace Lib

/-- A finite map that remembers the order in which its keys were first set. -/
structure Dict (K V : Type) where
  entries : List (K × V)
  nodupKeys : (entries.map Prod.fst).Nodup
deriving DecidableEq

namespace Dict

variable {K V : Type}

/-- The keys, in the order in which they were first set; a key that is set again keeps its place. -/
def keys (d : Dict K V) : List K := d.entries.map Prod.fst

/-- The values, in the order of their keys. -/
def values (d : Dict K V) : List V := d.entries.map Prod.snd

/-- The number of entries, which is also that of the keys. -/
def size (d : Dict K V) : ℕ := d.entries.length

/-- The dictionary without entries, in which nothing is found. -/
def empty : Dict K V := ⟨[], by simp⟩

instance : EmptyCollection (Dict K V) := ⟨empty⟩

@[simp] lemma values_length (d : Dict K V) : d.values.length = d.size := by
  simp [values, size]

variable [DecidableEq K]

/-- The value under a key, if there is one; a lookup that must not fail is one that is `some`. -/
def get? (d : Dict K V) (k : K) : Option V :=
  (d.entries.find? fun e => e.1 = k).map Prod.snd

/-- The list of entries after `set`: the entry of `k` is overwritten where it stands, or one is
appended. -/
def setEntries (k : K) (v : V) : List (K × V) → List (K × V)
  | [] => [(k, v)]
  | e :: es => if e.1 = k then (k, v) :: es else e :: setEntries k v es

lemma keys_setEntries (k : K) (v : V) : ∀ es : List (K × V),
    (setEntries k v es).map Prod.fst
      = if k ∈ es.map Prod.fst then es.map Prod.fst else es.map Prod.fst ++ [k]
  | [] => by simp [setEntries]
  | e :: es => by
      by_cases h : e.1 = k
      · simp [setEntries, h]
      · have hk : k ≠ e.1 := fun hk => h hk.symm
        simp only [setEntries, if_neg h, List.map_cons, keys_setEntries k v es, List.mem_cons, hk,
          false_or]
        split_ifs <;> rfl

/-- Put a value under a key.  The proof field is why the keys stay distinct: an entry is
overwritten, or one with a new key is appended. -/
def set (d : Dict K V) (k : K) (v : V) : Dict K V where
  entries := setEntries k v d.entries
  nodupKeys := by
    rw [keys_setEntries]
    split_ifs with h
    · exact d.nodupKeys
    · exact List.nodup_append.mpr ⟨d.nodupKeys, by simp, by simpa using fun a b hb hk => h (by
        simpa using ⟨b, hk ▸ hb⟩)⟩

/-- Remove the entry of a key, if there is one.  All others keep their places. -/
def del (d : Dict K V) (k : K) : Dict K V where
  entries := d.entries.filter fun e => e.1 ≠ k
  nodupKeys := d.nodupKeys.sublist (List.filter_sublist.map Prod.fst)

/-! ## Lookups after an update -/

@[simp] lemma get?_empty (k : K) : (∅ : Dict K V).get? k = none := rfl

/-- A lookup in the entries after one has been set, by induction on the entries. -/
lemma find?_setEntries (k k' : K) (v : V) : ∀ es : List (K × V),
    ((setEntries k v es).find? fun e => e.1 = k').map Prod.snd
      = if k' = k then some v else (es.find? fun e => e.1 = k').map Prod.snd
  | [] => by
      by_cases h : k' = k
      · simp [setEntries, h]
      · simp [setEntries, h, Ne.symm h]
  | e :: es => by
      by_cases he : e.1 = k
      · by_cases h : k' = k
        · simp [setEntries, he, h]
        · simp [setEntries, he, h, Ne.symm h]
      · by_cases he' : e.1 = k'
        · simp [setEntries, he', he' ▸ he]
        · simp only [setEntries, if_neg he, List.find?_cons, he', decide_false]
          exact find?_setEntries k k' v es

@[simp] lemma get?_set (d : Dict K V) (k k' : K) (v : V) :
    (d.set k v).get? k' = if k' = k then some v else d.get? k' :=
  find?_setEntries k k' v d.entries

lemma get?_set_self (d : Dict K V) (k : K) (v : V) : (d.set k v).get? k = some v := by simp

lemma get?_set_ne (d : Dict K V) {k k' : K} (v : V) (h : k' ≠ k) :
    (d.set k v).get? k' = d.get? k' := by simp [h]

@[simp] lemma get?_del (d : Dict K V) (k k' : K) :
    (d.del k).get? k' = if k' = k then none else d.get? k' := by
  simp only [get?, del, List.find?_filter, ne_eq, decide_not, Bool.decide_and, Bool.decide_eq_true]
  by_cases h : k' = k
  · subst h
    simp
  · have hfun : (fun e : K × V => !decide (e.1 = k) && decide (e.1 = k'))
        = fun e => decide (e.1 = k') := by
      funext e
      by_cases he : e.1 = k' <;> simp [he, h]
    simp [hfun, h]

/-! ## Entries are lookups -/

/-- The entries are the successful lookups, since no key has two of them. -/
theorem mem_entries (d : Dict K V) {k : K} {v : V} : (k, v) ∈ d.entries ↔ d.get? k = some v := by
  constructor
  · intro h
    have hnd := d.nodupKeys
    simp only [get?]
    induction hes : d.entries generalizing d with
    | nil => simp [hes] at h
    | cons e es ih =>
        rw [hes] at h hnd
        rcases List.mem_cons.mp h with rfl | h'
        · simp
        · have hne : e.1 ≠ k := by
            intro he
            simp only [List.map_cons, List.nodup_cons] at hnd
            exact hnd.1 (List.mem_map.mpr ⟨(k, v), h', he.symm⟩)
          simp only [List.find?_cons, hne, decide_false]
          simp only [List.map_cons, List.nodup_cons] at hnd
          exact ih ⟨es, hnd.2⟩ h' hnd.2 rfl
  · intro h
    obtain ⟨e, he, rfl⟩ := Option.map_eq_some_iff.mp h
    have hk := List.find?_some he
    simp only [decide_eq_true_eq] at hk
    exact hk ▸ List.mem_of_find?_eq_some he

lemma mem_values (d : Dict K V) {v : V} : v ∈ d.values ↔ ∃ k, d.get? k = some v := by
  simp only [values, List.mem_map, Prod.exists, exists_eq_right, mem_entries]

/-! ## Entries after an update -/

lemma mem_keys (d : Dict K V) {k : K} : k ∈ d.entries.map Prod.fst ↔ (d.get? k).isSome := by
  rw [Option.isSome_iff_exists, List.mem_map]
  constructor
  · rintro ⟨⟨k, v⟩, he, rfl⟩
    exact ⟨v, (mem_entries d).mp he⟩
  · rintro ⟨v, hv⟩
    exact ⟨(k, v), (mem_entries d).mpr hv, rfl⟩

lemma setEntries_of_notMem {k : K} (v : V) : ∀ {es : List (K × V)}, k ∉ es.map Prod.fst →
    setEntries k v es = es ++ [(k, v)]
  | [], _ => rfl
  | e :: es, h => by
      simp only [List.map_cons, List.mem_cons, not_or] at h
      rw [setEntries, if_neg (Ne.symm h.1), setEntries_of_notMem v h.2, List.cons_append]

/-- Overwriting leaves the order as it is. -/
lemma setEntries_of_mem {k : K} (v : V) : ∀ {es : List (K × V)}, (es.map Prod.fst).Nodup →
    k ∈ es.map Prod.fst → setEntries k v es = es.map fun e => if e.1 = k then (k, v) else e
  | [], _, h => absurd h List.not_mem_nil
  | e :: es, hnd, h => by
      simp only [List.map_cons, List.nodup_cons, List.mem_cons] at hnd h
      by_cases he : e.1 = k
      · -- no other entry has the key
        have htail : ∀ e' ∈ es, (if e'.1 = k then (k, v) else e') = e' := fun e' he' =>
          if_neg fun hk => hnd.1 (List.mem_map.mpr ⟨e', he', hk.trans he.symm⟩)
        rw [setEntries, if_pos he, List.map_cons, if_pos he, List.map_congr_left htail, List.map_id']
      · rw [setEntries, if_neg he, List.map_cons, if_neg he,
          setEntries_of_mem v hnd.2 (h.resolve_left (Ne.symm he))]

lemma entries_set_of_get?_none {d : Dict K V} {k : K} (h : d.get? k = none) (v : V) :
    (d.set k v).entries = d.entries ++ [(k, v)] :=
  setEntries_of_notMem v (by rw [mem_keys, h]; simp)

lemma entries_set_of_get?_some {d : Dict K V} {k : K} {v₀ : V} (h : d.get? k = some v₀) (v : V) :
    (d.set k v).entries = d.entries.map fun e => if e.1 = k then (k, v) else e :=
  setEntries_of_mem v d.nodupKeys (by rw [mem_keys, h]; rfl)

/-- A key stays where it is, and a new one comes last. -/
lemma keys_isPrefix_set (d : Dict K V) (k : K) (v : V) : d.keys <+: (d.set k v).keys := by
  show _ <+: (setEntries k v d.entries).map Prod.fst
  rw [keys_setEntries]
  split_ifs
  · exact List.prefix_refl _
  · exact List.prefix_append _ _

lemma keys_set_of_isSome {d : Dict K V} {k : K} (h : (d.get? k).isSome) (v : V) :
    (d.set k v).keys = d.keys := by
  show (setEntries k v d.entries).map Prod.fst = _
  rw [keys_setEntries, if_pos ((mem_keys d).mpr h)]
  rfl

lemma keys_set_of_get?_none {d : Dict K V} {k : K} (h : d.get? k = none) (v : V) :
    (d.set k v).keys = d.keys ++ [k] := by
  rw [keys, entries_set_of_get?_none h, List.map_append]
  rfl

/-! ## Filling a dictionary from a list -/

/-- One `set` for each element, in order, so that a later element overwrites an earlier one with its
key. -/
def ofEntries (es : List (K × V)) : Dict K V := es.foldl (fun d e => d.set e.1 e.2) ∅

lemma get?_foldl_set (es : List (K × V)) : ∀ (d : Dict K V) (k : K), k ∉ es.map Prod.fst →
    (es.foldl (fun d e => d.set e.1 e.2) d).get? k = d.get? k := by
  induction es with
  | nil => simp
  | cons e es ih =>
      intro d k hk
      simp only [List.map_cons, List.mem_cons, not_or] at hk
      rw [List.foldl_cons, ih _ k hk.2, get?_set_ne _ _ hk.1]

/-- When the keys are distinct nothing is overwritten: every element is found under its key. -/
theorem get?_ofEntries {es : List (K × V)} (hnd : (es.map Prod.fst).Nodup) {k : K} {v : V}
    (h : (k, v) ∈ es) : (ofEntries es).get? k = some v := by
  have key : ∀ d : Dict K V, (es.foldl (fun d e => d.set e.1 e.2) d).get? k = some v := by
    induction es with
    | nil => simp at h
    | cons e es ih =>
        intro d
        simp only [List.map_cons, List.nodup_cons] at hnd
        rcases List.mem_cons.mp h with rfl | h'
        · rw [List.foldl_cons, get?_foldl_set es _ _ hnd.1, get?_set_self]
        · exact ih hnd.2 h' _
  exact key ∅

lemma get?_ofEntries_concat (es : List (K × V)) (e : K × V) (k : K) :
    (ofEntries (es ++ [e])).get? k = if k = e.1 then some e.2 else (ofEntries es).get? k := by
  rw [ofEntries, List.foldl_append, List.foldl_cons, List.foldl_nil, get?_set]
  rfl

/-- Everything that is found was put there, as an element of the list and under this key. -/
theorem mem_of_get?_ofEntries {es : List (K × V)} {k : K} {v : V}
    (h : (ofEntries es).get? k = some v) : (k, v) ∈ es := by
  induction es using List.reverseRecOn with
  | nil => exact absurd h (by simp [ofEntries])
  | append_singleton es e ih =>
      rw [get?_ofEntries_concat] at h
      split_ifs at h with hk
      · obtain rfl := Option.some.inj h
        exact List.mem_append_right _ (by rw [hk]; exact List.mem_singleton_self _)
      · exact List.mem_append_left _ (ih h)

/-- What a list puts into the empty dictionary it puts into any other. -/
lemma get?_foldl_set_of_ofEntries {es : List (K × V)} {k : K} {v : V} (d : Dict K V)
    (h : (ofEntries es).get? k = some v) :
    (es.foldl (fun d e => d.set e.1 e.2) d).get? k = some v := by
  induction es using List.reverseRecOn with
  | nil => exact absurd h (by simp [ofEntries])
  | append_singleton es e ih =>
      rw [get?_ofEntries_concat] at h
      rw [List.foldl_append, List.foldl_cons, List.foldl_nil, get?_set]
      split_ifs at h ⊢
      · exact h
      · exact ih h

/-- Every key of the list is found, with the value of the last element that has it. -/
theorem isSome_get?_ofEntries {es : List (K × V)} {k : K} (h : k ∈ es.map Prod.fst) :
    ((ofEntries es).get? k).isSome := by
  induction es using List.reverseRecOn with
  | nil => exact absurd h List.not_mem_nil
  | append_singleton es e ih =>
      rw [get?_ofEntries_concat]
      split_ifs with hk
      · rfl
      · rw [List.map_append, List.mem_append] at h
        exact ih (h.resolve_right fun h => hk (List.mem_singleton.mp h))

lemma get?_ofEntries_none {es : List (K × V)} {k : K} (h : k ∉ es.map Prod.fst) :
    (ofEntries es).get? k = none := by
  rw [ofEntries, get?_foldl_set es _ k h, get?_empty]

/-- The keys that are found are those of the list. -/
lemma isSome_get?_ofEntries_iff {es : List (K × V)} {k : K} :
    ((ofEntries es).get? k).isSome ↔ k ∈ es.map Prod.fst := by
  refine ⟨fun h => ?_, isSome_get?_ofEntries⟩
  by_contra hk
  rw [get?_ofEntries_none hk] at h
  exact absurd h (by simp)

/-- `d[k] = f(k)` for each key of a list, in order, where `f` may fail. -/
def fill (f : K → Option V) : List K → Dict K V → Option (Dict K V)
  | [], d => some d
  | k :: ks, d => do
      let v ← f k
      fill f ks (d.set k v)

/-- What is found in a dictionary that was filled: under the keys of the list what `f` says, and
under any other key what was there before. -/
theorem get?_fill {f : K → Option V} : ∀ {ks : List K} {d d' : Dict K V},
    fill f ks d = some d' → ∀ k, d'.get? k = if k ∈ ks then f k else d.get? k
  | [], d, d', h, k => by simp [← Option.some.inj h]
  | a :: ks, d, d', h, k => by
      obtain ⟨v, hv, hrest⟩ := Option.bind_eq_some_iff.mp h
      rw [get?_fill hrest k, get?_set]
      by_cases hk : k ∈ ks
      · simp [hk]
      · by_cases ha : k = a
        · simp [ha, hv]
        · simp [hk, ha]

lemma exists_fill {f : K → Option V} : ∀ (ks : List K) (d : Dict K V),
    (∀ k ∈ ks, (f k).isSome) → ∃ d', fill f ks d = some d'
  | [], d, _ => ⟨d, rfl⟩
  | a :: ks, d, h => by
      obtain ⟨v, hv⟩ := Option.isSome_iff_exists.mp (h a List.mem_cons_self)
      rw [fill, hv]
      exact exists_fill ks (d.set a v) fun k hk => h k (List.mem_cons_of_mem a hk)

/-- Every value that was looked up is there. -/
lemma get?_fill_of_mem {f : K → Option V} {ks : List K} {d d' : Dict K V} {k : K}
    (h : fill f ks d = some d') (hk : k ∈ ks) : d'.get? k = f k := by
  rw [get?_fill h, if_pos hk]

/-- Nothing else is there that was not there before. -/
lemma mem_of_get?_fill {f : K → Option V} {ks : List K} {d' : Dict K V} {k : K} {v : V}
    (h : fill f ks ∅ = some d') (hk : d'.get? k = some v) : k ∈ ks ∧ f k = some v := by
  rw [get?_fill h, get?_empty] at hk
  split_ifs at hk with hmem
  exact ⟨hmem, hk⟩

lemma isSome_get?_fill {f : K → Option V} : ∀ {ks : List K} {d d' : Dict K V},
    fill f ks d = some d' → ∀ k, (d'.get? k).isSome ↔ k ∈ ks ∨ (d.get? k).isSome
  | [], d, d', h, k => by simp [← Option.some.inj h]
  | a :: ks, d, d', h, k => by
      obtain ⟨v, hv, hrest⟩ := Option.bind_eq_some_iff.mp h
      rw [isSome_get?_fill hrest k, get?_set, List.mem_cons]
      split_ifs with hk
      · simp [hk]
      · simp [hk]

/-- Distinct keys come in the order of the list. -/
lemma keys_fill {f : K → Option V} : ∀ {ks : List K} {d d' : Dict K V}, fill f ks d = some d' →
    ks.Nodup → (∀ k ∈ ks, d.get? k = none) → d'.keys = d.keys ++ ks
  | [], d, d', h, _, _ => by rw [Option.some.inj h, List.append_nil]
  | a :: ks, d, d', h, hnd, hnone => by
      obtain ⟨v, hv, hrest⟩ := Option.bind_eq_some_iff.mp h
      obtain ⟨ha, hnd⟩ := List.nodup_cons.mp hnd
      have hrest_none : ∀ k ∈ ks, (d.set a v).get? k = none := fun k hk => by
        have hne : k ≠ a := fun hka => ha (hka ▸ hk)
        rw [get?_set_ne _ _ hne]
        exact hnone k (List.mem_cons_of_mem a hk)
      rw [keys_fill hrest hnd hrest_none, keys_set_of_get?_none (hnone a List.mem_cons_self),
        List.append_assoc, List.singleton_append]

/-! ## A loop over the keys -/

/-- `for k in d`, the keys being those the loop starts with.  A body that fails ends the loop. -/
def forKeys {σ : Type} (d : Dict K V) (body : K → σ → Option σ) (s : σ) : Option σ :=
  d.keys.foldlM (fun s k => body k s) s

/-- **The invariant rule.**  What every pass of the body keeps, without failing, the loop keeps. -/
theorem forKeys_keeps {σ : Type} {P : σ → Prop} {d : Dict K V} {body : K → σ → Option σ}
    (h : ∀ k s, (d.get? k).isSome → P s → ∃ t, body k s = some t ∧ P t) {s : σ} (hs : P s) :
    ∃ t, d.forKeys body s = some t ∧ P t := by
  have hkeys : ∀ k ∈ d.keys, (d.get? k).isSome := fun k hk => (mem_keys d).mp hk
  rw [forKeys]
  generalize d.keys = keys at hkeys ⊢
  induction keys generalizing s with
  | nil => exact ⟨s, rfl, hs⟩
  | cons k ks ih =>
      obtain ⟨t, ht, hPt⟩ := h k s (hkeys k List.mem_cons_self) hs
      rw [List.foldlM_cons, ht]
      exact ih hPt fun k' hk' => hkeys k' (List.mem_cons_of_mem k hk')

omit [DecidableEq K] in
/-- The rule for a body that may fail: what it keeps when it does not, the loop keeps. -/
theorem forKeys_some {σ : Type} {P : σ → Prop} {d : Dict K V} {body : K → σ → Option σ}
    (h : ∀ k s t, P s → body k s = some t → P t) {s t : σ} (hs : P s)
    (hrun : d.forKeys body s = some t) : P t := by
  rw [forKeys] at hrun
  generalize d.keys = keys at hrun
  induction keys generalizing s with
  | nil => exact Option.some.inj hrun ▸ hs
  | cons k ks ih =>
      rw [List.foldlM_cons] at hrun
      obtain ⟨s', hbody, hrest⟩ := Option.bind_eq_some_iff.mp hrun
      exact ih (h k s s' hs hbody) hrest

omit [DecidableEq K] in
/-- The rule with a history: the invariant may speak of the keys visited so far, and at the end they
are all the keys, in order. -/
theorem forKeys_trace {σ : Type} {P : List K → σ → Prop} {d : Dict K V}
    {body : K → σ → Option σ}
    (h : ∀ done k s t, P done s → body k s = some t → P (done ++ [k]) t) {s t : σ} (hs : P [] s)
    (hrun : d.forKeys body s = some t) : P d.keys t := by
  have key : ∀ (ks done : List K) (s : σ), P done s →
      ks.foldlM (fun s k => body k s) s = some t → P (done ++ ks) t := by
    intro ks
    induction ks with
    | nil =>
        intro done s hs hrun
        rw [List.append_nil]
        exact Option.some.inj hrun ▸ hs
    | cons k ks ih =>
        intro done s hs hrun
        rw [List.foldlM_cons] at hrun
        obtain ⟨s', hbody, hrest⟩ := Option.bind_eq_some_iff.mp hrun
        have htail := ih (done ++ [k]) s' (h done k s s' hs hbody) hrest
        rwa [List.append_assoc] at htail
  exact key d.keys [] s hs hrun

end Dict

end Lib
