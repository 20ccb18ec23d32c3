import ClusterFabric.Lib.StdAlgorithm

/-! # Ordered maps

A finite map kept as its entry list in strictly increasing key order, which is
the order in which an ordered associative container is iterated. The order is
a field of the map, so every operation re-establishes it once and no lemma
about lookups has a well-formedness premise.
-/

namespace Lib

/-- An ordered map from `K` to `V`. -/
structure StdMap (K V : Type) [LinearOrder K] where
  entries : List (K × V)
  sorted : entries.Pairwise fun a b => a.1 < b.1

namespace StdMap

variable {K V W : Type} [LinearOrder K] {l : List (K × V)} {f : V → V} {value : V}

/-! ## Entry lists -/

/-- The value at `key` in an entry list. -/
def lookup (key : K) : List (K × V) → Option V
  | [] => none
  | (k, v) :: rest => if k = key then some v else lookup key rest

/-- Single-pass insertion that replaces the value of an existing key. -/
def insertEntry (key : K) (value : V) : List (K × V) → List (K × V)
  | [] => [(key, value)]
  | (k, v) :: rest =>
    if key < k then (key, value) :: (k, v) :: rest
    else if k < key then (k, v) :: insertEntry key value rest
    else (key, value) :: rest

theorem mem_insertEntry {key : K} {e : K × V} (h : e ∈ insertEntry key value l) :
    e = (key, value) ∨ e ∈ l := by
  induction l with
  | nil => simpa [insertEntry] using h
  | cons hd tl ih =>
    obtain ⟨k, v⟩ := hd
    rw [insertEntry] at h
    split_ifs at h with h1 h2
    · simpa using h
    · rcases List.mem_cons.mp h with rfl | h
      · exact .inr (by simp)
      · rcases ih h with rfl | h
        · exact .inl rfl
        · exact .inr (List.mem_cons_of_mem _ h)
    · rcases List.mem_cons.mp h with rfl | h
      · exact .inl rfl
      · exact .inr (List.mem_cons_of_mem _ h)

theorem sorted_insertEntry (key : K) (value : V) (h : l.Pairwise fun a b => a.1 < b.1) :
    (insertEntry key value l).Pairwise fun a b => a.1 < b.1 := by
  induction l with
  | nil => simp [insertEntry]
  | cons hd tl ih =>
    obtain ⟨k, v⟩ := hd
    obtain ⟨hhd, htl⟩ := List.pairwise_cons.mp h
    rw [insertEntry]
    split_ifs with h1 h2
    · refine List.pairwise_cons.mpr ⟨fun e he => ?_, h⟩
      rcases List.mem_cons.mp he with rfl | he
      · exact h1
      · exact h1.trans (hhd e he)
    · refine List.pairwise_cons.mpr ⟨fun e he => ?_, ih htl⟩
      rcases mem_insertEntry he with rfl | he
      · exact h2
      · exact hhd e he
    · obtain rfl : k = key := le_antisymm (not_lt.mp h1) (not_lt.mp h2)
      exact List.pairwise_cons.mpr ⟨hhd, htl⟩

theorem lookup_insertEntry (key key' : K) (value : V) (l : List (K × V)) :
    lookup key' (insertEntry key value l) =
      if key = key' then some value else lookup key' l := by
  induction l with
  | nil => simp [insertEntry, lookup]
  | cons hd tl ih =>
    obtain ⟨k, v⟩ := hd
    rw [insertEntry]
    by_cases h1 : key < k
    · rw [if_pos h1, lookup]
    · rw [if_neg h1]
      by_cases h2 : k < key
      · rw [if_pos h2, lookup, lookup, ih]
        by_cases hk : key = key'
        · rw [if_pos hk, if_neg (hk ▸ h2.ne), if_pos hk]
        · rw [if_neg hk, if_neg hk]
      · obtain rfl : k = key := le_antisymm (not_lt.mp h1) (not_lt.mp h2)
        rw [if_neg h2, lookup, lookup]
        by_cases hk : k = key'
        · rw [if_pos hk, if_pos hk]
        · rw [if_neg hk, if_neg hk, if_neg hk]

theorem mem_of_lookup {key : K} (h : lookup key l = some value) : (key, value) ∈ l := by
  induction l with
  | nil => simp [lookup] at h
  | cons hd tl ih =>
    obtain ⟨k, v⟩ := hd
    rw [lookup] at h
    split_ifs at h with hk
    · cases h
      simp [hk]
    · exact List.mem_cons_of_mem _ (ih h)

theorem lookup_of_mem {key : K} (hl : l.Pairwise fun a b => a.1 < b.1) (h : (key, value) ∈ l) :
    lookup key l = some value := by
  induction l with
  | nil => simp at h
  | cons hd tl ih =>
    obtain ⟨k, v⟩ := hd
    obtain ⟨hhd, htl⟩ := List.pairwise_cons.mp hl
    rcases List.mem_cons.mp h with h | h
    · cases h
      simp [lookup]
    · have hne : k ≠ key := (hhd _ h).ne
      simp [lookup, hne, ih htl h]

theorem lookup_filter_key (p : K → Bool) (key : K) (l : List (K × V)) :
    lookup key (l.filter fun e => p e.1) = if p key then lookup key l else none := by
  induction l with
  | nil => simp [lookup]
  | cons hd tl ih =>
    obtain ⟨k, v⟩ := hd
    by_cases hk : k = key
    · subst hk
      by_cases hp : p k <;> simp [hp, lookup, ih]
    · by_cases hp : p k <;> simp [hp, lookup, hk, ih]

theorem lookup_map_snd (f : K → V → W) (key : K) (l : List (K × V)) :
    lookup key (l.map fun e => (e.1, f e.1 e.2)) = (lookup key l).map (f key) := by
  induction l with
  | nil => rfl
  | cons hd tl ih =>
    obtain ⟨k, v⟩ := hd
    by_cases hk : k = key
    · subst hk
      simp [lookup]
    · simp [lookup, hk, ih]

/-! ## Operations -/

/-- The empty map. -/
def empty : StdMap K V := ⟨[], .nil⟩

/-- The value stored at `key`. -/
def find? (m : StdMap K V) (key : K) : Option V := lookup key m.entries

/-- Whether `key` has an entry. -/
def contains (m : StdMap K V) (key : K) : Bool := (m.find? key).isSome

def insertOrAssign (m : StdMap K V) (key : K) (value : V) : StdMap K V :=
  ⟨insertEntry key value m.entries, sorted_insertEntry key value m.sorted⟩

def erase (m : StdMap K V) (key : K) : StdMap K V :=
  ⟨m.entries.filter fun e => e.1 ≠ key, m.sorted.filter _⟩

def size (m : StdMap K V) : Nat := m.entries.length

def isEmpty (m : StdMap K V) : Bool := m.entries.isEmpty

def keys (m : StdMap K V) : List K := m.entries.map Prod.fst

def values (m : StdMap K V) : List V := m.entries.map Prod.snd

/-- Every value replaced by `f` of its key and itself. -/
def mapValues (m : StdMap K V) (f : K → V → W) : StdMap K W :=
  ⟨m.entries.map fun e => (e.1, f e.1 e.2), by
    rw [List.pairwise_map]
    exact m.sorted⟩

/-- The map built by inserting the entries of a list from left to right. -/
def ofList (l : List (K × V)) : StdMap K V :=
  l.foldl (fun m e => m.insertOrAssign e.1 e.2) empty

/-! ## Lookup lemmas -/

@[simp] theorem find?_empty (key : K) : (empty : StdMap K V).find? key = none := rfl

theorem find?_insertOrAssign (m : StdMap K V) (key key' : K) (value : V) :
    (m.insertOrAssign key value).find? key' =
      if key = key' then some value else m.find? key' :=
  lookup_insertEntry key key' value m.entries

@[simp] theorem find?_insertOrAssign_self (m : StdMap K V) (key : K) (value : V) :
    (m.insertOrAssign key value).find? key = some value := by
  simp [find?_insertOrAssign]

theorem find?_insertOrAssign_ne (m : StdMap K V) {key key' : K} (value : V)
    (h : key ≠ key') : (m.insertOrAssign key value).find? key' = m.find? key' := by
  simp [find?_insertOrAssign, h]

theorem find?_erase (m : StdMap K V) (key key' : K) :
    (m.erase key).find? key' = if key' = key then none else m.find? key' := by
  have h := lookup_filter_key (fun k => decide (k ≠ key)) key' m.entries
  by_cases hk : key' = key <;> simpa [erase, find?, hk] using h

@[simp] theorem find?_mapValues (m : StdMap K V) (f : K → V → W) (key : K) :
    (m.mapValues f).find? key = (m.find? key).map (f key) :=
  lookup_map_snd f key m.entries

theorem mem_entries_iff {m : StdMap K V} {key : K} :
    (key, value) ∈ m.entries ↔ m.find? key = some value :=
  ⟨lookup_of_mem m.sorted, mem_of_lookup⟩

theorem mem_keys_iff {m : StdMap K V} {key : K} : key ∈ m.keys ↔ m.contains key = true := by
  rw [keys, contains, Option.isSome_iff_exists, List.mem_map]
  constructor
  · rintro ⟨⟨k, v⟩, hmem, rfl⟩
    exact ⟨v, mem_entries_iff.mp hmem⟩
  · rintro ⟨v, hv⟩
    exact ⟨(key, v), mem_entries_iff.mpr hv, rfl⟩

theorem mem_values_iff {m : StdMap K V} : value ∈ m.values ↔ ∃ key, m.find? key = some value := by
  rw [values, List.mem_map]
  constructor
  · rintro ⟨⟨k, v⟩, hmem, rfl⟩
    exact ⟨k, mem_entries_iff.mp hmem⟩
  · rintro ⟨key, hv⟩
    exact ⟨(key, value), mem_entries_iff.mpr hv, rfl⟩

/-- A scan of the values finds what a lookup finds. -/
theorem exists_mem_values {m : StdMap K V} {p : V → Prop} :
    (∃ value ∈ m.values, p value) ↔ ∃ key value, m.find? key = some value ∧ p value := by
  simp only [mem_values_iff]
  constructor
  · rintro ⟨value, ⟨key, hfind⟩, hp⟩
    exact ⟨key, value, hfind, hp⟩
  · rintro ⟨key, value, hfind, hp⟩
    exact ⟨value, ⟨key, hfind⟩, hp⟩

/-- Maps with the same lookups are equal: two strictly sorted entry lists with
the same members coincide. -/
theorem ext_find? {m m' : StdMap K V} (h : ∀ key, m.find? key = m'.find? key) : m = m' := by
  have hperm : m.entries.Perm m'.entries := by
    refine (List.perm_ext_iff_of_nodup ?_ ?_).mpr ?_
    · exact m.sorted.imp fun hab hEq => (hEq ▸ hab).false
    · exact m'.sorted.imp fun hab hEq => (hEq ▸ hab).false
    · rintro ⟨k, v⟩
      rw [mem_entries_iff, mem_entries_iff, h]
  have hentries : m.entries = m'.entries :=
    hperm.eq_of_pairwise (fun a b _ _ hab hba => absurd hab (not_lt.mpr hba.le)) m.sorted m'.sorted
  cases m
  cases m'
  cases hentries
  rfl

/-- Nothing is found in an empty map. -/
theorem find?_ne_some {m : StdMap K V} (h : m.isEmpty = true) (key : K) (value : V) :
    m.find? key ≠ some value := by
  rw [find?, List.isEmpty_iff.mp h, lookup]
  exact Option.some_ne_none value |>.symm

theorem isEmpty_iff {m : StdMap K V} : m.isEmpty = true ↔ ∀ key, m.find? key = none := by
  rw [isEmpty, List.isEmpty_iff]
  constructor
  · intro h key
    rw [find?, h, lookup]
  · intro h
    rw [List.eq_nil_iff_forall_not_mem]
    rintro ⟨k, v⟩ hmem
    rw [mem_entries_iff, h] at hmem
    cases hmem

@[simp] theorem size_mapValues (m : StdMap K V) (f : K → V → W) :
    (m.mapValues f).size = m.size := by
  simp [size, mapValues]

/-- Rewrites the selected values. -/
def updateWhere (m : StdMap K V) (select : V → Bool) (f : V → V) : StdMap K V :=
  m.mapValues fun _ v => if select v then f v else v

@[simp] theorem find?_updateWhere (m : StdMap K V) (select : V → Bool) (f : V → V) (key : K) :
    (m.updateWhere select f).find? key =
      (m.find? key).map fun v => if select v then f v else v :=
  find?_mapValues m _ key

@[simp] theorem isEmpty_mapValues (m : StdMap K V) (f : K → V → W) :
    (m.mapValues f).isEmpty = m.isEmpty := by
  simp [isEmpty, mapValues]

theorem keys_sorted (m : StdMap K V) : m.keys.Pairwise (· < ·) := by
  rw [keys, List.pairwise_map]
  exact m.sorted

/-- Maps with the same keys have the same size. -/
theorem size_eq_of_contains {m : StdMap K V} {m' : StdMap K W}
    (h : ∀ key, m.contains key = true ↔ m'.contains key = true) : m.size = m'.size := by
  have hperm : m.keys.Perm m'.keys := by
    refine (List.perm_ext_iff_of_nodup ?_ ?_).mpr fun key => ?_
    · exact m.keys_sorted.imp fun hab => hab.ne
    · exact m'.keys_sorted.imp fun hab => hab.ne
    · rw [mem_keys_iff, mem_keys_iff, h]
  have hlength := hperm.length_eq
  rwa [keys, keys, List.length_map, List.length_map] at hlength

theorem length_insertEntry_le (key : K) (value : V) (l : List (K × V)) :
    (insertEntry key value l).length ≤ l.length + 1 := by
  induction l with
  | nil => simp [insertEntry]
  | cons hd tl ih =>
    rw [insertEntry]
    split_ifs
    · simp
    · simpa using ih
    · simp

/-- A write within a limit on new keys keeps the size within a bound of the limit. -/
theorem size_insertOrAssign_le {m : StdMap K V} {key : K} {limit bound : Nat}
    (hsize : m.size ≤ bound) (hroom : m.find? key = none → m.size < limit)
    (hlimit : limit ≤ bound) (value : V) : (m.insertOrAssign key value).size ≤ bound := by
  cases hfind : m.find? key with
  | none =>
    have hlength : (m.insertOrAssign key value).size ≤ m.size + 1 :=
      length_insertEntry_le key value m.entries
    have hlt := hroom hfind
    omega
  | some old =>
    have hsame : (m.insertOrAssign key value).size = m.size := by
      refine size_eq_of_contains fun key' => ?_
      rw [contains, contains, find?_insertOrAssign]
      split_ifs with hkey
      · simp [← hkey, hfind]
      · rfl
    omega

theorem size_erase_le (m : StdMap K V) (key : K) : (m.erase key).size ≤ m.size :=
  List.length_filter_le _ _

/-! ## Writes that restore an earlier value -/

theorem insertOrAssign_of_find? {m : StdMap K V} {key : K} (h : m.find? key = some value) :
    m.insertOrAssign key value = m := by
  refine ext_find? fun key' => ?_
  rw [find?_insertOrAssign]
  split_ifs with hk
  · rw [← hk, h]
  · rfl

theorem erase_of_find?_none {m : StdMap K V} {key : K} (h : m.find? key = none) :
    m.erase key = m := by
  refine ext_find? fun key' => ?_
  rw [find?_erase]
  split_ifs with hk
  · rw [hk, h]
  · rfl

theorem insertOrAssign_insertOrAssign (m : StdMap K V) (key : K) (v v' : V) :
    (m.insertOrAssign key v).insertOrAssign key v' = m.insertOrAssign key v' := by
  refine ext_find? fun key' => ?_
  simp only [find?_insertOrAssign]
  split_ifs <;> rfl

theorem insertOrAssign_erase (m : StdMap K V) (key : K) (v : V) :
    (m.erase key).insertOrAssign key v = m.insertOrAssign key v := by
  refine ext_find? fun key' => ?_
  simp only [find?_insertOrAssign, find?_erase]
  split_ifs with h1 h2
  · rfl
  · exact absurd h2.symm h1
  · rfl

theorem erase_insertOrAssign (m : StdMap K V) (key : K) (v : V) :
    (m.insertOrAssign key v).erase key = m.erase key := by
  refine ext_find? fun key' => ?_
  simp only [find?_insertOrAssign, find?_erase]
  split_ifs with h1 h2
  · rfl
  · exact absurd h2.symm h1
  · rfl

/-- Puts back what `key` held: its value, or no entry. -/
def putBack (m : StdMap K V) (key : K) (previous : Option V) : StdMap K V :=
  match previous with
  | none => m.erase key
  | some value => m.insertOrAssign key value

@[simp] theorem putBack_insertOrAssign (m : StdMap K V) (key : K) (value : V) :
    (m.insertOrAssign key value).putBack key (m.find? key) = m := by
  cases h : m.find? key with
  | none => exact (erase_insertOrAssign m key value).trans (erase_of_find?_none h)
  | some old =>
    exact (insertOrAssign_insertOrAssign m key value old).trans (insertOrAssign_of_find? h)

@[simp] theorem putBack_erase (m : StdMap K V) (key : K) :
    (m.erase key).putBack key (m.find? key) = m := by
  cases h : m.find? key with
  | none =>
    rw [erase_of_find?_none h]
    exact erase_of_find?_none h
  | some old => exact (insertOrAssign_erase m key old).trans (insertOrAssign_of_find? h)

/-! ## Rebuilding a map from its entries -/

theorem find?_foldl_insertOrAssign (l : List (K × V)) (m : StdMap K V) (key : K)
    (hl : l.Pairwise fun a b => a.1 ≠ b.1) :
    (l.foldl (fun m e => m.insertOrAssign e.1 e.2) m).find? key =
      (lookup key l).or (m.find? key) := by
  induction l generalizing m with
  | nil => simp [lookup]
  | cons hd tl ih =>
    obtain ⟨k, v⟩ := hd
    obtain ⟨hhd, htl⟩ := List.pairwise_cons.mp hl
    rw [List.foldl_cons, ih _ htl, find?_insertOrAssign]
    by_cases hk : k = key
    · subst hk
      have hnone : lookup k tl = none := by
        cases hlk : lookup k tl with
        | none => rfl
        | some w => exact absurd rfl (hhd (k, w) (mem_of_lookup hlk))
      simp [lookup, hnone]
    · simp [lookup, hk]

/-- Inserting strictly sorted entries into the empty map keeps them as they
are. -/
theorem entries_ofList (hl : l.Pairwise fun a b => a.1 < b.1) : (ofList l).entries = l := by
  have heq : ofList l = ⟨l, hl⟩ := by
    refine ext_find? fun key => ?_
    rw [ofList, find?_foldl_insertOrAssign l _ _ (hl.imp fun h => h.ne), find?_empty,
      Option.or_none]
    rfl
  rw [heq]

/-- Entering entries adds nothing that is not among them. -/
theorem mem_of_find?_ofList {key : K} (h : (ofList l).find? key = some value) :
    (key, value) ∈ l := by
  have hfold : ∀ (l : List (K × V)) (m : StdMap K V),
      (l.foldl (fun m e => m.insertOrAssign e.1 e.2) m).find? key = some value →
      m.find? key = some value ∨ (key, value) ∈ l := by
    intro l
    induction l with
    | nil => exact fun m h => .inl h
    | cons e l ih =>
      intro m h
      rcases ih _ h with h | h
      · rw [find?_insertOrAssign] at h
        split_ifs at h with hkey
        · obtain rfl := Option.some.inj h
          exact .inr (by simp [← hkey])
        · exact .inl h
      · exact .inr (List.mem_cons_of_mem _ h)
  exact (hfold l _ h).resolve_left (by simp)

/-- Strictly increasing keys are all found again. -/
theorem find?_ofList_map {α : Type} {key : α → K} {l : List α}
    (hl : l.Pairwise fun a b => key a < key b) (f : α → V) {a : α} (ha : a ∈ l) :
    (ofList (l.map fun a => (key a, f a))).find? (key a) = some (f a) := by
  rw [← mem_entries_iff, entries_ofList (List.pairwise_map.mpr hl)]
  exact List.mem_map.mpr ⟨a, ha, rfl⟩

/-- A map listed and entered again is the map, its values rewritten on the way. -/
theorem ofList_map_entries (m : StdMap K V) (f : K → V → W) :
    ofList (m.entries.map fun e => (e.1, f e.1 e.2)) = m.mapValues f := by
  have hsorted : (m.entries.map fun e => (e.1, f e.1 e.2)).Pairwise fun a b => a.1 < b.1 :=
    List.pairwise_map.mpr m.sorted
  cases hlist : ofList (m.entries.map fun e => (e.1, f e.1 e.2)) with
  | mk entries sorted =>
    have hentries := entries_ofList hsorted
    rw [hlist] at hentries
    subst hentries
    rfl

/-- The values of a map that carry their key, entered again by it. -/
theorem ofList_map_values {m : StdMap K V} {key : V → K}
    (hkey : ∀ k v, m.find? k = some v → key v = k) (f : V → W) :
    ofList (m.values.map fun v => (key v, f v)) = m.mapValues fun _ v => f v := by
  rw [← ofList_map_entries, values, List.map_map]
  refine congrArg ofList (List.map_congr_left fun e he => ?_)
  have hfind := hkey e.1 e.2 (mem_entries_iff.mp he)
  simp [hfind]

/-- A list collected from the entries is empty when every entry adds nothing. -/
theorem flatMap_entries_eq_nil {m : StdMap K V} {f : K × V → List W} :
    m.entries.flatMap f = [] ↔ ∀ key value, m.find? key = some value → f (key, value) = [] := by
  rw [List.flatMap_eq_nil_iff]
  constructor
  · intro h key value hfind
    exact h _ (mem_entries_iff.mpr hfind)
  · rintro h ⟨key, value⟩ hmem
    exact h key value (mem_entries_iff.mp hmem)

/-- Folding over entries of distinct keys rewrites exactly those keys. -/
theorem find?_foldl_rewrite (p : K → V → Bool) (f : K → V → V)
    (hl : l.Pairwise fun a b => a.1 < b.1) (acc : StdMap K V) (key : K) :
    (l.foldl (fun acc e => if p e.1 e.2 then acc.insertOrAssign e.1 (f e.1 e.2) else acc)
        acc).find? key =
      match lookup key l with
      | some v => if p key v then some (f key v) else acc.find? key
      | none => acc.find? key := by
  induction l generalizing acc with
  | nil => rfl
  | cons hd tl ih =>
    obtain ⟨k, v⟩ := hd
    obtain ⟨hhd, htl⟩ := List.pairwise_cons.mp hl
    rw [List.foldl_cons, ih htl]
    by_cases hk : k = key
    · subst hk
      have hnone : lookup k tl = none := by
        cases hlk : lookup k tl with
        | none => rfl
        | some w => exact absurd (hhd _ (mem_of_lookup hlk)) (lt_irrefl k)
      by_cases hp : p k v <;> simp [lookup, hnone, hp]
    · have hfind : (if p k v then acc.insertOrAssign k (f k v) else acc).find? key =
          acc.find? key := by
        split_ifs
        · exact find?_insertOrAssign_ne _ _ hk
        · rfl
      simp only [hfind, lookup, hk, if_false]

/-- Rewriting the selected entries of a map one after the other, in iteration
order, is a pointwise rewrite. -/
theorem foldl_rewrite (p : K → V → Bool) (f : K → V → V) (m : StdMap K V) :
    m.entries.foldl (fun acc e => if p e.1 e.2 then acc.insertOrAssign e.1 (f e.1 e.2) else acc) m =
      m.mapValues fun k v => if p k v then f k v else v := by
  refine ext_find? fun key => ?_
  have hlookup : lookup key m.entries = m.find? key := rfl
  rw [find?_foldl_rewrite p f m.sorted, find?_mapValues, hlookup]
  cases m.find? key with
  | none => rfl
  | some v => by_cases hp : p key v <;> simp [hp]

/-! ## Pointwise rewriting -/

/-- `m'` is `m` with every value rewritten within `R`. -/
def Rewrites (R : K → V → V → Prop) (m m' : StdMap K V) : Prop :=
  ∃ f : K → V → V, m' = m.mapValues f ∧ ∀ key value, R key value (f key value)

namespace Rewrites

variable {R : K → V → V → Prop} {m m' : StdMap K V}

theorem refl (hR : ∀ key value, R key value value) : Rewrites R m m := by
  refine ⟨fun _ value => value, ext_find? fun key => ?_, hR⟩
  rw [find?_mapValues, Option.map_id_fun', id]

theorem updateWhere (select : V → Bool) (hkeep : ∀ key value, R key value value)
    (hf : ∀ key value, R key value (f value)) : Rewrites R m (m.updateWhere select f) := by
  refine ⟨_, rfl, fun key value => ?_⟩
  split_ifs
  · exact hf key value
  · exact hkeep key value

theorem find? (h : Rewrites R m m') {key : K} {value' : V} (hfind : m'.find? key = some value') :
    ∃ value, m.find? key = some value ∧ R key value value' := by
  obtain ⟨f, rfl, hf⟩ := h
  rw [find?_mapValues, Option.map_eq_some_iff] at hfind
  obtain ⟨value, hfind, rfl⟩ := hfind
  exact ⟨value, hfind, hf key value⟩

/-- What rewriting keeps of each value, it keeps of a lookup. -/
theorem map_find? (h : Rewrites R m m') {proj : V → W}
    (hproj : ∀ {key value value'}, R key value value' → proj value' = proj value) (key : K) :
    (m'.find? key).map proj = (m.find? key).map proj := by
  obtain ⟨f, rfl, hf⟩ := h
  rw [find?_mapValues, Option.map_map]
  cases m.find? key with
  | none => rfl
  | some value => exact congrArg some (hproj (hf key value))

theorem size_eq (h : Rewrites R m m') : m'.size = m.size := by
  obtain ⟨f, rfl, -⟩ := h
  exact size_mapValues m f

theorem contains_eq (h : Rewrites R m m') (key : K) : m'.contains key = m.contains key := by
  obtain ⟨f, rfl, -⟩ := h
  rw [contains, find?_mapValues, Option.isSome_map]
  rfl

theorem isEmpty_eq (h : Rewrites R m m') : m'.isEmpty = m.isEmpty := by
  obtain ⟨f, rfl, -⟩ := h
  exact isEmpty_mapValues m f

/-- Assigning over an entry rewrites it. -/
theorem insertOrAssign {key : K} (hfind : m.find? key = some value)
    (hkeep : ∀ key value, R key value value) (hf : ∀ value, R key value (f value)) :
    Rewrites R m (m.insertOrAssign key (f value)) := by
  refine ⟨fun key' value' => if key = key' then f value' else value', ext_find? fun key' => ?_,
    fun key' value' => ?_⟩
  · rw [find?_insertOrAssign, find?_mapValues]
    split_ifs with hkey
    · subst hkey
      rw [hfind]
      rfl
    · rw [Option.map_id_fun', id]
  · dsimp only
    split_ifs with hkey
    · subst hkey
      exact hf value'
    · exact hkeep key' value'

/-- What rewriting cannot make true is true of no more values. -/
theorem countP_values_le (h : Rewrites R m m') {p : V → Bool}
    (hp : ∀ {key value value'}, R key value value' → p value' = true → p value = true) :
    m'.values.countP p ≤ m.values.countP p := by
  obtain ⟨f, rfl, hf⟩ := h
  simp only [values, mapValues, List.map_map, List.countP_map]
  exact List.countP_mono_left fun e _ => hp (hf e.1 e.2)

end Rewrites

/-! ## Properties of every entry -/

/-- Every entry of `m` has the property `P`. -/
def All (P : K → V → Prop) (m : StdMap K V) : Prop :=
  ∀ key value, m.find? key = some value → P key value

namespace All

variable {P : K → V → Prop} {m : StdMap K V}

theorem empty : All P (StdMap.empty : StdMap K V) := by
  intro key value hfind
  rw [find?_empty] at hfind
  cases hfind

theorem insertOrAssign (h : All P m) {key : K} (hvalue : P key value) :
    All P (m.insertOrAssign key value) := by
  intro key' value' hfind
  rw [find?_insertOrAssign] at hfind
  split_ifs at hfind with hkey
  · subst hkey
    obtain rfl := Option.some.inj hfind
    exact hvalue
  · exact h key' value' hfind

theorem erase (h : All P m) (key : K) : All P (m.erase key) := by
  intro key' value hfind
  rw [find?_erase] at hfind
  split_ifs at hfind with hkey
  exact h key' value hfind

theorem mapValues {Q : K → W → Prop} {f : K → V → W} (h : All P m)
    (hf : ∀ key value, P key value → Q key (f key value)) : All Q (m.mapValues f) := by
  intro key value' hfind
  rw [find?_mapValues, Option.map_eq_some_iff] at hfind
  obtain ⟨value, hfind, rfl⟩ := hfind
  exact hf key value (h key value hfind)

theorem updateWhere (h : All P m) (select : V → Bool)
    (hf : ∀ key value, P key value → P key (f value)) : All P (m.updateWhere select f) := by
  refine h.mapValues fun key value hvalue => ?_
  split_ifs
  · exact hf key value hvalue
  · exact hvalue

/-- What every entry has that was entered under increasing keys. -/
theorem ofList_map_iff {α : Type} {key : α → K} {l : List α} {f : α → V}
    (hl : l.Pairwise fun a b => key a < key b) :
    All P (ofList (l.map fun a => (key a, f a))) ↔ ∀ a ∈ l, P (key a) (f a) := by
  constructor
  · intro h a ha
    exact h (key a) (f a) (find?_ofList_map hl f ha)
  · intro h k v hfind
    obtain ⟨a, ha, heq⟩ := List.mem_map.mp (mem_of_find?_ofList hfind)
    obtain ⟨rfl, rfl⟩ := Prod.mk.inj heq
    exact h a ha

/-- What is entered anew from the values of a map keeps what they have. -/
theorem ofList_values {K' W' : Type} [LinearOrder K'] {Q : K' → W' → Prop} {key : V → K'}
    {f : V → W'} (h : All P m) (hf : ∀ k value, P k value → Q (key value) (f value)) :
    All Q (ofList (m.values.map fun value => (key value, f value))) := by
  intro k w hfind
  obtain ⟨value, hvalue, heq⟩ := List.mem_map.mp (mem_of_find?_ofList hfind)
  obtain ⟨hkey, hvalue'⟩ := Prod.mk.inj heq
  obtain ⟨k', hfind'⟩ := mem_values_iff.mp hvalue
  exact hkey ▸ hvalue' ▸ hf k' value (h k' value hfind')

theorem of_mem_values (h : All P m) (hvalue : value ∈ m.values) :
    ∃ key, m.find? key = some value ∧ P key value := by
  obtain ⟨key, hfind⟩ := mem_values_iff.mp hvalue
  exact ⟨key, hfind, h key value hfind⟩

end All

section Keyed

variable {m : StdMap K V} {key : V → K}

/-- The values of a map that is keyed by a field carry its keys. -/
theorem map_values_of_keyed (h : m.All fun k value => key value = k) :
    m.values.map key = m.keys := by
  rw [values, keys, List.map_map]
  refine List.map_congr_left fun entry hentry => ?_
  exact h entry.1 entry.2 (mem_entries_iff.mp hentry)

theorem values_sorted (h : m.All fun k value => key value = k) :
    m.values.Pairwise fun a b => key a < key b := by
  have hkeys := m.keys_sorted
  rwa [← map_values_of_keyed h, List.pairwise_map] at hkeys

end Keyed

/-! ## Growth -/

/-- Every key of `m` is one of `m'`, and its value moved within `R`. -/
def Extends (R : K → V → V → Prop) (m m' : StdMap K V) : Prop :=
  ∀ key value, m.find? key = some value → ∃ value', m'.find? key = some value' ∧ R key value value'

namespace Extends

variable {R : K → V → V → Prop} {m m' m'' : StdMap K V}

theorem refl (hR : ∀ key value, R key value value) : Extends R m m :=
  fun key value hfind => ⟨value, hfind, hR key value⟩

theorem trans {R' R'' : K → V → V → Prop}
    (hR : ∀ {key v v' v''}, R key v v' → R' key v' v'' → R'' key v v'')
    (h : Extends R m m') (h' : Extends R' m' m'') : Extends R'' m m'' := by
  intro key value hfind
  obtain ⟨value', hfind', hvalue⟩ := h key value hfind
  obtain ⟨value'', hfind'', hvalue'⟩ := h' key value' hfind'
  exact ⟨value'', hfind'', hR hvalue hvalue'⟩

theorem insertOrAssign (hR : ∀ key value, R key value value) {key : K}
    (h : ∀ old, m.find? key = some old → R key old value) :
    Extends R m (m.insertOrAssign key value) := by
  intro key' old hfind
  rw [find?_insertOrAssign]
  split_ifs with hkey
  · subst hkey
    exact ⟨value, rfl, h old hfind⟩
  · exact ⟨old, hfind, hR key' old⟩

end Extends

theorem Rewrites.extends {R : K → V → V → Prop} {m m' : StdMap K V} (h : Rewrites R m m') :
    Extends R m m' := by
  obtain ⟨f, rfl, hf⟩ := h
  intro key value hfind
  exact ⟨f key value, by rw [find?_mapValues, hfind]; rfl, hf key value⟩

/-! ## Writes -/

/-- Every entry of `m'` is the one of `m` or one that `W` writes over it. -/
def Writes (W : K → Option V → Option V → Prop) (m m' : StdMap K V) : Prop :=
  ∀ key, m'.find? key = m.find? key ∨ W key (m.find? key) (m'.find? key)

namespace Writes

variable {W : K → Option V → Option V → Prop} {m m' : StdMap K V}

theorem refl : Writes W m m := fun _ => .inl rfl

theorem insertOrAssign {key : K} (h : W key (m.find? key) (some value)) :
    Writes W m (m.insertOrAssign key value) := by
  intro key'
  rw [find?_insertOrAssign]
  split_ifs with hkey
  · subst hkey
    exact .inr h
  · exact .inl rfl

theorem erase {key : K} (h : W key (m.find? key) none) : Writes W m (m.erase key) := by
  intro key'
  rw [find?_erase]
  split_ifs with hkey
  · subst hkey
    exact .inr h
  · exact .inl rfl

theorem updateWhere {select : V → Bool}
    (h : ∀ key value, select value = true → W key (some value) (some (f value))) :
    Writes W m (m.updateWhere select f) := by
  intro key
  rw [find?_updateWhere]
  cases m.find? key with
  | none => exact .inl rfl
  | some value =>
    rw [Option.map_some]
    split_ifs with hselect
    · exact .inr (h key value hselect)
    · exact .inl rfl

/-- What writes establish from what they overwrite holds of every entry. -/
theorem all {P : K → V → Prop} (hwrites : Writes W m m') (h : All P m)
    (hW : ∀ key old value, m.find? key = old → W key old (some value) →
      (∀ v, old = some v → P key v) → P key value) : All P m' := by
  intro key value hfind
  rcases hwrites key with hsame | hwritten
  · exact h key value (hsame.symm.trans hfind)
  · rw [hfind] at hwritten
    exact hW key _ value rfl hwritten fun v hv => h key v hv

end Writes

/-- Writes that replace each value within `R` extend the map. -/
theorem Writes.extends {R : K → V → V → Prop} {W : K → Option V → Option V → Prop}
    {m m' : StdMap K V} (hwrites : Writes W m m')
    (hR : ∀ key value, R key value value)
    (hW : ∀ key old new, m.find? key = some old → W key (some old) new →
      ∃ value, new = some value ∧ R key old value) : Extends R m m' := by
  intro key old hfind
  rcases hwrites key with hsame | hwritten
  · exact ⟨old, hsame.trans hfind, hR key old⟩
  · rw [hfind] at hwritten
    exact hW key old _ hfind hwritten

/-! ## Attribution -/

/-- The keys whose entry was last changed by one writer, after a change from `m` to
`m'` that is theirs or another's. -/
def lastWritten (theirs : Bool) (m m' : StdMap K V) [DecidableEq V] (last : K → Bool) (key : K) :
    Bool :=
  if m'.find? key = m.find? key then last key else theirs

/-- What the attributed entries have is kept when the writer's changes have it. -/
theorem of_lastWritten [DecidableEq V] {P : K → V → Prop} {m m' : StdMap K V} {theirs : Bool}
    {last : K → Bool} (h : ∀ key value, last key = true → m.find? key = some value → P key value)
    (hchange : theirs = true → ∀ key value, m'.find? key = some value → m'.find? key ≠ m.find? key →
      P key value) :
    ∀ key value, lastWritten theirs m m' last key = true → m'.find? key = some value →
      P key value := by
  intro key value hlast hfind
  unfold lastWritten at hlast
  split_ifs at hlast with hsame
  · exact h key value hlast (hsame.symm.trans hfind)
  · exact hchange hlast key value hfind hsame

/-! ## Maps of lists -/

/-- Appends a value to the list at `key`, which is created when absent. -/
def pushBack (m : StdMap K (List V)) (key : K) (value : V) : StdMap K (List V) :=
  m.insertOrAssign key ((m.find? key).getD [] ++ [value])

/-- The list at `key`, empty when there is none. -/
def listAt (m : StdMap K (List V)) (key : K) : List V := (m.find? key).getD []

/-- The map of lists that collects the pairs of a list by their first component. -/
def pushAll (l : List (K × V)) : StdMap K (List V) :=
  l.foldl (fun m e => m.pushBack e.1 e.2) empty

theorem listAt_pushBack (m : StdMap K (List V)) (key key' : K) (value : V) :
    (m.pushBack key value).listAt key' =
      m.listAt key' ++ if key = key' then [value] else [] := by
  unfold pushBack listAt
  rw [find?_insertOrAssign]
  split_ifs with h
  · rw [h, Option.getD_some]
  · rw [List.append_nil]

/-- A collected list holds the values of its key, in their order. -/
theorem listAt_pushAll (l : List (K × V)) (key : K) :
    (pushAll l).listAt key = (l.filter fun e => e.1 = key).map Prod.snd := by
  have hfold : ∀ (l : List (K × V)) (m : StdMap K (List V)),
      (l.foldl (fun m e => m.pushBack e.1 e.2) m).listAt key =
        m.listAt key ++ (l.filter fun e => e.1 = key).map Prod.snd := by
    intro l
    induction l with
    | nil => intro m; simp
    | cons e l ih =>
      intro m
      rw [List.foldl_cons, ih, listAt_pushBack, List.append_assoc]
      by_cases h : e.1 = key <;> simp [h]
  exact hfold l empty

theorem listAt_mapValues (m : StdMap K (List V)) {f : K → List V → List W}
    (hf : ∀ key, f key [] = []) (key : K) :
    (m.mapValues f).listAt key = f key (m.listAt key) := by
  unfold listAt
  rw [find?_mapValues]
  cases m.find? key with
  | none => exact (hf key).symm
  | some l => rfl

/-! ## Scans -/

/-- The keys of the entries whose value is selected, as the loop over the map
meets them. -/
theorem sortedScan_filter (m : StdMap K V) (select : V → Bool) :
    SortedScan (fun key => ∃ value, m.find? key = some value ∧ select value = true)
      ((m.entries.filter fun e => select e.2).map Prod.fst) where
  sorted := List.pairwise_map.mpr (m.sorted.filter _)
  mem := fun key => by
    simp only [List.mem_map, List.mem_filter, Prod.exists, exists_and_right, exists_eq_right,
      mem_entries_iff]

/-- The keys that a loop over the map collects by an attribute of the values. -/
theorem sortedScan_pushAll {K' : Type} [LinearOrder K'] (m : StdMap K V) (keyOf : V → K')
    (wanted : K') :
    SortedScan (fun key => ∃ value, m.find? key = some value ∧ keyOf value = wanted)
      ((pushAll (m.entries.map fun e => (keyOf e.2, e.1))).listAt wanted) := by
  have hscan := m.sortedScan_filter fun value => decide (keyOf value = wanted)
  simp only [decide_eq_true_eq] at hscan
  rw [listAt_pushAll, List.filter_map, List.map_map]
  exact hscan

end StdMap

end Lib
