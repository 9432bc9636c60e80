import Mathlib.Data.List.Nodup

/-! Go's built-in `map[K]V`, as the cluster code uses it: `make`, the lookup
`v, ok := m[k]`, the write `m[k] = v`, `delete(m, k)` and `range`. A map is a
list of entries whose keys are distinct, so a map with a repeated key cannot be
built. Go's `range` visits the entries in no fixed order; here it visits them in
the order of `entries`. -/

namespace Go

/-- A Go `map[K]V`: its entries, with distinct keys. -/
structure Map (K V : Type) [DecidableEq K] where
  entries : List (K × V)
  nodup : (entries.map Prod.fst).Nodup

namespace Map
variable {K V : Type} [DecidableEq K]

/-- `make(map[K]V)`. -/
def empty : Map K V := ⟨[], List.nodup_nil⟩

/-- The value `m[k]` holds, if any: `v, ok := m[k]`. -/
def get? (m : Map K V) (k : K) : Option V := m.entries.lookup k

/-- The keys, in the order `range` visits them. -/
def keys (m : Map K V) : List K := m.entries.map Prod.fst

/-- The values, in the order `range` visits them. -/
def values (m : Map K V) : List V := m.entries.map Prod.snd

/-- `delete(m, k)`. -/
def erase (m : Map K V) (k : K) : Map K V :=
  ⟨m.entries.filter (·.1 != k), m.nodup.sublist ((List.filter_sublist _).map _)⟩

theorem not_mem_keys_erase (m : Map K V) (k : K) : k ∉ (m.erase k).entries.map Prod.fst := by
  simp [erase]

/-- `m[k] = v`: the entry for `k` is replaced. -/
def insert (m : Map K V) (k : K) (v : V) : Map K V :=
  ⟨(m.erase k).entries ++ [(k, v)], by
    rw [List.map_append, List.nodup_append]
    exact ⟨(m.erase k).nodup, List.nodup_singleton _, by
      simpa [List.disjoint_singleton] using m.not_mem_keys_erase k⟩⟩

theorem lookup_filter_self (l : List (K × V)) (k : K) :
    (l.filter (·.1 != k)).lookup k = none := by
  simpa using fun a _ _ h => h ∘ Eq.symm

theorem lookup_filter_ne (l : List (K × V)) {k k' : K} (h : k' ≠ k) :
    (l.filter (·.1 != k)).lookup k' = l.lookup k' := by
  induction l with
  | nil => rfl
  | cons e l ih =>
    obtain ⟨a, b⟩ := e
    by_cases ha : a = k
    · subst ha
      simp [List.filter_cons, ih, List.lookup_cons, beq_false_of_ne h]
    · simp [List.filter_cons, ha, List.lookup_cons, ih]

variable (m : Map K V) (k : K) (v : V)

theorem mem_of_mem_erase {e : K × V} (h : e ∈ (m.erase k).entries) : e ∈ m.entries :=
  List.mem_of_mem_filter h

theorem mem_insert {e : K × V} : e ∈ (m.insert k v).entries ↔ e ∈ (m.erase k).entries ∨ e = (k, v) := by
  simp [insert]

@[simp] theorem get?_empty : (empty : Map K V).get? k = none := rfl

@[simp] theorem get?_erase_self : (m.erase k).get? k = none := lookup_filter_self _ _

theorem get?_erase_ne {k' : K} (h : k' ≠ k) : (m.erase k).get? k' = m.get? k' :=
  lookup_filter_ne _ h

@[simp] theorem get?_insert_self : (m.insert k v).get? k = some v := by
  have := get?_erase_self m k
  simp only [get?] at this
  simp [insert, get?, List.lookup_append, this]

theorem get?_insert_ne {k' : K} (h : k' ≠ k) : (m.insert k v).get? k' = m.get? k' := by
  have := get?_erase_ne m k h
  simp only [get?] at this
  simp [insert, get?, List.lookup_append, this, List.lookup_cons, beq_false_of_ne h]

/-- A lookup after `m[k] = v`, at any key. -/
theorem get?_insert (k' : K) : (m.insert k v).get? k' = if k' = k then some v else m.get? k' := by
  split_ifs with h
  · subst h; exact get?_insert_self m k' v
  · exact get?_insert_ne m k v h

/-- A lookup after `delete(m, k)`, at any key. -/
theorem get?_erase (k' : K) : (m.erase k).get? k' = if k' = k then none else m.get? k' := by
  split_ifs with h
  · subst h; exact get?_erase_self m k'
  · exact get?_erase_ne m k h

theorem erase_of_get?_eq_none (h : m.get? k = none) : (m.erase k).entries = m.entries := by
  simp only [get?, List.lookup_eq_none_iff] at h
  exact List.filter_eq_self.mpr fun e he => by
    simpa [bne_iff_ne, ne_comm] using h e he

/-- A map holds `v` at `k` exactly when `(k, v)` is one of its entries: keys
are distinct. -/
theorem get?_eq_some_iff {k : K} {v : V} : m.get? k = some v ↔ (k, v) ∈ m.entries := by
  constructor
  · intro h
    obtain ⟨l₁, l₂, he, -⟩ := List.lookup_eq_some_iff.mp h
    rw [he]; exact List.mem_append_right _ (List.mem_cons_self _ _)
  · intro h
    obtain ⟨l₁, l₂, he⟩ := List.append_of_mem h
    have hnd := m.nodup
    rw [he, List.map_append, List.map_cons, List.nodup_append] at hnd
    refine List.lookup_eq_some_iff.mpr ⟨l₁, l₂, he, fun p hp => ?_⟩
    have : k ∉ l₁.map Prod.fst := fun hk => hnd.2.2 hk (List.mem_cons_self _ _)
    rw [bne_iff_ne]
    rintro rfl
    exact this (List.mem_map_of_mem _ hp)

/-- `range` visits only values the map holds at some key. -/
theorem mem_values {v : V} (h : v ∈ m.values) : ∃ k, m.get? k = some v := by
  obtain ⟨⟨k, v⟩, he, rfl⟩ := List.mem_map.1 h
  exact ⟨k, (get?_eq_some_iff m).2 he⟩

end Map

end Go
