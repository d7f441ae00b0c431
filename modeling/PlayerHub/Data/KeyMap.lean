import PlayerHub.Data.Lookup

namespace PlayerHub

/-- A finite map from keys to values. What an operation does is said by what it does to look-ups;
the order of the entries means nothing. -/
structure KeyMap (κ ν : Type) where
  entries : List (κ × ν)
  nodup : (entries.map (·.1)).Nodup
deriving DecidableEq, Repr

namespace KeyMap

variable {κ ν μ : Type}

/-- The map without entries. -/
def empty : KeyMap κ ν := ⟨[], List.nodup_nil⟩

instance : EmptyCollection (KeyMap κ ν) where
  emptyCollection := empty

instance : Inhabited (KeyMap κ ν) := ⟨empty⟩

/-- The number of keys. -/
def size (m : KeyMap κ ν) : Nat := m.entries.length

/-- Whether there is no key. -/
def isEmpty (m : KeyMap κ ν) : Bool := m.entries.isEmpty

/-- The entries that satisfy a condition. -/
def filter (p : κ → ν → Bool) (m : KeyMap κ ν) : KeyMap κ ν where
  entries := m.entries.filter fun e => p e.1 e.2
  nodup := m.nodup.sublist (List.filter_sublist.map _)

/-- The map with every value replaced by its image. -/
def map (f : κ → ν → μ) (m : KeyMap κ ν) : KeyMap κ μ where
  entries := m.entries.map fun e => (e.1, f e.1 e.2)
  nodup := by simpa only [List.map_map, Function.comp_def] using m.nodup

variable [DecidableEq κ]

/-- The value of a key. -/
def get? (m : KeyMap κ ν) (k : κ) : Option ν := m.entries.lookup k

/-- Whether a key has a value. -/
def contains (m : KeyMap κ ν) (k : κ) : Bool := (m.get? k).isSome

/-- The map without the entry of a key. -/
def erase (m : KeyMap κ ν) (k : κ) : KeyMap κ ν := m.filter fun k' _ => k' ≠ k

theorem not_mem_keys_erase (m : KeyMap κ ν) (k : κ) : k ∉ (m.erase k).entries.map (·.1) := by
  simp [erase, filter]

/-- The map in which a key has the given value. -/
def insert (m : KeyMap κ ν) (k : κ) (v : ν) : KeyMap κ ν where
  entries := (k, v) :: (m.erase k).entries
  nodup := List.nodup_cons.2 ⟨m.not_mem_keys_erase k, (m.erase k).nodup⟩

/-- The map with the given entries, inserted one after the other. -/
def ofList (l : List (κ × ν)) : KeyMap κ ν := l.foldl (fun m e => m.insert e.1 e.2) empty

theorem insert_insert (m : KeyMap κ ν) (k : κ) (v v' : ν) :
    (m.insert k v).insert k v' = m.insert k v' := by
  simp [insert, erase, filter]

theorem get?_eq_some_iff {m : KeyMap κ ν} {k : κ} {v : ν} :
    m.get? k = some v ↔ (k, v) ∈ m.entries := by
  obtain ⟨es, h⟩ := m
  simp only [get?]
  induction es with
  | nil => simp
  | cons e es ih =>
    obtain ⟨k', v'⟩ := e
    simp only [List.map_cons, List.nodup_cons] at h
    by_cases hk : k = k'
    · subst hk
      have : ∀ v, (k, v) ∉ es := fun v hv => h.1 (List.mem_map_of_mem (f := (·.1)) hv)
      simp [this, eq_comm]
    · simp [lookup_cons_eq_ite, hk, ih h.2]

theorem get?_filter (p : κ → ν → Bool) (m : KeyMap κ ν) (k : κ) :
    (m.filter p).get? k = (m.get? k).filter (p k) := by
  ext v
  simp [get?_eq_some_iff, filter, Option.filter_eq_some_iff]

theorem get?_erase (m : KeyMap κ ν) (k k' : κ) :
    (m.erase k).get? k' = if k' = k then none else m.get? k' := by
  rw [erase, get?_filter]
  by_cases h : k' = k <;> cases m.get? k' <;> simp [h]

theorem get?_insert (m : KeyMap κ ν) (k k' : κ) (v : ν) :
    (m.insert k v).get? k' = if k' = k then some v else m.get? k' := by
  have h := m.get?_erase k k'
  simp only [get?, insert, lookup_cons_eq_ite] at h ⊢
  by_cases hk : k' = k
  · simp [hk]
  · simpa [hk] using h

theorem get?_map (f : κ → ν → μ) (m : KeyMap κ ν) (k : κ) :
    (m.map f).get? k = (m.get? k).map (f k) := by
  ext w
  simp only [Option.map_eq_some_iff, get?_eq_some_iff, map, List.mem_map, Prod.mk.injEq]
  constructor
  · rintro ⟨⟨k', v⟩, hm, rfl, rfl⟩; exact ⟨v, hm, rfl⟩
  · rintro ⟨v, hm, rfl⟩; exact ⟨(k, v), hm, rfl, rfl⟩

end KeyMap

end PlayerHub
