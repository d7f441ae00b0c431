import PlayerHub.Data.Lookup

namespace PlayerHub

/-- A finite map from names to values, with its entries in ascending order of their names by code
point. Two maps with the same look-ups are therefore equal, and a document that holds one is written
in one way only. -/
structure NameMap (ν : Type) where
  entries : List (String × ν)
  sorted : entries.Pairwise (·.1 < ·.1)
deriving DecidableEq, Repr

namespace NameMap

variable {ν μ : Type}

/-- The map without entries. -/
def empty : NameMap ν := ⟨[], .nil⟩

instance : EmptyCollection (NameMap ν) where
  emptyCollection := empty

instance : Inhabited (NameMap ν) := ⟨empty⟩

/-- The number of names. -/
def size (m : NameMap ν) : Nat := m.entries.length

/-- The entries, in ascending order of their names. -/
def toList (m : NameMap ν) : List (String × ν) := m.entries

/-- The value of a name. -/
def get? (m : NameMap ν) (k : String) : Option ν := m.entries.lookup k

/-- Whether a name has a value. -/
def contains (m : NameMap ν) (k : String) : Bool := (m.get? k).isSome

/-- The entries with the name `k` at its place, with the value `v`. -/
def place (k : String) (v : ν) : List (String × ν) → List (String × ν)
  | [] => [(k, v)]
  | e :: es =>
    if k < e.1 then (k, v) :: e :: es
    else if e.1 < k then e :: place k v es
    else (k, v) :: es

theorem mem_place {k : String} {v : ν} {es : List (String × ν)} {e : String × ν}
    (h : e ∈ place k v es) : e = (k, v) ∨ e ∈ es := by
  fun_induction place k v es with
  | case1 => simpa using h
  | case2 e' es _ => simpa using h
  | case3 e' es _ _ ih =>
    rcases List.mem_cons.1 h with rfl | h
    · exact .inr List.mem_cons_self
    · exact (ih h).imp_right (List.mem_cons_of_mem _)
  | case4 e' es _ _ => exact (List.mem_cons.1 h).imp_right (List.mem_cons_of_mem _)

theorem sorted_place {k : String} {v : ν} {es : List (String × ν)}
    (h : es.Pairwise (·.1 < ·.1)) : (place k v es).Pairwise (·.1 < ·.1) := by
  fun_induction place k v es with
  | case1 => exact List.pairwise_singleton _ _
  | case2 e es hk =>
    refine List.pairwise_cons.2 ⟨fun e' he' => ?_, h⟩
    rcases List.mem_cons.1 he' with rfl | he'
    · exact hk
    · exact String.lt_trans hk ((List.pairwise_cons.1 h).1 e' he')
  | case3 e es _ hk ih =>
    refine List.pairwise_cons.2 ⟨fun e' he' => ?_, ih (List.pairwise_cons.1 h).2⟩
    rcases mem_place he' with rfl | he'
    · exact hk
    · exact (List.pairwise_cons.1 h).1 e' he'
  | case4 e es h₁ h₂ =>
    have : k = e.1 := String.le_antisymm (String.not_lt.1 h₂) (String.not_lt.1 h₁)
    subst this
    exact List.pairwise_cons.2 ⟨(List.pairwise_cons.1 h).1, (List.pairwise_cons.1 h).2⟩

/-- The map in which a name has the given value. -/
def insert (m : NameMap ν) (k : String) (v : ν) : NameMap ν :=
  ⟨place k v m.entries, sorted_place m.sorted⟩

/-- The map with the given entries, inserted one after the other: of a repeated name the last value
stays. -/
def ofList (l : List (String × ν)) : NameMap ν := l.foldl (fun m e => m.insert e.1 e.2) empty

/-- The map with every value replaced by its image. -/
def map (f : String → ν → μ) (m : NameMap ν) : NameMap μ where
  entries := m.entries.map fun e => (e.1, f e.1 e.2)
  sorted := by simpa only [List.pairwise_map] using m.sorted

/-- The values, in ascending order of their names. -/
def values (m : NameMap ν) : List ν := m.entries.map (·.2)

theorem lookup_place (k k' : String) (v : ν) (es : List (String × ν)) :
    (place k v es).lookup k' = if k' = k then some v else es.lookup k' := by
  fun_induction place k v es with
  | case1 => rw [lookup_cons_eq_ite]
  | case2 e es hk => rw [lookup_cons_eq_ite]
  | case3 e es _ hk ih =>
    obtain ⟨k₁, v₁⟩ := e
    have hne : k₁ ≠ k := fun h => String.lt_irrefl _ (h ▸ hk)
    rw [lookup_cons_eq_ite, lookup_cons_eq_ite, ih]
    by_cases h : k' = k₁
    · subst h; simp [hne]
    · simp [h]
  | case4 e es h₁ h₂ =>
    obtain ⟨k₁, v₁⟩ := e
    have : k = k₁ := String.le_antisymm (String.not_lt.1 h₂) (String.not_lt.1 h₁)
    subst this
    rw [lookup_cons_eq_ite, lookup_cons_eq_ite]
    by_cases h : k' = k <;> simp [h]

theorem get?_insert (m : NameMap ν) (k k' : String) (v : ν) :
    (m.insert k v).get? k' = if k' = k then some v else m.get? k' :=
  lookup_place k k' v m.entries

end NameMap

end PlayerHub
