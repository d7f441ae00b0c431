import PlayerHub.Json.Record

namespace PlayerHub.Json.Value

theorem member?_map_some {members : List (String × Value)} (h : (members.map (·.1)).Nodup)
    (name : String) :
    member? (members.map fun m => (some m.1, m.2)) name = some (members.lookup name) := by
  have hfilter : (members.map fun m => (some m.1, m.2)).filter (·.1 == some name) =
      (members.lookup name).toList.map fun v => (some name, v) := by
    induction members with
    | nil => rfl
    | cons m members ih =>
      obtain ⟨key, v⟩ := m
      rw [List.map_cons, List.nodup_cons] at h
      rw [List.map_cons, List.filter_cons, ih h.2, List.lookup_cons]
      by_cases hkey : key = name
      · subst hkey
        have hnone : members.lookup key = none := by
          apply List.lookup_eq_none_iff.2
          intro m hm
          exact bne_iff_ne.2 fun heq => h.1 (List.mem_map.2 ⟨m, hm, heq.symm⟩)
        simp [hnone]
      · have hne : (name == key) = false := beq_eq_false_iff_ne.2 (Ne.symm hkey)
        simp [hkey, hne]
  rw [member?, hfilter]
  cases members.lookup name <;> rfl

theorem select?_map_some {members : List (String × Value)} (h : (members.map (·.1)).Nodup)
    (names : List String) :
    select? (members.map fun m => (some m.1, m.2)) names =
      some (names.map fun name => members.lookup name) := by
  have hnames : (members.map fun m => (some m.1, m.2)).all (·.1.isSome) = true := by
    simp
  rw [select?, if_pos hnames]
  induction names with
  | nil => rfl
  | cons name names ih =>
    rw [List.mapM_cons, member?_map_some h, ih]
    rfl

/-- The members of a written record, by any names. -/
theorem fields?_ofMembers {members : List (String × Value)} (h : (members.map (·.1)).Nodup)
    (names : List String) :
    (ofMembers members).fields? names = some (names.map fun name => members.lookup name) :=
  select?_map_some h names

theorem someFields?_ofMembers {members : List (String × Value)} (h : (members.map (·.1)).Nodup)
    (names : List String) :
    (ofMembers members).someFields? names = some (names.map fun name => members.lookup name) :=
  select?_map_some h names

/-- An object that maps names to values of one kind gives its entries back. -/
theorem entries?_ofMembers {α : Type} {read : Value → Option α} {write : α → Value}
    (h : ∀ a, read (write a) = some a) (entries : List (String × α)) :
    (ofMembers (entries.map fun e => (e.1, write e.2))).entries? read = some entries := by
  rw [ofMembers, entries?, List.map_map]
  induction entries with
  | nil => rfl
  | cons e entries ih =>
    rw [List.map_cons, List.mapM_cons, ih]
    simp only [Function.comp_apply, Option.bind_eq_bind, Option.bind_some, h, Option.pure_def]

/-- A list of written values of one kind is read back. -/
theorem listOf?_list {α : Type} {read : Value → Option α} {write : α → Value}
    (h : ∀ a, read (write a) = some a) (l : List α) :
    (list (l.map write)).listOf? read = some l := by
  rw [listOf?, items?_list, Option.bind_eq_bind, Option.bind_some]
  induction l with
  | nil => rfl
  | cons a l ih =>
    rw [List.map_cons, List.mapM_cons, h, ih]
    rfl

@[simp] theorem int32?_int_toInt (i : Int32) : (int i.toInt).int32? = some i := by
  have hlo := i.le_toInt
  have hhi := i.toInt_lt
  rw [int32?, intBetween?, int?_int]
  simp only [Option.bind_eq_bind, Option.bind_some]
  rw [if_pos (by omega), Option.map_some, Int32.ofInt_toInt]

@[simp] theorem int64?_int_toInt (i : Int64) : (int i.toInt).int64? = some i := by
  have hlo := i.le_toInt
  have hhi := i.toInt_lt
  rw [int64?, intBetween?, int?_int]
  simp only [Option.bind_eq_bind, Option.bind_some]
  rw [if_pos (by omega), Option.map_some, Int64.ofInt_toInt]

theorem isSome_uint64?_int_toInt (i : Int64) :
    (int i.toInt).uint64?.isSome = decide (0 ≤ i) := by
  have hhi := i.toInt_lt
  have hzero : 0 ≤ i ↔ 0 ≤ i.toInt := Int64.le_iff_toInt_le
  rw [uint64?, intBetween?, int?_int, Option.isSome_map]
  simp only [Option.bind_eq_bind, Option.bind_some]
  by_cases h : 0 ≤ i.toInt
  · rw [if_pos (by omega)]
    simp [hzero, h]
  · rw [if_neg (by omega)]
    simp [hzero, h]

end PlayerHub.Json.Value
