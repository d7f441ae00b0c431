import Mathlib.Data.List.Induction
import PlayerHub.Data.NameMap

namespace PlayerHub.NameMap

variable {ν : Type} {m : NameMap ν} {k : String} {v : ν}

theorem get?_eq_some_iff : m.get? k = some v ↔ (k, v) ∈ m.entries := by
  obtain ⟨es, hsorted⟩ := m
  simp only [get?]
  induction es with
  | nil => simp only [List.lookup_nil, List.not_mem_nil, reduceCtorEq]
  | cons e es ih =>
    obtain ⟨k', v'⟩ := e
    obtain ⟨hfirst, hrest⟩ := List.pairwise_cons.1 hsorted
    rw [lookup_cons_eq_ite, List.mem_cons, Prod.mk.injEq]
    by_cases hk : k = k'
    · subst hk
      have habsent : (k, v) ∉ es := fun hmem => String.lt_irrefl k (hfirst _ hmem)
      simp only [if_true, Option.some.injEq, habsent, or_false, true_and]
      exact eq_comm
    · rw [if_neg hk, ih hrest]
      simp only [hk, false_and, false_or]

theorem mem_values : v ∈ m.values ↔ ∃ k, m.get? k = some v := by
  simp only [values, List.mem_map, get?_eq_some_iff, Prod.exists, exists_eq_right]

theorem contains_eq_false_iff : m.contains k = false ↔ m.get? k = none := by
  rw [contains, Option.isSome_eq_false_iff, Option.isNone_iff_eq_none]

theorem get?_map {μ : Type} (f : String → ν → μ) (m : NameMap ν) (k : String) :
    (m.map f).get? k = (m.get? k).map (f k) := by
  ext w
  simp only [Option.map_eq_some_iff, get?_eq_some_iff, map, List.mem_map, Prod.mk.injEq]
  constructor
  · rintro ⟨⟨k', v⟩, hmem, rfl, rfl⟩
    exact ⟨v, hmem, rfl⟩
  · rintro ⟨v, hmem, rfl⟩
    exact ⟨(k, v), hmem, rfl, rfl⟩

theorem nodup_names (m : NameMap ν) : (m.entries.map (·.1)).Nodup :=
  List.pairwise_map.2 (m.sorted.imp String.ne_of_lt)

theorem nodup_entries (m : NameMap ν) : m.entries.Nodup :=
  m.sorted.imp fun hlt heq => String.ne_of_lt hlt (congrArg Prod.fst heq)

theorem eq_of_entries_perm {m' : NameMap ν} (h : m.entries.Perm m'.entries) : m = m' := by
  have hentries : m.entries = m'.entries :=
    h.eq_of_pairwise (fun _ _ _ _ hlt hgt => absurd hgt (String.lt_asymm hlt)) m.sorted m'.sorted
  obtain ⟨es, hsorted⟩ := m
  rw [← NameMap.mk.injEq] at hentries
  exact hentries

/-- Two maps with the same look-ups are the same. -/
theorem ext_get? {m' : NameMap ν} (h : ∀ k, m.get? k = m'.get? k) : m = m' := by
  apply eq_of_entries_perm
  rw [List.perm_ext_iff_of_nodup m.nodup_entries m'.nodup_entries]
  rintro ⟨k, v⟩
  rw [← get?_eq_some_iff, ← get?_eq_some_iff, h k]

/-- A name that is not there yet is placed among the others. -/
theorem place_perm {es : List (String × ν)} (h : k ∉ es.map (·.1)) :
    (place k v es).Perm ((k, v) :: es) := by
  fun_induction place k v es with
  | case1 => exact .refl _
  | case2 e es hlt => exact .refl _
  | case3 e es _ hlt ih =>
    rw [List.map_cons, List.mem_cons, not_or] at h
    exact ((ih h.2).cons e).trans (.swap (k, v) e es)
  | case4 e es hle hge =>
    have hk : k = e.1 := String.le_antisymm (String.not_lt.1 hge) (String.not_lt.1 hle)
    exact absurd (hk ▸ List.mem_cons_self) h

private theorem entries_foldl_insert_perm {es : List (String × ν)}
    (h : ((m.entries ++ es).map (·.1)).Nodup) :
    (es.foldl (fun m e => m.insert e.1 e.2) m).entries.Perm (m.entries ++ es) := by
  induction es generalizing m with
  | nil => rw [List.foldl_nil, List.append_nil]
  | cons e es ih =>
    have hmiddle : ((e :: m.entries ++ es).map (·.1)).Nodup :=
      (List.perm_middle.map _).nodup_iff.1 h
    have hinsert : ((m.insert e.1 e.2).entries ++ es).Perm (e :: m.entries ++ es) := by
      refine .append_right es (place_perm fun hmem => ?_)
      rw [List.cons_append, List.map_cons, List.nodup_cons, List.map_append] at hmiddle
      exact hmiddle.1 (List.mem_append_left _ hmem)
    exact (ih ((hinsert.map _).nodup_iff.2 hmiddle)).trans (hinsert.trans List.perm_middle.symm)

/-- A map is made again from its entries in any order. -/
theorem ofList_of_perm {es : List (String × ν)} (h : es.Perm m.toList) : ofList es = m :=
  eq_of_entries_perm
    ((@entries_foldl_insert_perm ν empty es ((h.map _).nodup_iff.2 m.nodup_names)).trans h)

/-- A map that is made from a list has for every name the last value that is listed with it. -/
theorem get?_ofList (es : List (String × ν)) (k : String) :
    (ofList es).get? k = es.reverse.lookup k := by
  induction es using List.reverseRecOn with
  | nil => rfl
  | append_singleton es e ih =>
    have hinsert : ofList (es ++ [e]) = (ofList es).insert e.1 e.2 := by
      rw [ofList, List.foldl_append]
      rfl
    rw [hinsert, get?_insert, ih, List.reverse_concat, lookup_cons_eq_ite]

/-- A name has a value if the value is listed with it and the name is not listed again. -/
theorem get?_ofList_eq_some_iff {es : List (String × ν)} : (ofList es).get? k = some v ↔
    ∃ before after, es = before ++ (k, v) :: after ∧ k ∉ after.map (·.1) := by
  rw [get?_ofList, List.lookup_eq_some_iff]
  constructor
  · rintro ⟨after, before, hes, hafter⟩
    refine ⟨before.reverse, after.reverse, ?_, ?_⟩
    · rw [← List.reverse_reverse es, hes]
      simp
    · intro hmem
      obtain ⟨e, he, rfl⟩ := List.mem_map.1 hmem
      exact bne_iff_ne.1 (hafter e (List.mem_reverse.1 he)) rfl
  · rintro ⟨before, after, rfl, hafter⟩
    refine ⟨after.reverse, before.reverse, by simp, fun e he => bne_iff_ne.2 ?_⟩
    rintro rfl
    exact hafter (List.mem_map_of_mem (List.mem_reverse.1 he))

end PlayerHub.NameMap
