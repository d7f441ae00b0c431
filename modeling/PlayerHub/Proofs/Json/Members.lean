import Mathlib.Data.List.Forall2
import Mathlib.Data.List.Nodup
import Mathlib.Data.List.Perm.Subperm
import PlayerHub.Proofs.Json.Record

namespace PlayerHub.Json

theorem mapM_eq_some_iff_forall₂ {α β : Type} {f : α → Option β} {l : List α} {r : List β} :
    l.mapM f = some r ↔ List.Forall₂ (fun a b => f a = some b) l r := by
  induction l generalizing r with
  | nil =>
    rw [List.mapM_nil, List.forall₂_nil_left_iff, Option.pure_def, Option.some.injEq, eq_comm]
  | cons a l ih =>
    simp only [List.mapM_cons, List.forall₂_cons_left_iff, Option.bind_eq_bind,
      Option.bind_eq_some_iff, Option.pure_def, Option.some.injEq, ih]
    constructor
    · rintro ⟨b, hb, bs, hbs, rfl⟩
      exact ⟨b, bs, hb, hbs, rfl⟩
    · rintro ⟨b, bs, hb, hbs, rfl⟩
      exact ⟨b, hb, bs, hbs, rfl⟩

namespace Value

/-- Whether an object has at most one member of a name, and this is what it has under the name. -/
def GivesAt (members : List (Option String × Value)) (name : String) (given : Option Value) :
    Prop :=
  (members.map (·.1)).count (some name) ≤ 1 ∧ ∀ v, given = some v ↔ (some name, v) ∈ members

variable {members : List (Option String × Value)} {name : String} {given : Option Value}

theorem count_names (members : List (Option String × Value)) (name : String) :
    (members.map (·.1)).count (some name) = (members.filter (·.1 == some name)).length := by
  rw [List.count, List.countP_map, List.countP_eq_length_filter]
  rfl

theorem member?_eq_some_iff :
    member? members name = some given ↔ GivesAt members name given := by
  have hmem (v : Value) :
      (some name, v) ∈ members ↔ (some name, v) ∈ members.filter (·.1 == some name) := by
    rw [List.mem_filter, and_iff_left (beq_self_eq_true (some name))]
  have hname : ∀ m ∈ members.filter (·.1 == some name), m.1 = some name := by
    intro m hm
    exact beq_iff_eq.1 (List.mem_filter.1 hm).2
  rw [GivesAt, count_names, member?]
  simp only [hmem]
  generalize members.filter (·.1 == some name) = found at hname
  rcases found with _ | ⟨⟨n, w⟩, _ | ⟨m, rest⟩⟩
  · cases given <;> simp
  · obtain rfl : n = some name := hname _ List.mem_cons_self
    cases given <;> simp [eq_comm]
  · simp

/-- An object has something or nothing under every name that is not repeated. -/
theorem exists_givesAt (h : (members.map (·.1)).count (some name) ≤ 1) :
    ∃ given, GivesAt members name given := by
  cases hread : member? members name with
  | some given => exact ⟨given, member?_eq_some_iff.1 hread⟩
  | none =>
    rw [count_names] at h
    unfold member? at hread
    split at hread
    · cases hread
    · cases hread
    · rename_i hnil hsingleton
      generalize members.filter (·.1 == some name) = found at h hnil hsingleton
      rcases found with _ | ⟨m, _ | ⟨m', rest⟩⟩
      · exact absurd rfl hnil
      · exact absurd rfl (hsingleton m)
      · exact absurd h (by simp)

theorem count_names_le_one (h : (members.filterMap (·.1)).Nodup) (name : String) :
    (members.map (·.1)).count (some name) ≤ 1 := by
  have hcount : (members.map (·.1)).count (some name) =
      (members.filterMap (·.1)).count name := by
    rw [List.count_filterMap, List.count, List.countP_map]
    apply List.countP_congr
    rintro ⟨_ | n, v⟩ -
    · simp
    · simp
  rw [hcount]
  exact List.nodup_iff_count_le_one.1 h name

/-- What a value gives by the names of a record whose members may all be absent. An object gives
what it has under the names; all its names have to be texts. An array gives its items in the order
of the names, and may end early. -/
def Gives (names : List String) (given : List (Option Value)) : Value → Prop
  | .record members => (∀ m ∈ members, m.1 ≠ none) ∧ List.Forall₂ (GivesAt members) names given
  | .list items => ∃ missing, items.length + missing = names.length ∧
      given = items.map some ++ List.replicate missing none
  | _ => False

/-- What a reader of records is given, told by the members of the value and without the reader. -/
theorem someFields?_eq_some_iff {names : List String} {given : List (Option Value)} {v : Value} :
    v.someFields? names = some given ↔ v.Gives names given := by
  match v with
  | .record members =>
    have hnames : members.all (·.1.isSome) = true ↔ ∀ m ∈ members, m.1 ≠ none := by
      simp only [List.all_eq_true, Option.isSome_iff_ne_none]
    rw [someFields?, select?, Gives, Option.ite_none_right_eq_some, hnames,
      mapM_eq_some_iff_forall₂]
    simp only [member?_eq_some_iff]
  | .list items =>
    rw [someFields?, Gives, Option.ite_none_right_eq_some, Option.some.injEq]
    constructor
    · rintro ⟨hle, rfl⟩
      exact ⟨names.length - items.length, by omega, rfl⟩
    · rintro ⟨missing, hlength, rfl⟩
      have hmissing : names.length - items.length = missing := by omega
      exact ⟨by omega, by rw [hmissing]⟩
  | .null | .bool _ | .number _ | .text _ => simp [someFields?, Gives]

theorem str?_eq_some_iff {v : Value} {s : String} : v.str? = some s ↔ v = .str s := by
  match v with
  | .text (.plain t) => simp [str?, str, Quoted.text?]
  | .text (.flawed _) => simp [str?, str, Quoted.text?]
  | .null | .bool _ | .number _ | .list _ | .record _ => simp [str?, str]

theorem int?_eq_some_iff {v : Value} {i : Int} : v.int? = some i ↔ v = .int i := by
  match v with
  | .number (.int j) => simp [int?, int, Number.int?]
  | .number (.other _) => simp [int?, int, Number.int?]
  | .null | .bool _ | .text _ | .list _ | .record _ => simp [int?, int]

theorem bool?_eq_some_iff {v : Value} {b : Bool} : v.bool? = some b ↔ v = .bool b := by
  cases v <;> simp [bool?]

theorem intBetween?_eq_some_iff {lo hi i : Int} {v : Value} :
    v.intBetween? lo hi = some i ↔ v = .int i ∧ lo ≤ i ∧ i ≤ hi := by
  simp only [intBetween?, Option.bind_eq_bind, Option.bind_eq_some_iff,
    Option.ite_none_right_eq_some, Option.some.injEq, int?_eq_some_iff]
  constructor
  · rintro ⟨_, rfl, hbounds, rfl⟩
    exact ⟨rfl, hbounds⟩
  · rintro ⟨rfl, hbounds⟩
    exact ⟨i, rfl, hbounds, rfl⟩

theorem int32?_eq_some_iff {v : Value} {n : Int32} : v.int32? = some n ↔ v = .int n.toInt := by
  constructor
  · intro h
    obtain ⟨i, hi, rfl⟩ := Option.map_eq_some_iff.1 h
    obtain ⟨rfl, hlo, hhi⟩ := intBetween?_eq_some_iff.1 hi
    rw [Int32.toInt_ofInt_of_le hlo (by omega)]
  · rintro rfl
    exact int32?_int_toInt n

theorem int64?_eq_some_iff {v : Value} {n : Int64} : v.int64? = some n ↔ v = .int n.toInt := by
  constructor
  · intro h
    obtain ⟨i, hi, rfl⟩ := Option.map_eq_some_iff.1 h
    obtain ⟨rfl, hlo, hhi⟩ := intBetween?_eq_some_iff.1 hi
    rw [Int64.toInt_ofInt_of_le hlo (by omega)]
  · rintro rfl
    exact int64?_int_toInt n

theorem uint64?_eq_some_iff {v : Value} {n : UInt64} : v.uint64? = some n ↔ v = .int n.toNat := by
  constructor
  · intro h
    obtain ⟨i, hi, rfl⟩ := Option.map_eq_some_iff.1 h
    obtain ⟨rfl, hlo, hhi⟩ := intBetween?_eq_some_iff.1 hi
    rw [UInt64.toNat_ofNat_of_lt' (by simp only [UInt64.size]; omega), Int.toNat_of_nonneg hlo]
  · rintro rfl
    have hhi := n.toNat_lt
    have hint : (int n.toNat).intBetween? 0 18446744073709551615 = some ↑n.toNat :=
      intBetween?_eq_some_iff.2 ⟨rfl, by omega, by omega⟩
    rw [uint64?, hint, Option.map_some, Int.toNat_natCast, UInt64.ofNat_toNat]

end Value

/-- What a member says that stands for `d` where it is absent: `a` stands for the value `write
a`. -/
def Tells {α : Type} (d : α) (write : α → Value) (m : Option Value) (a : α) : Prop :=
  m = some (write a) ∨ m = none ∧ a = d

theorem exists_tells_iff {α : Type} {d : α} {write : α → Value}
    {members : List (Option String × Value)} {name : String} {m : Option Value}
    (h : Value.GivesAt members name m) :
    (∃ a, Tells d write m a) ↔ ∀ v, (some name, v) ∈ members → ∃ a, v = write a := by
  simp only [← h.2]
  constructor
  · rintro ⟨a, rfl | ⟨rfl, -⟩⟩ v hv
    · exact ⟨a, (Option.some.inj hv).symm⟩
    · cases hv
  · intro hall
    cases m with
    | none => exact ⟨d, .inr ⟨rfl, rfl⟩⟩
    | some v =>
      obtain ⟨a, rfl⟩ := hall v rfl
      exact ⟨a, .inl rfl⟩

theorem orElse_eq_some_iff {α : Type} {d : α} {read : Value → Option α} {write : α → Value}
    (hread : ∀ v a, read v = some a ↔ v = write a) {m : Option Value} {a : α} :
    orElse d read m = some a ↔ Tells d write m a := by
  cases m with
  | none => simp [orElse, Tells, eq_comm]
  | some v => simp [orElse, Tells, hread]

theorem tells_iff {α : Type} {d : α} {write : α → Value} {m : Option Value} {a : α} :
    Tells d write m a ↔ ∃ given : Option α, m = given.map write ∧ a = given.getD d := by
  constructor
  · rintro (rfl | ⟨rfl, rfl⟩)
    · exact ⟨some a, rfl, rfl⟩
    · exact ⟨none, rfl, rfl⟩
  · rintro ⟨_ | a, rfl, rfl⟩
    · exact .inr ⟨rfl, rfl⟩
    · exact .inl rfl

theorem nullable_eq_some_iff {α : Type} {read : Value → Option α} {write : α → Value}
    (hread : ∀ v a, read v = some a ↔ v = write a) (hnull : ∀ a, write a ≠ .null)
    {m : Option Value} {a : Option α} :
    nullable read m = some a ↔ Tells none (·.elim .null write) m a := by
  rw [Tells]
  match m with
  | none => simp [nullable, eq_comm]
  | some .null =>
    cases a with
    | none => simp [nullable]
    | some a => simp [nullable, (hnull a).symm]
  | some (.bool _) | some (.number _) | some (.text _) | some (.list _) | some (.record _) =>
    cases a <;> simp [nullable, hread]

/-- A member that is a record itself is absent, or gives what the record is made of. -/
theorem orElse_eq_some_iff_rel {α γ : Type} {d : α} {read : Value → Option α}
    {isIn : γ → Value → Prop} {make : γ → α}
    (hread : ∀ v a, read v = some a ↔ ∃ given, isIn given v ∧ a = make given) {m : Option Value}
    {a : α} :
    orElse d read m = some a ↔
      ∃ given : Option γ, Option.Rel isIn given m ∧ a = given.elim d make := by
  cases m with
  | none =>
    constructor
    · intro h
      exact ⟨none, .none, (Option.some.inj h).symm⟩
    · rintro ⟨_, ⟨⟩, rfl⟩
      rfl
  | some v =>
    rw [orElse, hread]
    constructor
    · rintro ⟨given, hin, rfl⟩
      exact ⟨some given, .some hin, rfl⟩
    · rintro ⟨_, ⟨hin⟩, rfl⟩
      exact ⟨_, hin, rfl⟩

/-- Whether members are all of a record in any order, but for some that `fresh` has as well. -/
def LeavesOut (fresh all members : List (String × Value)) : Prop :=
  members.Subperm all ∧ ∀ m ∈ all, m ∉ members → m ∈ fresh

theorem LeavesOut.nodup_names {fresh all members : List (String × Value)}
    (h : LeavesOut fresh all members) (hnames : (all.map (·.1)).Nodup) :
    (members.map (·.1)).Nodup := by
  obtain ⟨members', hperm, hsublist⟩ := h.1
  exact ((hperm.map (·.1)).nodup_iff).1 (hnames.sublist (hsublist.map (·.1)))

theorem mem_of_lookup {members : List (String × Value)} {name : String} {v : Value}
    (h : members.lookup name = some v) : (name, v) ∈ members := by
  obtain ⟨before, after, rfl, -⟩ := List.lookup_eq_some_iff.1 h
  exact List.mem_append_right _ List.mem_cons_self

theorem lookup_of_mem {members : List (String × Value)} (hnames : (members.map (·.1)).Nodup)
    {name : String} {v : Value} (h : (name, v) ∈ members) : members.lookup name = some v := by
  obtain ⟨before, after, rfl⟩ := List.append_of_mem h
  refine List.lookup_eq_some_iff.2 ⟨before, after, rfl, fun m hm => bne_iff_ne.2 ?_⟩
  rintro rfl
  rw [List.map_append, List.nodup_append] at hnames
  exact hnames.2.2 _ (List.mem_map_of_mem hm) _ List.mem_cons_self rfl

/-- A member that is left out is read as what it would say. -/
theorem LeavesOut.orElse_lookup {α : Type} {d a : α} {read : Value → Option α}
    {write : α → Value} {fresh all members : List (String × Value)} {name : String}
    (h : LeavesOut fresh all members) (hnames : (all.map (·.1)).Nodup)
    (hfreshNames : (fresh.map (·.1)).Nodup) (hread : ∀ v a, read v = some a ↔ v = write a)
    (hall : all.lookup name = some (write a)) (hfresh : fresh.lookup name = some (write d)) :
    orElse d read (members.lookup name) = some a := by
  rw [orElse_eq_some_iff hread]
  by_cases hmem : (name, write a) ∈ members
  · exact .inl (lookup_of_mem (h.nodup_names hnames) hmem)
  · -- A member of this name would be the one that is left out.
    have habsent : members.lookup name = none := by
      refine List.lookup_eq_none_iff.2 fun m hm => bne_iff_ne.2 ?_
      rintro rfl
      have hvalue := lookup_of_mem hnames (h.1.subset hm)
      rw [hall, Option.some.injEq] at hvalue
      exact hmem (hvalue ▸ hm)
    have hdefault : some (write a) = some (write d) := by
      rw [← hfresh, lookup_of_mem hfreshNames (h.2 _ (mem_of_lookup hall) hmem)]
    have heq : some a = some d := by
      rw [← (hread _ a).2 rfl, Option.some.inj hdefault, (hread _ d).2 rfl]
    exact .inr ⟨habsent, Option.some.inj heq⟩

end PlayerHub.Json
