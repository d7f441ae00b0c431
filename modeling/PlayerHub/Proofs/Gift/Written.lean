import PlayerHub.Proofs.Gift.Catalog

namespace PlayerHub

open Json (Value)

namespace Gift

/-- All members of a written gift. -/
def members (g : Gift) : List (String × Value) :=
  [("id", .str g.id), ("name", .str g.name), ("coin", .int g.coin.toInt),
    ("coupon", .int g.coupon.toInt), ("gem", .int g.gem.toInt), ("items", .str g.items),
    ("expire", .str g.expire)]

/-- Whether a value is a written gift, in any order of the members, where any of those that have
their defaults may be left out. -/
def IsWritten (g : Gift) (v : Value) : Prop :=
  ∃ members, v = .ofMembers members ∧ Json.LeavesOut ({} : Gift).members g.members members

theorem toJson_eq (g : Gift) : g.toJson = .ofMembers g.members := rfl

theorem nodup_memberNames (g : Gift) : (g.members.map (·.1)).Nodup := by
  simp [members]

theorem isWritten_toJson (g : Gift) : g.IsWritten g.toJson :=
  ⟨g.members, g.toJson_eq, .refl _, fun _ hm hleft => absurd hm hleft⟩

/-- A written gift is read back, whatever has been left out. -/
theorem ofJson?_of_isWritten {g : Gift} {v : Value} (h : g.IsWritten v) : ofJson? v = some g := by
  obtain ⟨members, rfl, hleaves⟩ := h
  have hnames := g.nodup_memberNames
  have hfreshNames := ({} : Gift).nodup_memberNames
  have hstr (name s : String) (hall : g.members.lookup name = some (.str s))
      (hfresh : ({} : Gift).members.lookup name = some (.str "")) :
      Json.orElse "" Value.str? (members.lookup name) = some s :=
    hleaves.orElse_lookup hnames hfreshNames (fun _ _ => Value.str?_eq_some_iff) hall hfresh
  have hint (name : String) (i : Int32) (hall : g.members.lookup name = some (.int i.toInt))
      (hfresh : ({} : Gift).members.lookup name = some (.int (0 : Int32).toInt)) :
      Json.orElse 0 Value.int32? (members.lookup name) = some i :=
    hleaves.orElse_lookup hnames hfreshNames (fun _ _ => Value.int32?_eq_some_iff) hall hfresh
  rw [ofJson?, Value.someFields?_ofMembers (hleaves.nodup_names hnames)]
  simp only [List.map_cons, List.map_nil, Option.bind_eq_bind, Option.bind_some,
    hstr "id" g.id rfl rfl, hstr "name" g.name rfl rfl, hint "coin" g.coin rfl rfl,
    hint "coupon" g.coupon rfl rfl, hint "gem" g.gem rfl rfl, hstr "items" g.items rfl rfl,
    hstr "expire" g.expire rfl rfl]
  rfl

end Gift

namespace Catalog

/-- Whether a value is a written list of gifts: an object with a member for each gift in the order
of the list, named by the id of the gift. -/
def IsWritten (gifts : List Gift) (v : Value) : Prop :=
  ∃ members, v = .ofMembers members ∧
    List.Forall₂ (fun g m => m.1 = g.id ∧ g.IsWritten m.2) gifts members

theorem entries?_of_isWritten {gifts : List Gift} {v : Value} (h : IsWritten gifts v) :
    v.entries? Gift.ofJson? = some (gifts.map fun g => (g.id, g)) := by
  obtain ⟨members, rfl, hmembers⟩ := h
  rw [Value.ofMembers, Value.entries?, Json.mapM_eq_some_iff_forall₂, List.forall₂_map_left_iff,
    List.forall₂_map_right_iff]
  refine hmembers.flip.imp ?_
  rintro ⟨name, w⟩ g ⟨rfl, hwritten⟩
  simp only [Option.bind_eq_bind, Option.bind_some, Gift.ofJson?_of_isWritten hwritten]
  rfl

theorem find?_ofList (gifts : List Gift) (code : String) :
    (ofList gifts).find? code = gifts.reverse.find? (·.id == code) := by
  rw [find?, ofList, NameMap.get?_ofList, ← List.map_reverse]
  induction gifts.reverse with
  | nil => rfl
  | cons g gifts ih =>
    rw [List.map_cons, lookup_cons_eq_ite, ih, List.find?_cons]
    by_cases hcode : code = g.id
    · rw [if_pos hcode, hcode, beq_self_eq_true]
    · rw [if_neg hcode, beq_eq_false_iff_ne.2 (Ne.symm hcode)]

/-- A text that writes a list of gifts makes the catalog of the list, and the compact text of the
value is one. Of the gifts with one id the last one of the list stays. -/
theorem parse?_eq_some_ofList {gifts : List Gift} {v : Value} (h : IsWritten gifts v) :
    (∀ text, Value.parse? text = some v → parse? text = some (ofList gifts)) ∧
      parse? v.print = some (ofList gifts) ∧
      ∀ code, (ofList gifts).find? code = gifts.reverse.find? (·.id == code) := by
  have hparse (text : String) (htext : Value.parse? text = some v) :
      parse? text = some (ofList gifts) := by
    rw [parse?_eq, written?_of_parse? htext, entries?_of_isWritten h]
    rfl
  exact ⟨hparse, hparse v.print (Value.parse?_print v), find?_ofList gifts⟩

/-- A gift with its coins only, one with nothing, and one with all its members that has the id of
the first. -/
theorem repeated_id_keeps_last_gift :
    let first : Gift := { id := "WELCOME", coin := 100 }
    let last : Gift := { id := "WELCOME", name := "Welcome pack", gem := 5 }
    let gifts := [first, {}, last]
    let v := Value.ofMembers
      [("WELCOME", .ofMembers [("coin", .int 100), ("id", .str "WELCOME")]), ("", .ofMembers []),
        ("WELCOME", last.toJson)]
    IsWritten gifts v ∧ parse? v.print = some (ofList gifts) ∧
      (ofList gifts).find? "WELCOME" = some last := by
  intro first last gifts v
  have hfirst : first.IsWritten (.ofMembers [("coin", .int 100), ("id", .str "WELCOME")]) := by
    refine ⟨_, rfl, ⟨[("id", .str "WELCOME"), ("coin", .int 100)], .swap _ _ _, ?_⟩, ?_⟩
    · exact .cons_cons _ (.cons _ (.cons_cons _ (List.nil_sublist _)))
    · simp [Gift.members, first]
  have hnothing : Gift.IsWritten {} (.ofMembers []) :=
    ⟨[], rfl, List.nil_subperm, fun _ hm _ => hm⟩
  have hwritten : IsWritten gifts v :=
    ⟨_, rfl, .cons ⟨rfl, hfirst⟩ (.cons ⟨rfl, hnothing⟩ (.cons ⟨rfl, last.isWritten_toJson⟩ .nil))⟩
  obtain ⟨-, hparse, hfind⟩ := parse?_eq_some_ofList hwritten
  exact ⟨hwritten, hparse, hfind "WELCOME"⟩

end Catalog

end PlayerHub
