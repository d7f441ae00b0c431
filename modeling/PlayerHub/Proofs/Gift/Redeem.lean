import PlayerHub.Gift.Redeem
import PlayerHub.Proofs.Calendar.Written
import PlayerHub.Proofs.Data.NameMap
import PlayerHub.Proofs.Json.Record
import PlayerHub.Proofs.Player.Action

namespace PlayerHub

@[simp] theorem Redemption.ofJson?_toJson (r : Redemption) : ofJson? r.toJson = some r := by
  rw [ofJson?, toJson, Json.Value.fields?_ofMembers (by simp)]
  simp [List.lookup_cons, Json.required]

namespace Redeemed

/-- The JSON form of what a player has redeemed, with the redemptions in the given order. -/
def spelled (entries : List (String × Redemption)) : Json.Value :=
  .ofMembers [("records", .ofMembers (entries.map fun e => (e.1, e.2.toJson)))]

theorem ofJson?_spelled {r : Redeemed} {entries : List (String × Redemption)}
    (horder : entries.Perm r.records.toList) : ofJson? (spelled entries) = some r := by
  have hentries := Json.Value.entries?_ofMembers Redemption.ofJson?_toJson entries
  rw [ofJson?, spelled, Json.Value.fields?_ofMembers (by simp)]
  simp [List.lookup_cons, Json.required, hentries, NameMap.ofList_of_perm horder]

@[simp] theorem ofJson?_toJson (r : Redeemed) : ofJson? r.toJson = some r :=
  ofJson?_spelled (.refl r.records.toList)

instance : LawfulDocument Redeemed where
  ofJson?_toJson := ofJson?_toJson

end Redeemed

namespace Catalog

/-- How an attempt to redeem a code may end: with which answer and with which storage. -/
inductive RedeemEffect (c : Catalog) (user : UserId) (code : String) (now : Calendar.Instant)
    (s : Storage) : Except ActionError RedeemOutcome → Storage → Prop
  | failed (e : ActionError) : c.RedeemEffect user code now s (.error e) s
  | invalid (hcode : c.find? code = none) : c.RedeemEffect user code now s (.ok .invalidCode) s
  | again {r : Redeemed} (hlook : s.look Redeemed user = .ok r) (hcode : c.find? code ≠ none)
      (hold : r.records.contains code = true) :
      c.RedeemEffect user code now s (.ok .alreadyRedeemed) s
  | redeemed {r : Redeemed} (hlook : s.look Redeemed user = .ok r) (hcode : c.find? code ≠ none)
      (hnew : r.records.get? code = none) :
      c.RedeemEffect user code now s (.ok .redeemed) (s.keep user (r.add code now))

theorem RedeemEffect.rewrites {c : Catalog} {user : UserId} {code : String}
    {now : Calendar.Instant} {s s' : Storage} {answer : Except ActionError RedeemOutcome}
    (heffect : c.RedeemEffect user code now s answer s') : s.Rewrites Redeemed user s' := by
  cases heffect with
  | redeemed hlook hcode hnew => exact .saved hlook _
  | failed e => exact .same
  | invalid hcode => exact .same
  | again hlook hcode hold => exact .same

/-- Redeeming a code, opened once: whatever fails, the effect is one of those that `RedeemEffect`
lists. -/
theorem redeem_effect (c : Catalog) (user : UserId) (code : String) (now : Calendar.Instant)
    {s : Store} (hcodec : s.codec = {}) :
    ∃ answer s', (c.redeem user code now).perform s = (answer, s') ∧ s.IsLike s' ∧
      c.RedeemEffect user code now s.storage answer s'.storage := by
  obtain ⟨s₁, hlike, hstorage, hload⟩ := ActionM.load_cases Redeemed user hcodec
  rw [redeem, ActionM.perform]
  obtain ⟨e, hload⟩ | ⟨r, hlook, hload⟩ := hload
  · rw [Perform.bind_of_error hload]
    exact ⟨_, _, rfl, hlike, hstorage ▸ .failed e⟩
  rw [Perform.bind_of_ok hload]
  cases hfind : c.find? code with
  | none => exact ⟨_, _, rfl, hlike, hstorage ▸ .invalid hfind⟩
  | some gift =>
    have hgift : c.find? code ≠ none := by
      rw [hfind]
      exact Option.some_ne_none gift
    cases hcode : r.records.contains code with
    | true =>
      refine ⟨_, _, rfl, hlike, ?_⟩
      rw [hstorage]
      exact .again hlook hgift hcode
    | false =>
      have hnew := NameMap.contains_eq_false_iff.1 hcode
      obtain ⟨s₂, hlike', hsave⟩ :=
        ActionM.save_cases user (r.add code now) (hlike.codec.trans hcodec)
      rw [hstorage] at hsave
      simp only [Option.isNone_some, Bool.false_eq_true, if_false]
      obtain ⟨hsame, e, hsave⟩ | ⟨hkeep, hsave⟩ := hsave
      · rw [Perform.bind_of_error hsave]
        exact ⟨_, _, rfl, hlike.trans hlike', hsame ▸ .failed e⟩
      · rw [Perform.bind_of_ok hsave]
        exact ⟨_, _, rfl, hlike.trans hlike', hkeep ▸ .redeemed hlook hgift hnew⟩

/-- A code that is redeemed has a gift. -/
theorem exists_find?_of_redeemed {c : Catalog} {user : UserId} {code : String}
    {now : Calendar.Instant} {s : Store}
    (h : ((c.redeem user code now).perform s).1 = .ok .redeemed) : ∃ g, c.find? code = some g := by
  by_contra hnone
  have hfind : c.find? code = none := Option.eq_none_iff_forall_ne_some.2 (not_exists.1 hnone)
  rw [redeem, ActionM.perform] at h
  cases hload : ActionM.ofStore (Store.load Redeemed user) s with
  | mk answer s₁ =>
    cases answer with
    | error e =>
      rw [Perform.bind_of_error hload] at h
      cases h
    | ok r =>
      rw [Perform.bind_of_ok hload, hfind] at h
      cases h

/-- Where nothing keeps calls from the storage, a code is redeemed that has a gift and has not been
redeemed before. -/
theorem redeem_of_isOpen {c : Catalog} {user : UserId} {code : String} {r : Redeemed} {s : Store}
    (now : Calendar.Instant) (hopen : s.IsOpen) (hlook : s.storage.look Redeemed user = .ok r)
    (hcode : c.find? code ≠ none) (hnew : r.records.get? code = none) :
    ∃ s', s'.IsOpen ∧ s'.storage = s.storage.keep user (r.add code now) ∧
      (c.redeem user code now).perform s = (.ok .redeemed, s') := by
  obtain ⟨s₁, hopen₁, hstorage₁, hload⟩ := ActionM.load_of_isOpen hopen hlook
  obtain ⟨s₂, hopen₂, hstorage₂, hsave⟩ := ActionM.save_of_isOpen user (r.add code now) hopen₁
  obtain ⟨gift, hgift⟩ := Option.ne_none_iff_exists'.1 hcode
  refine ⟨s₂, hopen₂, hstorage₁ ▸ hstorage₂, ?_⟩
  rw [redeem, ActionM.perform, Perform.bind_of_ok hload, hgift,
    NameMap.contains_eq_false_iff.2 hnew]
  simp only [Option.isNone_some, Bool.false_eq_true, if_false]
  rw [Perform.bind_of_ok hsave]
  rfl

end Catalog

end PlayerHub
