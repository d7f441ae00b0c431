import PlayerHub.Player.Progress
import PlayerHub.Proofs.Json.Record
import PlayerHub.Proofs.Player.Action

namespace PlayerHub.Progress

@[simp] theorem ofJson?_toJson (p : Progress) : ofJson? p.toJson = some p := by
  rw [ofJson?, toJson, Json.Value.fields?_ofMembers (by simp)]
  simp [List.lookup_cons, Json.required]

instance : LawfulDocument Progress where
  ofJson?_toJson := ofJson?_toJson

/-- How an attempt to save a level may end: with which answer and with which storage. -/
inductive SaveEffect (user : UserId) (level : String) (s : Storage) :
    Except ActionError Unit → Storage → Prop
  | failed (e : ActionError) : SaveEffect user level s (.error e) s
  | saved : SaveEffect user level s (.ok ()) (s.keep user (⟨level⟩ : Progress))

theorem save_effect (user : UserId) (level : String) {s : Store} (hcodec : s.codec = {}) :
    ∃ answer s', (save user level).perform s = (answer, s') ∧ s.IsLike s' ∧
      SaveEffect user level s.storage answer s'.storage := by
  obtain ⟨s', hlike, hsave⟩ := ActionM.save_cases user (⟨level⟩ : Progress) hcodec
  obtain ⟨hsame, e, hsave⟩ | ⟨hkeep, hsave⟩ := hsave
  · exact ⟨_, _, hsave, hlike, hsame ▸ .failed e⟩
  · exact ⟨_, _, hsave, hlike, hkeep ▸ .saved⟩

end PlayerHub.Progress
