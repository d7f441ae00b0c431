import Mathlib.Data.List.DropRight
import PlayerHub.Player.Feedback
import PlayerHub.Proofs.Calendar.Written
import PlayerHub.Proofs.Json.Record
import PlayerHub.Proofs.Player.Action

namespace PlayerHub

@[simp] theorem Report.ofJson?_toJson (r : Report) : ofJson? r.toJson = some r := by
  rw [ofJson?, toJson, Json.Value.fields?_ofMembers (by simp)]
  simp [List.lookup_cons, Json.required]

namespace Feedback

@[simp] theorem ofJson?_toJson (f : Feedback) : ofJson? f.toJson = some f := by
  have hreports := Json.Value.listOf?_list Report.ofJson?_toJson f.reports
  rw [ofJson?, toJson, Json.Value.fields?_ofMembers (by simp)]
  simp [List.lookup_cons, Json.required, hreports]

instance : LawfulDocument Feedback where
  ofJson?_toJson := ofJson?_toJson

@[simp] theorem length_rtake {α : Type} (l : List α) (n : Nat) :
    (l.rtake n).length = min n l.length := by
  rw [List.rtake, List.length_drop]
  omega

theorem rtake_min_length {α : Type} (l : List α) (n : Nat) :
    l.rtake (min n l.length) = l.rtake n := by
  have hdropped : l.length - min n l.length = l.length - n := by omega
  rw [List.rtake, List.rtake, hdropped]

theorem rtake_rtake_append {α : Type} (l l' : List α) (n : Nat) :
    (l.rtake n ++ l').rtake n = (l ++ l').rtake n := by
  simp only [List.rtake_eq_reverse_take_reverse, List.reverse_append, List.reverse_reverse,
    List.take_append, List.take_take, min_eq_left (Nat.sub_le _ _)]

theorem push_eq_rtake (f : Feedback) (r : Report) :
    f.push r = ⟨(f.reports ++ [r]).rtake limit⟩ := by
  have hroom : f.reports.length + 1 - limit ≤ f.reports.length := by
    rw [limit]
    omega
  rw [push, List.rtake, List.length_append, List.length_singleton,
    List.drop_append_of_le_length hroom]

theorem foldl_push_eq_rtake (f : Feedback) {rs : List Report} (hrs : rs ≠ []) :
    rs.foldl push f = ⟨(f.reports ++ rs).rtake limit⟩ := by
  induction rs generalizing f with
  | nil => exact absurd rfl hrs
  | cons r rs ih =>
    rw [List.foldl_cons, push_eq_rtake]
    cases rs with
    | nil => rfl
    | cons r' rs =>
      rw [ih _ (List.cons_ne_nil r' rs), rtake_rtake_append, List.append_assoc,
        List.singleton_append]

/-- How an attempt to submit a report may end: with which answer and with which storage. -/
inductive SubmitEffect (user : UserId) (r : Report) (s : Storage) :
    Except ActionError Unit → Storage → Prop
  | failed (e : ActionError) : SubmitEffect user r s (.error e) s
  | submitted {f : Feedback} (hlook : s.look Feedback user = .ok f) :
      SubmitEffect user r s (.ok ()) (s.keep user (f.push r))

theorem SubmitEffect.rewrites {user : UserId} {r : Report} {s s' : Storage}
    {answer : Except ActionError Unit} (heffect : SubmitEffect user r s answer s') :
    s.Rewrites Feedback user s' := by
  cases heffect with
  | submitted hlook => exact .saved hlook _
  | failed e => exact .same

theorem submit_effect (user : UserId) (r : Report) {s : Store} (hcodec : s.codec = {}) :
    ∃ answer s', (submit user r.content r.issues r.time).perform s = (answer, s') ∧ s.IsLike s' ∧
      SubmitEffect user r s.storage answer s'.storage := by
  obtain ⟨s₁, hlike, hstorage, hload⟩ := ActionM.load_cases Feedback user hcodec
  rw [submit, ActionM.perform]
  obtain ⟨e, hload⟩ | ⟨f, hlook, hload⟩ := hload
  · rw [Perform.bind_of_error hload]
    exact ⟨_, _, rfl, hlike, hstorage ▸ .failed e⟩
  rw [Perform.bind_of_ok hload]
  obtain ⟨s₂, hlike', hsave⟩ :=
    ActionM.save_cases user (f.push r) (hlike.codec.trans hcodec)
  rw [hstorage] at hsave
  obtain ⟨hsame, e, hsave⟩ | ⟨hkeep, hsave⟩ := hsave
  · exact ⟨_, _, hsave, hlike.trans hlike', hsame ▸ .failed e⟩
  · exact ⟨_, _, hsave, hlike.trans hlike', hkeep ▸ .submitted hlook⟩

/-- Where nothing keeps calls from the storage, a report is put on record. -/
theorem submit_of_isOpen {user : UserId} {f : Feedback} {s : Store} (hopen : s.IsOpen)
    (hlook : s.storage.look Feedback user = .ok f) (r : Report) :
    ∃ s', s'.IsOpen ∧ s'.storage = s.storage.keep user (f.push r) ∧
      (submit user r.content r.issues r.time).perform s = (.ok (), s') := by
  obtain ⟨s₁, hopen₁, hstorage₁, hload⟩ := ActionM.load_of_isOpen hopen hlook
  obtain ⟨s₂, hopen₂, hstorage₂, hsave⟩ := ActionM.save_of_isOpen user (f.push r) hopen₁
  refine ⟨s₂, hopen₂, hstorage₁ ▸ hstorage₂, ?_⟩
  rw [submit, ActionM.perform, Perform.bind_of_ok hload]
  exact hsave

end Feedback

end PlayerHub
