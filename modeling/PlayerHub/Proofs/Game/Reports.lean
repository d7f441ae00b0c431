import PlayerHub.Proofs.Document.Concealed
import PlayerHub.Proofs.Game.Invites

namespace PlayerHub

/-- The report of a user that a call is to put on record. -/
def GameCall.report? (user : UserId) : GameCall → Option Report
  | .report user' r => if user' = user then some r else none
  | _ => none

namespace Game

/-- The report that a call puts on record for a user. -/
def reportOf? (g : Game) (user : UserId) (c : GameCall) : Option Report :=
  match g.answer c with
  | .report (.ok ()) => c.report? user
  | _ => none

/-- The reports that a run puts on record for a user. -/
def reportsOf (g : Game) (user : UserId) : List GameCall → List Report
  | [] => []
  | c :: calls => (g.reportOf? user c).toList ++ (g.next c).reportsOf user calls

variable {g : Game} {user : UserId} {f : Feedback} {c : GameCall} {r : Report}

theorem report?_eq_some_iff : c.report? user = some r ↔ c = .report user r := by
  cases c with
  | report user' r' =>
    rw [GameCall.report?, Option.ite_none_right_eq_some, Option.some.injEq,
      GameCall.report.injEq]
  | _ => simp [GameCall.report?]

theorem reportOf?_eq_some_iff :
    g.reportOf? user c = some r ↔ c = .report user r ∧ g.answer c = .report (.ok ()) := by
  rw [reportOf?]
  split
  · rename_i hanswer
    rw [report?_eq_some_iff, and_iff_left hanswer]
  · rename_i hanswer
    simp only [reduceCtorEq, false_iff, not_and]
    exact fun _ => hanswer

/-- A call puts a report of a user on record, or it leaves the record of the user alone. -/
theorem look_feedback_next (hcodec : g.store.codec = {})
    (hlook : g.store.storage.look Feedback user = .ok f) (c : GameCall) :
    (g.next c).store.storage.look Feedback user =
      .ok ((g.reportOf? user c).toList.foldl Feedback.push f) := by
  cases hreport : g.reportOf? user c with
  | some r =>
    obtain ⟨rfl, hanswer⟩ := reportOf?_eq_some_iff.1 hreport
    obtain ⟨answer, s', hanswer', hstorage, heffect⟩ := report_next hcodec user r
    rw [hstorage]
    cases heffect with
    | submitted hlook' =>
      cases hlook'.symm.trans hlook
      exact Storage.look_keep_self _ _ _
    | failed e => cases hanswer'.symm.trans hanswer
  | none =>
    rw [Option.toList_none, List.foldl_nil, ← hlook]
    by_cases hkey : c.key? = some (Document.key Feedback)
    · cases c with
      | report user' r =>
        obtain ⟨answer, s', hanswer, hstorage, heffect⟩ := report_next hcodec user' r
        rw [hstorage]
        cases heffect with
        | submitted hlook' =>
          have huser : user ≠ user' := by
            rintro rfl
            rw [reportOf?_eq_some_iff.2 ⟨rfl, hanswer⟩] at hreport
            cases hreport
          exact Storage.look_keep_of_user_ne _ _ huser
        | failed e => rfl
      | _ => simp [GameCall.key?, Document.key] at hkey
    · exact look_next_of_key_ne hcodec hkey user

theorem look_feedback_run (hcodec : g.store.codec = {})
    (hlook : g.store.storage.look Feedback user = .ok f) (calls : List GameCall) :
    (g.run calls).store.storage.look Feedback user =
      .ok ((g.reportsOf user calls).foldl Feedback.push f) := by
  induction calls generalizing g f with
  | nil => exact hlook
  | cons c calls ih =>
    rw [run, ih (codec_next hcodec c) (look_feedback_next hcodec hlook c), reportsOf,
      List.foldl_append]

/-- However many reports of a user are on record: once a run has put more of them on record, what is
stored is the end of the list of all of them, the old before the new and each in their order, as far
back as the limit allows. The user loads the same. -/
theorem last_reports_stay (hcodec : g.store.codec = {})
    (hlook : g.store.storage.look Feedback user = .ok f) {calls : List GameCall}
    (hsome : g.reportsOf user calls ≠ []) :
    let rs := g.reportsOf user calls
    let kept := (f.reports ++ rs).rtake (min Feedback.limit (f.reports.length + rs.length))
    (g.run calls).store.storage.decoded Feedback user = .ok ⟨kept⟩ ∧
      (g.run calls).store.storage.look Feedback user = .ok ⟨kept⟩ := by
  intro rs kept
  have hfold : rs.foldl Feedback.push f = ⟨kept⟩ := by
    rw [Feedback.foldl_push_eq_rtake f hsome, ← Feedback.rtake_min_length, List.length_append]
  have hrun := look_feedback_run hcodec hlook calls
  rw [hfold] at hrun
  refine ⟨Storage.decoded_of_look hrun fun hfresh => ?_, hrun⟩
  have hnew : 0 < rs.length := List.length_pos_iff.2 hsome
  have hlength : kept.length = 0 := congrArg (fun f => f.reports.length) hfresh
  rw [Feedback.length_rtake, List.length_append, Feedback.limit] at hlength
  omega

theorem reportOf?_of_isOpen (hopen : g.store.IsOpen)
    (hlook : g.store.storage.look Feedback user = .ok f) (c : GameCall) :
    g.reportOf? user c = c.report? user := by
  ext r
  rw [reportOf?_eq_some_iff, report?_eq_some_iff, and_iff_left_iff_imp]
  rintro rfl
  obtain ⟨s', -, -, hperform⟩ := Feedback.submit_of_isOpen hopen hlook r
  rw [answer, perform, act, hperform]

/-- Where nothing keeps calls from the storage, all reports of a user are put on record whose record
can be read. -/
theorem reportsOf_of_isOpen (hopen : g.store.IsOpen)
    (hlook : g.store.storage.look Feedback user = .ok f) (calls : List GameCall) :
    g.reportsOf user calls = calls.filterMap (GameCall.report? user) := by
  induction calls generalizing g f with
  | nil => rfl
  | cons c calls ih =>
    have hlook' := look_feedback_next hopen.codec hlook c
    rw [reportsOf, reportOf?_of_isOpen hopen hlook, ih (isOpen_next hopen c) hlook',
      List.filterMap_cons]
    cases c.report? user <;> rfl

/-- Twelve reports are on record, two more than are kept, and eight of them are left after two new
ones. -/
theorem eight_of_twelve_reports_stay :
    let ada := userOfDigit 1
    let noon : Calendar.Instant :=
      ⟨⟨2024, 2, 29, by decide, by decide⟩, 12, 0, 0, 0,
        by decide, by decide, by decide, by decide, by decide⟩
    let report := fun n : Int32 => (⟨"Level 5 does not load.", n, noon⟩ : Report)
    let old : Feedback := ⟨[0, 1, 2, 3, 4, 5, 6, 7, 8, 9, 10, 11].map report⟩
    let g : Game := { store := { storage := ({} : Storage).keep ada old } }
    let calls : List GameCall := [.report ada (report 12), .report (userOfDigit 2) (report 13),
      .advance ada "L1001", .report ada (report 14)]
    g.store.storage.look Feedback ada = .ok old ∧
      g.reportsOf ada calls = [report 12, report 14] ∧
      (g.run calls).store.storage.decoded Feedback ada =
        .ok ⟨[4, 5, 6, 7, 8, 9, 10, 11, 12, 14].map report⟩ := by
  intro ada noon report old g calls
  have hlook : g.store.storage.look Feedback ada = .ok old := Storage.look_keep_self _ _ _
  have hopen : g.store.IsOpen := ⟨rfl, fun _ _ => rfl, rfl⟩
  have hnew : g.reportsOf ada calls = [report 12, report 14] :=
    reportsOf_of_isOpen hopen hlook calls
  have hsome : g.reportsOf ada calls ≠ [] := hnew ▸ List.cons_ne_nil _ _
  have hkept := (last_reports_stay rfl hlook hsome).1
  rw [hnew] at hkept
  exact ⟨hlook, hnew, hkept⟩

end Game

end PlayerHub
