import PlayerHub.Proofs.Player.Feedback

namespace PlayerHub

variable {D : Type} [Document D]

namespace Storage

variable (D) in
/-- What is stored as a user's document, whoever may read it. -/
def stored? (s : Storage) (user : UserId) : Option Content :=
  s.objects.get? (Store.place D (.user user))

variable (D) in
/-- Whether something is stored as a user's document that the user may not read. -/
def Conceals (s : Storage) (user : UserId) : Prop :=
  ∃ content, s.stored? D user = some content ∧ content.read = .noRead

variable (D) in
/-- What is stored as a user's document, whoever may read it: empty if nothing is. -/
def decoded (s : Storage) (user : UserId) : Except StoreError D :=
  match s.stored? D user with
  | none => .ok Document.fresh
  | some content => Document.read D content.value

variable {s : Storage} {user user' : UserId}

theorem mayRead_owner {id : ObjectId} (howner : id.owner = .user user) (content : Content) :
    mayRead (.client user) id content = true ↔ content.read ≠ .noRead := by
  simp only [mayRead]
  cases hread : content.read with
  | noRead => simp
  | ownerRead => simp [howner]
  | publicRead => simp

theorem find?_owner_of_conceals (hconceals : s.Conceals D user) :
    s.find? (.client user) (Store.place D (.user user)) = none := by
  obtain ⟨content, hstored, hread⟩ := hconceals
  have hhidden : ¬ mayRead (.client user) (Store.place D (.user user)) content = true := by
    rw [mayRead_owner rfl]
    exact fun hshown => hshown hread
  rw [stored?] at hstored
  rw [find?, hstored, Option.bind_eq_bind, Option.bind_some, if_neg hhidden]

theorem find?_owner_of_not_conceals (hshown : ¬ s.Conceals D user) :
    s.find? (.client user) (Store.place D (.user user)) =
      (s.stored? D user).map fun content => ⟨Store.place D (.user user), content⟩ := by
  cases hstored : s.stored? D user with
  | none =>
    rw [stored?] at hstored
    rw [find?, hstored]
    rfl
  | some content =>
    have hread : mayRead (.client user) (Store.place D (.user user)) content = true := by
      rw [mayRead_owner rfl]
      exact fun hhidden => hshown ⟨content, hstored, hhidden⟩
    rw [stored?] at hstored
    rw [find?, hstored, Option.bind_eq_bind, Option.bind_some, if_pos hread, Option.map_some]

theorem look_of_find?_none (hfind : s.find? (.client user) (Store.place D (.user user)) = none) :
    s.look D user = .ok Document.fresh := by
  rw [look, view, hfind]

theorem look_of_not_conceals (hshown : ¬ s.Conceals D user) {content : Content}
    (hstored : s.stored? D user = some content) :
    s.look D user = Document.read D content.value := by
  rw [look, view, find?_owner_of_not_conceals hshown, hstored, Option.map_some]

theorem look_eq_decoded (hshown : ¬ s.Conceals D user) : s.look D user = s.decoded D user := by
  rw [decoded]
  cases hstored : s.stored? D user with
  | none =>
    apply look_of_find?_none
    rw [find?_owner_of_not_conceals hshown, hstored, Option.map_none]
  | some content => exact look_of_not_conceals hshown hstored

/-- A document that is not the fresh one has been stored. -/
theorem decoded_of_look {d : D} (hlook : s.look D user = .ok d) (hused : d ≠ Document.fresh) :
    s.decoded D user = .ok d := by
  have hshown : ¬ s.Conceals D user := by
    intro hconceals
    rw [look_of_find?_none (find?_owner_of_conceals hconceals), Except.ok.injEq] at hlook
    exact hused hlook.symm
  rw [← look_eq_decoded hshown, hlook]

theorem stored?_keep_self (s : Storage) (user : UserId) (d : D) :
    (s.keep user d).stored? D user = some ⟨Document.encode d, .ownerRead, .noWrite⟩ := by
  rw [stored?, keep, putDocument, put, KeyMap.get?_insert, if_pos rfl]

theorem stored?_keep_of_user_ne (s : Storage) (d : D) (huser : user' ≠ user) :
    (s.keep user d).stored? D user' = s.stored? D user' := by
  apply get?_keep_of_ne
  intro hplace
  have howner : Owner.user user' = .user user := congrArg ObjectId.owner hplace
  exact huser (Owner.user.inj howner)

theorem decoded_keep_self [LawfulDocument D] (s : Storage) (user : UserId) (d : D) :
    (s.keep user d).decoded D user = .ok d := by
  simp only [decoded, stored?_keep_self, Document.read, Document.decode?_encode]

theorem decoded_keep_of_user_ne (s : Storage) (d : D) (huser : user' ≠ user) :
    (s.keep user d).decoded D user' = s.decoded D user' := by
  rw [decoded, stored?_keep_of_user_ne s d huser, decoded]

theorem not_conceals_empty : ¬ ({} : Storage).Conceals D user := by
  rintro ⟨content, hstored, -⟩
  cases hstored

/-- A document that is kept for a user can be read by the user. -/
theorem not_conceals_keep (d : D) (hshown : ¬ s.Conceals D user') :
    ¬ (s.keep user d).Conceals D user' := by
  rintro ⟨content, hstored, hhidden⟩
  by_cases huser : user' = user
  · subst huser
    rw [stored?_keep_self] at hstored
    cases hstored
    cases hhidden
  · rw [stored?_keep_of_user_ne s d huser] at hstored
    exact hshown ⟨content, hstored, hhidden⟩

end Storage

namespace Store

variable (D) in
/-- Whether a load of a user's document finds nothing, and starts afresh. -/
def StartsAfresh (s : Store) (user : UserId) : Prop :=
  ((read (.client user) [place D (.user user)]).perform s).1 = .ok []

/-- Loads the document of a user, changes it and saves it. -/
def revise (user : UserId) (change : D → D) : StoreM Unit := do
  let d ← load D user
  save user (change d)

variable (D) in
/-- Whether loads and the saves that follow them go by what is stored as a user's document. -/
structure GoesByStored (s : Store) (user : UserId) : Prop where
  startsAfresh_iff : s.StartsAfresh D user ↔ s.storage.stored? D user = none
  load_eq : ∀ content, s.storage.stored? D user = some content →
    ((load D user).perform s).1 = Document.read D content.value
  revise_eq : ∀ content (change : D → D), s.storage.stored? D user = some content →
    ((revise user change).perform s).2.storage =
      match Document.read D content.value with
      | .ok d => s.storage.keep user (change d)
      | .error _ => s.storage

variable {s : Store} {user : UserId}

theorem perform_load_of_isOpen (hopen : s.IsOpen) :
    (load D user).perform s = (s.storage.look D user, s.noting (loading D user)) := by
  rw [perform_load hopen.codec, refusal?_of_isOpen hopen]
  rfl

theorem startsAfresh_iff_find? (hopen : s.IsOpen) :
    s.StartsAfresh D user ↔
      s.storage.find? (.client user) (place D (.user user)) = none := by
  rw [StartsAfresh, StoreM.perform, read_eq, refusal?_of_isOpen hopen, Option.elim_none]
  cases s.storage.find? (.client user) (place D (.user user)) with
  | none => simp
  | some o => simp

/-- A document that cannot be loaded is left alone, and any other is put in its place anew. -/
theorem storage_revise_of_isOpen (hopen : s.IsOpen) (change : D → D) :
    ((revise user change).perform s).2.storage =
      match s.storage.look D user with
      | .ok d => s.storage.keep user (change d)
      | .error _ => s.storage := by
  have hload : load D user s = (s.storage.look D user, s.noting (loading D user)) :=
    perform_load_of_isOpen hopen
  rw [revise, StoreM.perform]
  cases hlook : s.storage.look D user with
  | error e =>
    rw [hlook] at hload
    rw [Perform.bind_of_error hload]
    rfl
  | ok d =>
    rw [hlook] at hload
    have hsave := @perform_save D _ (s.noting (loading D user)) user hopen.codec (change d)
    rw [refusal?_of_isOpen (isOpen_noting hopen _)] at hsave
    rw [Perform.bind_of_ok hload]
    exact congrArg (fun result => result.2.storage) hsave

theorem goesByStored_of_not_conceals (hopen : s.IsOpen) (hshown : ¬ s.storage.Conceals D user) :
    s.GoesByStored D user where
  startsAfresh_iff := by
    rw [startsAfresh_iff_find? hopen, Storage.find?_owner_of_not_conceals hshown,
      Option.map_eq_none_iff]
  load_eq := by
    intro content hstored
    rw [perform_load_of_isOpen hopen, Storage.look_of_not_conceals hshown hstored]
  revise_eq := by
    intro content change hstored
    rw [storage_revise_of_isOpen hopen, Storage.look_of_not_conceals hshown hstored]

/-- Whatever is stored, loads and saves go by it exactly if it is not kept from its owner. A load
that starts afresh gives the fresh document, and a save after it puts that in place of what was
there. -/
theorem goesByStored_iff_not_conceals (objects : KeyMap ObjectId Content) (user : UserId) :
    let s : Store := { storage := { objects } }
    (s.GoesByStored D user ↔ ¬ s.storage.Conceals D user) ∧
      (s.StartsAfresh D user → ((load D user).perform s).1 = .ok Document.fresh ∧
        ∀ change : D → D, ((revise user change).perform s).2.storage =
          s.storage.keep user (change Document.fresh)) := by
  intro s
  have hopen : s.IsOpen := ⟨rfl, fun _ _ => rfl, rfl⟩
  constructor
  · constructor
    · rintro hgoes ⟨content, hstored, hread⟩
      have hfind := Storage.find?_owner_of_conceals ⟨content, hstored, hread⟩
      have hnone := hgoes.startsAfresh_iff.1 ((startsAfresh_iff_find? hopen).2 hfind)
      rw [hstored] at hnone
      cases hnone
    · exact goesByStored_of_not_conceals hopen
  · intro hafresh
    have hlook := Storage.look_of_find?_none ((startsAfresh_iff_find? hopen).1 hafresh)
    constructor
    · rw [perform_load_of_isOpen hopen, hlook]
    · intro change
      rw [storage_revise_of_isOpen hopen, hlook]

/-- A player whose reports are kept from the player loses them with the next report. -/
theorem concealed_reports_written_over :
    let ada : UserId := ⟨List.replicate 32 1, List.length_replicate⟩
    let noon : Calendar.Instant :=
      ⟨⟨2024, 2, 29, by decide, by decide⟩, 12, 0, 0, 0,
        by decide, by decide, by decide, by decide, by decide⟩
    let old : Feedback := ⟨[⟨"old", 1, noon⟩]⟩
    let objects : KeyMap ObjectId Content :=
      KeyMap.empty.insert (place Feedback (.user ada)) ⟨Document.encode old, .noRead, .noWrite⟩
    let s : Store := { storage := { objects } }
    let s' := ((Feedback.submit ada "new" 2 noon).perform s).2
    Document.read Feedback (Document.encode old) = .ok old ∧
      ((load Feedback ada).perform s).1 = .ok {} ∧
      s'.storage.stored? Feedback ada =
        some ⟨Document.encode (⟨[⟨"new", 2, noon⟩]⟩ : Feedback), .ownerRead, .noWrite⟩ ∧
      ¬ s.GoesByStored Feedback ada := by
  intro ada noon old objects s s'
  have hread : Document.read Feedback (Document.encode old) = .ok old := by
    rw [Document.read, Document.decode?_encode]
  have hload : ((load Feedback ada).perform s).1 = .ok {} := rfl
  refine ⟨hread, hload, rfl, ?_⟩
  intro hgoes
  have hstored := hgoes.load_eq _ rfl
  rw [hload, hread] at hstored
  have hreports := congrArg Feedback.reports (Except.ok.inj hstored)
  exact List.cons_ne_nil _ _ hreports.symm

end Store

end PlayerHub
