import PlayerHub.Player.Action
import PlayerHub.Proofs.Document.Store

namespace PlayerHub

/-- Whether a store treats calls and documents like another one. -/
structure Store.IsLike (s s' : Store) : Prop where
  codec : s'.codec = s.codec
  gate : s'.gate = s.gate

namespace Store.IsLike

variable {s s' s'' : Store}

theorem refl (s : Store) : s.IsLike s := ⟨rfl, rfl⟩

theorem trans (h : s.IsLike s') (h' : s'.IsLike s'') : s.IsLike s'' :=
  ⟨h'.codec.trans h.codec, h'.gate.trans h.gate⟩

end Store.IsLike

/-- Whether nothing keeps calls from the storage. -/
structure Store.IsOpen (s : Store) : Prop where
  codec : s.codec = {}
  gate : ∀ n c, s.gate n c = none
  online : s.storage.online = true

namespace Store

variable {s : Store} {c : Call}

theorem refusal?_eq_none_iff :
    s.refusal? c = none ↔ s.gate s.journal.length c = none ∧ s.storage.online = true := by
  rw [refusal?]
  cases s.gate s.journal.length c with
  | some reason => simp
  | none => simp

theorem refusal?_of_isOpen (hopen : s.IsOpen) (c : Call) : s.refusal? c = none :=
  refusal?_eq_none_iff.2 ⟨hopen.gate _ c, hopen.online⟩

theorem isOpen_noting (hopen : s.IsOpen) (c : Call) : (s.noting c).IsOpen :=
  ⟨hopen.codec, hopen.gate, hopen.online⟩

end Store

namespace ActionM

variable {D : Type} [Document D] {s : Store} {user : UserId} {d : D} {e : StoreError}

/-- A load notes its call, and fails if the call is refused or the document cannot be read. -/
theorem load_eq (hcodec : s.codec = {}) :
    ofStore (Store.load D user) s =
      (((s.refusal? (Store.loading D user)).elim (s.storage.look D user) Except.error).mapError
        ActionError.store, s.noting (Store.loading D user)) := by
  rw [ofStore, Store.perform_load hcodec]
  cases (s.refusal? (Store.loading D user)).elim (s.storage.look D user) Except.error with
  | error e => rfl
  | ok d => rfl

theorem load_of_refusal (hcodec : s.codec = {})
    (hrefusal : s.refusal? (Store.loading D user) = some e) :
    ofStore (Store.load D user) s = (.error (.store e), s.noting (Store.loading D user)) := by
  rw [load_eq hcodec, hrefusal]
  rfl

theorem load_of_look (hcodec : s.codec = {}) (hrefusal : s.refusal? (Store.loading D user) = none)
    (hlook : s.storage.look D user = .ok d) :
    ofStore (Store.load D user) s = (.ok d, s.noting (Store.loading D user)) := by
  rw [load_eq hcodec, hrefusal, hlook]
  rfl

theorem save_of_refusal (hcodec : s.codec = {})
    (hrefusal : s.refusal? (Store.saving user d) = some e) :
    ofStore (Store.save user d) s = (.error (.store e), s.noting (Store.saving user d)) := by
  rw [ofStore, Store.perform_save hcodec, hrefusal]

theorem save_of_passes (hcodec : s.codec = {})
    (hrefusal : s.refusal? (Store.saving user d) = none) :
    ofStore (Store.save user d) s = (.ok (),
      { s.noting (Store.saving user d) with storage := s.storage.keep user d }) := by
  rw [ofStore, Store.perform_save hcodec, hrefusal]

/-- A load fails, or it finds the document that is to be found; the storage stays as it is. -/
theorem load_cases (D : Type) [Document D] (user : UserId) (hcodec : s.codec = {}) :
    ∃ s', s.IsLike s' ∧ s'.storage = s.storage ∧
      ((∃ e, ofStore (Store.load D user) s = (.error e, s')) ∨
        ∃ d, s.storage.look D user = .ok d ∧ ofStore (Store.load D user) s = (.ok d, s')) := by
  refine ⟨s.noting (Store.loading D user), ⟨rfl, rfl⟩, rfl, ?_⟩
  rw [load_eq hcodec]
  cases s.refusal? (Store.loading D user) with
  | some e => exact .inl ⟨.store e, rfl⟩
  | none =>
    cases s.storage.look D user with
    | error e => exact .inl ⟨.store e, rfl⟩
    | ok d => exact .inr ⟨d, rfl, rfl⟩

/-- A save fails without effect, or it puts the document in its place. -/
theorem save_cases (user : UserId) (d : D) (hcodec : s.codec = {}) :
    ∃ s', s.IsLike s' ∧
      ((s'.storage = s.storage ∧ ∃ e, ofStore (Store.save user d) s = (.error e, s')) ∨
        (s'.storage = s.storage.keep user d ∧ ofStore (Store.save user d) s = (.ok (), s'))) := by
  cases hrefusal : s.refusal? (Store.saving user d) with
  | some e =>
    exact ⟨s.noting (Store.saving user d), ⟨rfl, rfl⟩,
      .inl ⟨rfl, .store e, save_of_refusal hcodec hrefusal⟩⟩
  | none =>
    exact ⟨{ s.noting (Store.saving user d) with storage := s.storage.keep user d },
      ⟨rfl, rfl⟩, .inr ⟨rfl, save_of_passes hcodec hrefusal⟩⟩

theorem ofIdentity_ok {α : Type} (a : α) (s : Store) : ofIdentity (.ok a) s = (.ok a, s) := rfl

/-- Where nothing keeps calls from the storage, a load finds what is to be found. -/
theorem load_of_isOpen (hopen : s.IsOpen) (hlook : s.storage.look D user = .ok d) :
    ∃ s', s'.IsOpen ∧ s'.storage = s.storage ∧
      ofStore (Store.load D user) s = (.ok d, s') :=
  ⟨s.noting (Store.loading D user), Store.isOpen_noting hopen _, rfl,
    load_of_look hopen.codec (Store.refusal?_of_isOpen hopen _) hlook⟩

/-- Where nothing keeps calls from the storage, a save puts the document in its place. -/
theorem save_of_isOpen (user : UserId) (d : D) (hopen : s.IsOpen) :
    ∃ s', s'.IsOpen ∧ s'.storage = s.storage.keep user d ∧
      ofStore (Store.save user d) s = (.ok (), s') :=
  ⟨{ s.noting (Store.saving user d) with storage := s.storage.keep user d },
    ⟨hopen.codec, hopen.gate, hopen.online⟩, rfl,
    save_of_passes hopen.codec (Store.refusal?_of_isOpen hopen _)⟩

/-- Whether an action leaves the storage as it is, however it ends. -/
def IsQuiet {α : Type} (act : ActionM α) : Prop :=
  ∀ s : Store, s.codec = {} → ∃ answer s', act s = (answer, s') ∧ s.IsLike s' ∧
    s'.storage = s.storage

variable {α β : Type}

theorem IsQuiet.pure (a : α) : IsQuiet (pure a : ActionM α) :=
  fun s _ => ⟨.ok a, s, rfl, .refl s, rfl⟩

theorem IsQuiet.bind {act : ActionM α} {next : α → ActionM β} (hact : act.IsQuiet)
    (hnext : ∀ a, (next a).IsQuiet) : IsQuiet (act >>= next) := by
  intro s hcodec
  obtain ⟨answer, s', hperform, hlike, hstorage⟩ := hact s hcodec
  cases answer with
  | error e =>
    rw [Perform.bind_of_error hperform]
    exact ⟨.error e, s', rfl, hlike, hstorage⟩
  | ok a =>
    rw [Perform.bind_of_ok hperform]
    obtain ⟨answer, s'', hperform', hlike', hstorage'⟩ := hnext a s' (hlike.codec.trans hcodec)
    exact ⟨answer, s'', hperform', hlike.trans hlike', hstorage'.trans hstorage⟩

theorem IsQuiet.ofIdentity (answer : Except IdentityError α) : IsQuiet (ofIdentity answer) := by
  intro s _
  cases answer with
  | error e => exact ⟨.error (.identity e), s, rfl, .refl s, rfl⟩
  | ok a => exact ⟨.ok a, s, rfl, .refl s, rfl⟩

theorem IsQuiet.load (D : Type) [Document D] (user : UserId) :
    IsQuiet (ofStore (Store.load D user)) := by
  intro s hcodec
  obtain ⟨s', hlike, hstorage, ⟨e, hload⟩ | ⟨d, -, hload⟩⟩ := load_cases D user hcodec
  · exact ⟨_, s', hload, hlike, hstorage⟩
  · exact ⟨_, s', hload, hlike, hstorage⟩

end ActionM

/-- Whether a call is a read. -/
def Call.isRead : Call → Bool
  | .read .. => true
  | .write .. => false

/-- Whether nothing but reads has been asked for between one store and a later one. -/
def Store.OnlyReads (s s' : Store) : Prop :=
  ∃ reads : List Call, s'.journal = reads ++ s.journal ∧ ∀ c ∈ reads, c.isRead = true

theorem Store.OnlyReads.refl (s : Store) : s.OnlyReads s := ⟨[], rfl, by simp⟩

theorem Store.OnlyReads.trans {s s' s'' : Store} (h : s.OnlyReads s') (h' : s'.OnlyReads s'') :
    s.OnlyReads s'' := by
  obtain ⟨reads, hjournal, hreads⟩ := h
  obtain ⟨reads', hjournal', hreads'⟩ := h'
  refine ⟨reads' ++ reads, by rw [hjournal', hjournal, List.append_assoc], fun c hc => ?_⟩
  exact (List.mem_append.1 hc).elim (hreads' c) (hreads c)

namespace ActionM

variable {α β : Type}

/-- Whether an action asks for nothing but reads, however it ends, and leaves gate and codec
alone. -/
def OnlyReads (act : ActionM α) : Prop :=
  ∀ s : Store, s.codec = {} → s.IsLike (act s).2 ∧ s.OnlyReads (act s).2

namespace OnlyReads

theorem pure (a : α) : OnlyReads (pure a : ActionM α) := fun s _ => ⟨.refl s, .refl s⟩

theorem bind {act : ActionM α} {next : α → ActionM β} (hact : act.OnlyReads)
    (hnext : ∀ a, (next a).OnlyReads) : OnlyReads (act >>= next) := by
  intro s hcodec
  obtain ⟨hlike, hreads⟩ := hact s hcodec
  cases hperform : act s with
  | mk answer s' =>
    rw [hperform] at hlike hreads
    cases answer with
    | error e =>
      rw [Perform.bind_of_error hperform]
      exact ⟨hlike, hreads⟩
    | ok a =>
      rw [Perform.bind_of_ok hperform]
      obtain ⟨hlike', hreads'⟩ := hnext a s' (hlike.codec.trans hcodec)
      exact ⟨hlike.trans hlike', hreads.trans hreads'⟩

theorem ofIdentity (answer : Except IdentityError α) : OnlyReads (ofIdentity answer) := by
  intro s _
  cases answer with
  | error e => exact ⟨.refl s, .refl s⟩
  | ok a => exact ⟨.refl s, .refl s⟩

theorem load (D : Type) [Document D] (user : UserId) :
    OnlyReads (ofStore (Store.load D user)) := by
  intro s hcodec
  rw [load_eq hcodec]
  exact ⟨⟨rfl, rfl⟩, [Store.loading D user], rfl, fun c hc => List.mem_singleton.1 hc ▸ rfl⟩

end OnlyReads

end ActionM

end PlayerHub
