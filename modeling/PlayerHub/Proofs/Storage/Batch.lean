import PlayerHub.Proofs.Storage.Confinement

namespace PlayerHub

namespace Storage

variable {s : Storage} {caller : Caller} {user : UserId} {batch : List Object} {o : Object}

/-- The first object that a caller may not write, where each object is checked against what the
earlier ones have left. -/
def deniedInTurn? (s : Storage) (caller : Caller) : List Object → Option Object
  | [] => none
  | o :: batch => if s.mayWrite caller o.id then (s.put o).deniedInTurn? caller batch else some o

/-- Whether no object of a batch locks the place of a later one. -/
def LeavesOpen (batch : List Object) : Prop :=
  batch.Pairwise fun o o' => o'.id = o.id → o.content.write ≠ .noWrite

theorem denied?_eq_none_iff :
    s.denied? caller batch = none ↔ ∀ o ∈ batch, s.mayWrite caller o.id = true := by
  refine ⟨mayWrite_of_denied?_eq_none, fun hall => List.find?_eq_none.2 fun o hmem => ?_⟩
  rw [hall o hmem]
  decide

theorem mem_of_denied? (hdenied : s.denied? caller batch = some o) : o ∈ batch :=
  List.mem_of_find?_eq_some hdenied

/-- Once an object is written, its place may be written to again as far as the object allows. -/
theorem mayWrite_put_iff (hallowed : s.mayWrite (.client user) o.id = true) (id : ObjectId) :
    (s.put o).mayWrite (.client user) id = true ↔
      s.mayWrite (.client user) id = true ∧ (id = o.id → o.content.write ≠ .noWrite) := by
  by_cases hid : id = o.id
  · subst hid
    have howner : decide (o.id.owner = .user user) = true := (Bool.and_eq_true_iff.1 hallowed).1
    rw [and_iff_right hallowed, mayWrite, get?_put, if_pos rfl, howner, Bool.true_and,
      Option.all_some, decide_eq_true_iff]
    exact ⟨fun hopen _ => hopen, fun hopen => hopen rfl⟩
  · rw [mayWrite, get?_put, if_neg hid, mayWrite]
    simp only [hid, false_imp_iff, and_true]

theorem deniedInTurn?_server (s : Storage) (batch : List Object) :
    s.deniedInTurn? .server batch = none := by
  induction batch generalizing s with
  | nil => rfl
  | cons o batch ih => exact ih (s.put o)

theorem deniedInTurn?_client_eq_none_iff : s.deniedInTurn? (.client user) batch = none ↔
    s.denied? (.client user) batch = none ∧ LeavesOpen batch := by
  simp only [denied?_eq_none_iff]
  induction batch generalizing s with
  | nil => simp [deniedInTurn?, LeavesOpen]
  | cons o batch ih =>
    rw [deniedInTurn?, LeavesOpen, List.pairwise_cons, List.forall_mem_cons]
    by_cases hallowed : s.mayWrite (.client user) o.id = true
    · rw [if_pos hallowed, ih]
      simp only [mayWrite_put_iff hallowed, forall_and, hallowed, true_and, and_assoc]
      rfl
    · simp [hallowed]

/-- What is written one by one is refused where the batch is, and also where a client's batch locks
the place of one of its later objects. -/
theorem deniedInTurn?_eq_none_iff : s.deniedInTurn? caller batch = none ↔
    s.denied? caller batch = none ∧ (caller = .server ∨ LeavesOpen batch) := by
  cases caller with
  | server => simp [deniedInTurn?_server, denied?_server]
  | client user => simp [deniedInTurn?_client_eq_none_iff]

end Storage

namespace Store

variable {s : Store} {caller : Caller} {batch : List Object}

/-- Writes objects one by one, up to the first that is refused. -/
def writeInTurn (caller : Caller) : List Object → StoreM Unit
  | [] => pure ()
  | o :: batch => do
    write caller [o]
    writeInTurn caller batch

/-- The answer to a write that has reached the storage, by the object that was denied. -/
def writeAnswer : Option Object → Except StoreError Unit
  | some o => .error (.permissionDenied o.id.collection o.id.key)
  | none => .ok ()

theorem writeAnswer_eq_ok_iff {denied : Option Object} :
    writeAnswer denied = .ok () ↔ denied = none := by
  cases denied <;> simp [writeAnswer]

/-- A batch that reaches the storage is written as a whole, or not at all. -/
theorem perform_write_of_reached (hgate : ∀ n c, s.gate n c = none)
    (honline : s.storage.online = true) :
    (write caller batch).perform s = (writeAnswer (s.storage.denied? caller batch),
      { s.noting (.write caller batch) with
        storage := if s.storage.denied? caller batch = none then batch.foldl Storage.put s.storage
          else s.storage }) := by
  have hreached : s.refusal? (.write caller batch) = none := by
    rw [refusal?, hgate, honline]
    rfl
  rw [perform_write, hreached]
  cases s.storage.denied? caller batch with
  | some o => rfl
  | none => rfl

/-- Written one by one, objects are checked against what the earlier ones have left. -/
theorem perform_writeInTurn (hgate : ∀ n c, s.gate n c = none)
    (honline : s.storage.online = true) :
    ((writeInTurn caller batch).perform s).1 =
        writeAnswer (s.storage.deniedInTurn? caller batch) ∧
      (s.storage.deniedInTurn? caller batch = none →
        ((writeInTurn caller batch).perform s).2.storage = batch.foldl Storage.put s.storage) := by
  induction batch generalizing s with
  | nil => exact ⟨rfl, fun _ => rfl⟩
  | cons o batch ih =>
    have hfirst := @perform_write_of_reached s caller [o] hgate honline
    have hdenied : s.storage.denied? caller [o] =
        if s.storage.mayWrite caller o.id then none else some o := by
      rw [Storage.denied?, List.find?_cons, List.find?_nil]
      cases s.storage.mayWrite caller o.id <;> rfl
    rw [writeInTurn, StoreM.perform, Storage.deniedInTurn?]
    rw [StoreM.perform, hdenied] at hfirst
    by_cases hallowed : s.storage.mayWrite caller o.id = true
    · rw [if_pos hallowed] at hfirst ⊢
      rw [Perform.bind_of_ok hfirst]
      exact ih hgate honline
    · rw [if_neg hallowed] at hfirst ⊢
      rw [Perform.bind_of_error hfirst]
      exact ⟨rfl, fun hnone => absurd hnone (Option.some_ne_none o)⟩

/-- A batch does what its objects do one by one, where all of these are written. Where one of them
is refused, so is the batch, and the storage stays as it is; unless the batch is a client's and
locks the place of one of its later objects. Such a batch is never written one by one, and as a
batch it is written if each of its objects may be written over what was stored before. -/
theorem batch_agrees_with_writes_in_turn (hgate : ∀ n c, s.gate n c = none)
    (honline : s.storage.online = true) (caller : Caller) (batch : List Object) :
    let whole := (write caller batch).perform s
    let inTurn := (writeInTurn caller batch).perform s
    (inTurn.1 = .ok () → whole.1 = .ok () ∧ whole.2.storage = inTurn.2.storage) ∧
    (inTurn.1 ≠ .ok () →
      (∃ o ∈ batch, whole.1 = .error (.permissionDenied o.id.collection o.id.key)) ∧
          whole.2.storage = s.storage ∨
        whole.1 = .ok () ∧ whole.2.storage = batch.foldl Storage.put s.storage ∧
          caller ≠ .server ∧ ¬ Storage.LeavesOpen batch) ∧
    (caller ≠ .server → ¬ Storage.LeavesOpen batch → inTurn.1 ≠ .ok () ∧
      (whole.1 = .ok () ↔ ∀ o ∈ batch, s.storage.mayWrite caller o.id = true)) := by
  intro whole inTurn
  have hwhole : whole = _ := perform_write_of_reached hgate honline
  obtain ⟨hanswer, hstorage⟩ := @perform_writeInTurn s caller batch hgate honline
  have hturn : inTurn.1 = .ok () ↔ s.storage.denied? caller batch = none ∧
      (caller = .server ∨ Storage.LeavesOpen batch) := by
    rw [← Storage.deniedInTurn?_eq_none_iff, ← writeAnswer_eq_ok_iff, ← hanswer]
  refine ⟨fun hok => ?_, fun hrefused => ?_, fun hclient hlocks => ⟨fun hok => ?_, ?_⟩⟩
  · have hdenied := (hturn.1 hok).1
    have hkept := hstorage (Storage.deniedInTurn?_eq_none_iff.2 (hturn.1 hok))
    rw [hwhole, hdenied]
    exact ⟨rfl, hkept.symm⟩
  · cases hdenied : s.storage.denied? caller batch with
    | some o =>
      rw [hwhole, hdenied]
      exact .inl ⟨⟨o, Storage.mem_of_denied? hdenied, rfl⟩, rfl⟩
    | none =>
      have hlocks : ¬ (caller = .server ∨ Storage.LeavesOpen batch) :=
        fun hspared => hrefused (hturn.2 ⟨hdenied, hspared⟩)
      rw [hwhole, hdenied]
      exact .inr ⟨rfl, rfl, not_or.1 hlocks⟩
  · exact (hturn.1 hok).2.elim hclient hlocks
  · rw [hwhole, writeAnswer_eq_ok_iff, Storage.denied?_eq_none_iff]

/-- Eve writes a note twice, in a batch as one by one. Nothing is left of her other batch, where the
note is followed by one of Ada's. -/
theorem batches_of_eve_agree_with_writes_in_turn :
    let ada : UserId := ⟨List.replicate 32 1, List.length_replicate⟩
    let eve : UserId := ⟨List.replicate 32 2, List.length_replicate⟩
    let note (owner : UserId) (text : String) : Object :=
      ⟨⟨"notes", "a", .user owner⟩, ⟨text, .ownerRead, .ownerWrite⟩⟩
    let s : Store := { storage := ({} : Storage).put (note ada "ada") }
    let whole (batch : List Object) := (write (.client eve) batch).perform s
    let inTurn (batch : List Object) := (writeInTurn (.client eve) batch).perform s
    let twice := [note eve "one", note eve "two"]
    let foreign := [note eve "one", note ada "eve"]
    ((∀ n c, s.gate n c = none) ∧ s.storage.online = true) ∧
      ((whole twice).1 = .ok () ∧ (whole twice).2.storage = (inTurn twice).2.storage) ∧
      (whole foreign).1 = .error (.permissionDenied "notes" "a") ∧
        (whole foreign).2.storage = s.storage := by
  intro ada eve note s whole inTurn twice foreign
  have hgate : ∀ n c, s.gate n c = none := fun _ _ => rfl
  obtain ⟨hwritten, -, -⟩ := batch_agrees_with_writes_in_turn hgate rfl (.client eve) twice
  obtain ⟨-, hrefused, -⟩ := batch_agrees_with_writes_in_turn hgate rfl (.client eve) foreign
  refine ⟨⟨hgate, rfl⟩, hwritten rfl, rfl, ?_⟩
  obtain ⟨-, hkept⟩ | ⟨hok, -⟩ := hrefused nofun
  · exact hkept
  · cases hok

/-- Eve locks her note and writes it again. One by one the second write is refused; the batch of the
two is written. -/
theorem batch_writes_over_its_own_lock :
    let eve : UserId := ⟨List.replicate 32 2, List.length_replicate⟩
    let id : ObjectId := ⟨"notes", "a", .user eve⟩
    let locked : Content := ⟨"one", .ownerRead, .noWrite⟩
    let later : Content := ⟨"two", .ownerRead, .ownerWrite⟩
    let batch : List Object := [⟨id, locked⟩, ⟨id, later⟩]
    let whole := (write (.client eve) batch).perform {}
    let inTurn := (writeInTurn (.client eve) batch).perform {}
    inTurn.1 = .error (.permissionDenied "notes" "a") ∧
      inTurn.2.storage.objects.get? id = some locked ∧
      whole.1 = .ok () ∧ whole.2.storage.objects.get? id = some later := by
  intro eve id locked later batch whole inTurn
  exact ⟨rfl, rfl, rfl, rfl⟩

end Store

end PlayerHub
