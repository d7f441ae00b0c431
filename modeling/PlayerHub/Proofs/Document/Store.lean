import PlayerHub.Document.Store
import PlayerHub.Proofs.Document.Basic
import PlayerHub.Proofs.Perform

namespace PlayerHub

variable {D : Type} [Document D]

variable (D) in
/-- What a stored text is found to be when it is read as a document. -/
def Document.read (text : String) : Except StoreError D :=
  match decode? D text with
  | some d => .ok d
  | none => .error (.corrupt (collection D) (key D) "the text is no document of this kind")

namespace Storage

variable (D) in
/-- What an owner's document is found to be by a caller whom nothing keeps from it. -/
def view (s : Storage) (caller : Caller) (owner : Owner) : Except StoreError D :=
  match s.find? caller (Store.place D owner) with
  | none => .ok Document.fresh
  | some o => Document.read D o.content.value

variable (D) in
/-- What a user's document is found to be where nothing keeps the user from it. -/
def look (s : Storage) (user : UserId) : Except StoreError D := s.view D (.client user) (.user user)

/-- The storage with a document of an owner in its place. -/
def putDocument (s : Storage) (owner : Owner) (d : D) : Storage :=
  s.put ⟨Store.place D owner, ⟨Document.encode d, .ownerRead, .noWrite⟩⟩

/-- The storage with a document of a user in its place. -/
def keep (s : Storage) (user : UserId) (d : D) : Storage := s.putDocument (.user user) d

/-- The first object of a batch that a caller may not write, if there is one. -/
def denied? (s : Storage) (caller : Caller) (batch : List Object) : Option Object :=
  batch.find? fun o => !s.mayWrite caller o.id

theorem denied?_server (s : Storage) (batch : List Object) : s.denied? .server batch = none :=
  List.find?_eq_none.2 fun _ _ => Bool.false_ne_true

theorem look_empty (user : UserId) : ({} : Storage).look D user = .ok Document.fresh := rfl

theorem find?_put (s : Storage) (o : Object) (caller : Caller) (id : ObjectId) :
    (s.put o).find? caller id =
      if id = o.id then (if mayRead caller id o.content then some ⟨id, o.content⟩ else none)
      else s.find? caller id := by
  rw [find?, put, KeyMap.get?_insert]
  by_cases hid : id = o.id
  · rw [if_pos hid, if_pos hid]
    rfl
  · rw [if_neg hid, if_neg hid]
    rfl

theorem get?_keep_of_ne {id : ObjectId} (s : Storage) (user : UserId) (d : D)
    (hid : id ≠ Store.place D (.user user)) :
    (s.keep user d).objects.get? id = s.objects.get? id := by
  rw [keep, putDocument, put, KeyMap.get?_insert, if_neg hid]

@[simp] theorem look_keep_self [LawfulDocument D] (s : Storage) (user : UserId) (d : D) :
    (s.keep user d).look D user = .ok d := by
  have hread : mayRead (.client user) (Store.place D (.user user))
      ⟨Document.encode d, .ownerRead, .noWrite⟩ = true := decide_eq_true rfl
  rw [look, view, keep, putDocument, find?_put, if_pos rfl, if_pos hread]
  simp only [Document.read, Document.decode?_encode]

theorem look_keep_of_ne {E : Type} [Document E] (s : Storage) {user user' : UserId} (d : D)
    (h : Store.place E (.user user') ≠ Store.place D (.user user)) :
    (s.keep user d).look E user' = s.look E user' := by
  rw [look, view, keep, putDocument, find?_put, if_neg h, look, view]

theorem look_keep_of_key_ne {E : Type} [Document E] (s : Storage) {user user' : UserId} (d : D)
    (h : Document.key E ≠ Document.key D) : (s.keep user d).look E user' = s.look E user' := by
  apply look_keep_of_ne
  intro hplace
  exact h (congrArg ObjectId.key hplace)

theorem look_keep_of_user_ne {E : Type} [Document E] (s : Storage) {user user' : UserId} (d : D)
    (h : user' ≠ user) : (s.keep user d).look E user' = s.look E user' := by
  apply look_keep_of_ne
  intro hplace
  simp only [Store.place, ObjectId.mk.injEq, Owner.user.injEq] at hplace
  exact h hplace.2.2

/-- Of two documents that are kept for a user one after the other, the later one stays. -/
theorem keep_keep (s : Storage) (user : UserId) (d d' : D) :
    (s.keep user d).keep user d' = s.keep user d' := by
  simp only [keep, putDocument, put, KeyMap.insert_insert]

variable (D) in
/-- Whether a storage is left as it was, or differs by a save of a user's document that could be
loaded. -/
inductive Rewrites (s : Storage) (user : UserId) : Storage → Prop
  | same : Rewrites s user s
  | saved {d : D} (hlook : s.look D user = .ok d) (d' : D) : Rewrites s user (s.keep user d')

end Storage

namespace Store

/-- Why a call does not reach the storage, if it does not. -/
def refusal? (s : Store) (c : Call) : Option StoreError :=
  match s.gate s.journal.length c with
  | some reason => some (.unavailable reason)
  | none => if s.storage.online then none else some Storage.offlineError

/-- The store after a call that leaves a note only. -/
def noting (s : Store) (c : Call) : Store := { s with journal := c :: s.journal }

variable (D) in
/-- The call that fetches an owner's document. -/
def fetching (caller : Caller) (owner : Owner) : Call := .read caller [place D owner]

/-- The call that stores an owner's document. -/
def storing (owner : Owner) (d : D) : Call :=
  .write .server [⟨place D owner, ⟨Document.encode d, .ownerRead, .noWrite⟩⟩]

variable (D) in
/-- The call that loads a user's document. -/
def loading (user : UserId) : Call := fetching D (.client user) (.user user)

/-- The call that saves a user's document. -/
def saving (user : UserId) (d : D) : Call := storing (.user user) d

variable {s : Store} {user : UserId}

theorem call_eq {α : Type} (c : Call) (act : Storage → Except StoreError (α × Storage)) :
    call c act s =
      match s.gate s.journal.length c with
      | some reason => (.error (.unavailable reason), s.noting c)
      | none =>
        match act s.storage with
        | .error e => (.error e, s.noting c)
        | .ok (a, storage) => (.ok a, { s.noting c with storage }) := rfl

theorem perform_read (caller : Caller) (ids : List ObjectId) :
    (read caller ids).perform s =
      ((s.refusal? (.read caller ids)).elim (.ok (ids.filterMap (s.storage.find? caller))) .error,
        s.noting (.read caller ids)) := by
  rw [StoreM.perform, read, call_eq, refusal?]
  cases s.gate s.journal.length (.read caller ids) with
  | some reason => rfl
  | none =>
    simp only [Storage.read]
    cases s.storage.online with
    | false => rfl
    | true => rfl

/-- A batch is written as a whole or not at all, and is put down in the journal either way. -/
theorem perform_write (caller : Caller) (batch : List Object) :
    (write caller batch).perform s =
      match s.refusal? (.write caller batch), s.storage.denied? caller batch with
      | some e, _ => (.error e, s.noting (.write caller batch))
      | none, some o =>
        (.error (.permissionDenied o.id.collection o.id.key), s.noting (.write caller batch))
      | none, none =>
        (.ok (), { s.noting (.write caller batch) with
          storage := batch.foldl Storage.put s.storage }) := by
  rw [StoreM.perform, write, call_eq, refusal?]
  cases s.gate s.journal.length (.write caller batch) with
  | some reason => rfl
  | none =>
    simp only [Storage.write, Storage.denied?]
    cases s.storage.online with
    | false => rfl
    | true =>
      cases batch.find? fun o => !s.storage.mayWrite caller o.id with
      | none => rfl
      | some o => rfl

theorem read_eq (caller : Caller) (id : ObjectId) :
    read caller [id] s =
      ((s.refusal? (.read caller [id])).elim (.ok (s.storage.find? caller id).toList) .error,
        s.noting (.read caller [id])) := by
  have hfound : [id].filterMap (s.storage.find? caller) = (s.storage.find? caller id).toList := by
    rw [List.filterMap_cons, List.filterMap_nil]
    cases s.storage.find? caller id <;> rfl
  rw [← hfound]
  exact perform_read caller [id]

/-- A call that is not refused finds what is to be found, and leaves a note only. -/
theorem perform_fetch (hcodec : s.codec = {}) (caller : Caller) (owner : Owner) :
    (fetch D caller owner).perform s =
      ((s.refusal? (fetching D caller owner)).elim (s.storage.view D caller owner) .error,
        s.noting (fetching D caller owner)) := by
  have hread := @read_eq s caller (place D owner)
  rw [fetch, StoreM.perform, fetching]
  cases hrefusal : s.refusal? (.read caller [place D owner]) with
  | some e =>
    rw [hrefusal] at hread
    exact Perform.bind_of_error hread _
  | none =>
    rw [hrefusal] at hread
    rw [Perform.bind_of_ok hread, Option.elim, Storage.view]
    cases s.storage.find? caller (place D owner) with
    | none => rfl
    | some o =>
      have hdecode : (s.noting (.read caller [place D owner])).codec.decode D o.content.value =
          match Document.decode? D o.content.value with
          | some d => .ok d
          | none => .error "the text is no document of this kind" := by
        rw [noting, hcodec]
        rfl
      simp only [Option.toList_some, List.getLast?_singleton, Document.read]
      rw [Perform.get_bind, hdecode]
      cases Document.decode? D o.content.value <;> rfl

/-- A call that is not refused puts the document in its place. -/
theorem perform_store (hcodec : s.codec = {}) (owner : Owner) (d : D) :
    (store owner d).perform s =
      match s.refusal? (storing owner d) with
      | some e => (.error e, s.noting (storing owner d))
      | none =>
        (.ok (), { s.noting (storing owner d) with storage := s.storage.putDocument owner d }) := by
  have hencode : s.codec.encode d = .ok (Document.encode d) := by
    rw [hcodec]
    rfl
  have hwrite := @perform_write s .server
    [⟨place D owner, ⟨Document.encode d, .ownerRead, .noWrite⟩⟩]
  rw [Storage.denied?_server] at hwrite
  rw [store, StoreM.perform, Perform.get_bind]
  simp only [hencode]
  refine hwrite.trans ?_
  rw [← storing]
  cases s.refusal? (storing owner d) with
  | some e => rfl
  | none => rfl

theorem perform_load (hcodec : s.codec = {}) :
    (load D user).perform s =
      ((s.refusal? (loading D user)).elim (s.storage.look D user) .error,
        s.noting (loading D user)) :=
  perform_fetch hcodec (.client user) (.user user)

theorem perform_save (hcodec : s.codec = {}) (d : D) :
    (save user d).perform s =
      match s.refusal? (saving user d) with
      | some e => (.error e, s.noting (saving user d))
      | none => (.ok (), { s.noting (saving user d) with storage := s.storage.keep user d }) :=
  perform_store hcodec (.user user) d

end Store

end PlayerHub
