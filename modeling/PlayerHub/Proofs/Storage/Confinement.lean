import PlayerHub.Player.Progress
import PlayerHub.Proofs.Document.Store

namespace PlayerHub

/-- A call that a client makes to the storage. -/
inductive ClientCall where
  | read (ids : List ObjectId)
  | write (batch : List Object)

/-- The answer to a call of a client. -/
inductive ClientAnswer where
  | found (result : Except StoreError (List Object))
  | written (result : Except StoreError Unit)

namespace ClientAnswer

/-- Whether the call has failed. -/
def isFailure : ClientAnswer → Bool
  | found (.ok _) | written (.ok _) => false
  | found (.error _) | written (.error _) => true

/-- The objects that an answer shows. -/
def objects : ClientAnswer → List Object
  | found (.ok objects) => objects
  | found (.error _) | written _ => []

end ClientAnswer

/-- The answer to a call of the client of a user, and the store after it. -/
def ClientCall.perform (user : UserId) (s : Store) : ClientCall → ClientAnswer × Store
  | read ids => ((Store.read (.client user) ids).perform s).map .found id
  | write batch => ((Store.write (.client user) batch).perform s).map .written id

namespace Store

/-- The answers to a run of calls of the client of a user. -/
def clientAnswers (s : Store) (user : UserId) : List ClientCall → List ClientAnswer
  | [] => []
  | c :: calls => (c.perform user s).1 :: (c.perform user s).2.clientAnswers user calls

/-- The store after a run of calls of the client of a user. -/
def afterClient (s : Store) (user : UserId) : List ClientCall → Store
  | [] => s
  | c :: calls => (c.perform user s).2.afterClient user calls

end Store

namespace Storage

variable {s s' : Storage} {user : UserId}

/-- Whether an object is out of reach for the client of a user: it belongs to somebody else or to
nobody, or it is locked. -/
def Protects (s : Storage) (user : UserId) (id : ObjectId) : Prop :=
  id.owner ≠ .user user ∨ ∃ content, s.objects.get? id = some content ∧ content.write = .noWrite

/-- Whether two storages look the same to the client of a user: they have the same objects of the
user and the same objects that everybody may read. -/
structure LooksLike (s s' : Storage) (user : UserId) : Prop where
  online : s'.online = s.online
  own : ∀ id, id.owner = .user user → s'.objects.get? id = s.objects.get? id
  shown : ∀ id content, content.read = .publicRead →
    (s'.objects.get? id = some content ↔ s.objects.get? id = some content)

theorem get?_put (s : Storage) (o : Object) (id : ObjectId) :
    (s.put o).objects.get? id = if id = o.id then some o.content else s.objects.get? id := by
  rw [put, KeyMap.get?_insert]

theorem get?_foldl_put_of_forall_ne {batch : List Object} {id : ObjectId}
    (hne : ∀ o ∈ batch, o.id ≠ id) :
    (batch.foldl put s).objects.get? id = s.objects.get? id := by
  induction batch generalizing s with
  | nil => rfl
  | cons o batch ih =>
    rw [List.foldl_cons, ih fun o' ho' => hne o' (List.mem_cons_of_mem _ ho'), get?_put,
      if_neg (Ne.symm (hne o List.mem_cons_self))]

theorem mayWrite_of_denied?_eq_none {caller : Caller} {batch : List Object}
    (hdenied : s.denied? caller batch = none) : ∀ o ∈ batch, s.mayWrite caller o.id = true := by
  intro o hmem
  have hallowed := List.find?_eq_none.1 hdenied o hmem
  rwa [Bool.not_eq_true', Bool.not_eq_false] at hallowed

theorem Protects.mayWrite_eq_false {id : ObjectId} (hprotects : s.Protects user id) :
    s.mayWrite (.client user) id = false := by
  rw [mayWrite, Bool.and_eq_false_iff]
  obtain howner | ⟨content, hget, hlocked⟩ := hprotects
  · exact .inl (decide_eq_false howner)
  · rw [hget, Option.all_some, hlocked]
    exact .inr (decide_eq_false (not_not_intro rfl))

/-- Of what belongs to somebody else, a client may read what everybody may read. -/
theorem publicRead_of_mayRead {id : ObjectId} {content : Content} (howner : id.owner ≠ .user user)
    (hread : mayRead (.client user) id content = true) : content.read = .publicRead := by
  simp only [mayRead] at hread
  cases hlevel : content.read with
  | publicRead => rfl
  | ownerRead =>
    rw [hlevel] at hread
    exact absurd (of_decide_eq_true hread) howner
  | noRead =>
    rw [hlevel] at hread
    cases hread

theorem find?_eq_some_iff {caller : Caller} {id : ObjectId} {o : Object} :
    s.find? caller id = some o ↔
      ∃ content, s.objects.get? id = some content ∧ mayRead caller id content = true ∧
        o = ⟨id, content⟩ := by
  rw [find?, Option.bind_eq_bind, Option.bind_eq_some_iff]
  refine exists_congr fun content => and_congr_right fun _ => ?_
  rw [Option.ite_none_right_eq_some, Option.some.injEq, eq_comm (a := o)]

namespace LooksLike

theorem find?_eq (hlike : s.LooksLike s' user) (id : ObjectId) :
    s'.find? (.client user) id = s.find? (.client user) id := by
  by_cases howner : id.owner = .user user
  · rw [find?, find?, hlike.own id howner]
  · ext o
    rw [find?_eq_some_iff, find?_eq_some_iff]
    refine exists_congr fun content => ?_
    by_cases hpublic : content.read = .publicRead
    · rw [hlike.shown id content hpublic]
    · have hhidden : ¬ mayRead (.client user) id content = true :=
        fun hread => hpublic (publicRead_of_mayRead howner hread)
      simp only [hhidden, Bool.false_eq_true, false_and, and_false]

theorem mayWrite_eq (hlike : s.LooksLike s' user) (id : ObjectId) :
    s'.mayWrite (.client user) id = s.mayWrite (.client user) id := by
  rw [mayWrite, mayWrite]
  by_cases howner : id.owner = .user user
  · rw [hlike.own id howner]
  · rw [decide_eq_false howner, Bool.false_and, Bool.false_and]

theorem denied?_eq (hlike : s.LooksLike s' user) (batch : List Object) :
    s'.denied? (.client user) batch = s.denied? (.client user) batch := by
  simp only [denied?, hlike.mayWrite_eq]

theorem put (hlike : s.LooksLike s' user) (o : Object) : (s.put o).LooksLike (s'.put o) user where
  online := hlike.online
  own := by
    intro id howner
    rw [get?_put, get?_put, hlike.own id howner]
  shown := by
    intro id content hpublic
    rw [get?_put, get?_put]
    split
    · exact Iff.rfl
    · exact hlike.shown id content hpublic

/-- What somebody else keeps from the client makes no difference to it. -/
theorem put_hidden {id : ObjectId} {content content' : Content} (howner : id.owner ≠ .user user)
    (hhidden : content.read ≠ .publicRead) (hhidden' : content'.read ≠ .publicRead) :
    (s.put ⟨id, content⟩).LooksLike (s.put ⟨id, content'⟩) user where
  online := rfl
  own := by
    intro id' howner'
    have hne : id' ≠ id := fun heq => howner ((congrArg (·.owner) heq).symm.trans howner')
    rw [get?_put, get?_put, if_neg hne, if_neg hne]
  shown := by
    intro id' shown hpublic
    rw [get?_put, get?_put]
    split
    · refine iff_of_false ?_ ?_
      · rintro ⟨⟩
        exact hhidden' hpublic
      · rintro ⟨⟩
        exact hhidden hpublic
    · exact Iff.rfl

theorem foldl_put (hlike : s.LooksLike s' user) (batch : List Object) :
    (batch.foldl Storage.put s).LooksLike (batch.foldl Storage.put s') user := by
  induction batch generalizing s s' with
  | nil => exact hlike
  | cons o batch ih => exact ih (hlike.put o)

end LooksLike

end Storage

namespace Store

variable {s s' : Store} {user : UserId}

/-- A call of a client leaves the storage as it is, or it writes a batch of objects that the client
may write. -/
theorem storage_client_cases (s : Store) (user : UserId) (c : ClientCall) :
    (c.perform user s).2.storage = s.storage ∨
      ∃ batch, c = .write batch ∧ (c.perform user s).1 = .written (.ok ()) ∧
        (∀ o ∈ batch, s.storage.mayWrite (.client user) o.id = true) ∧
        (c.perform user s).2.storage = batch.foldl Storage.put s.storage := by
  cases c with
  | read ids =>
    rw [ClientCall.perform, perform_read]
    exact .inl rfl
  | write batch =>
    rw [ClientCall.perform, perform_write]
    cases s.refusal? (.write (.client user) batch) with
    | some e => exact .inl rfl
    | none =>
      cases hdenied : s.storage.denied? (.client user) batch with
      | some o => exact .inl rfl
      | none => exact .inr ⟨batch, rfl, rfl, Storage.mayWrite_of_denied?_eq_none hdenied, rfl⟩

theorem storage_client_of_failure {c : ClientCall}
    (hfailure : (c.perform user s).1.isFailure = true) :
    (c.perform user s).2.storage = s.storage := by
  obtain hsame | ⟨batch, -, hanswer, -⟩ := storage_client_cases s user c
  · exact hsame
  · rw [hanswer] at hfailure
    cases hfailure

theorem get?_client_of_protects {id : ObjectId} (hprotects : s.storage.Protects user id)
    (c : ClientCall) :
    (c.perform user s).2.storage.objects.get? id = s.storage.objects.get? id := by
  obtain hsame | ⟨batch, -, -, hallowed, hwritten⟩ := storage_client_cases s user c
  · rw [hsame]
  · rw [hwritten]
    apply Storage.get?_foldl_put_of_forall_ne
    rintro o hmem rfl
    have hwrite := hallowed o hmem
    rw [hprotects.mayWrite_eq_false] at hwrite
    cases hwrite

/-- A client is not shown what is kept from it. -/
theorem not_shown_of_not_mayRead {id : ObjectId} {content : Content}
    (hget : s.storage.objects.get? id = some content)
    (hhidden : ¬ Storage.mayRead (.client user) id content = true) (c : ClientCall) :
    ∀ o ∈ (c.perform user s).1.objects, o.id ≠ id := by
  intro o hmem
  cases c with
  | write batch => cases hmem
  | read ids =>
    rw [ClientCall.perform, perform_read] at hmem
    cases hrefusal : s.refusal? (.read (.client user) ids) with
    | some e =>
      rw [hrefusal] at hmem
      cases hmem
    | none =>
      rw [hrefusal] at hmem
      obtain ⟨id', -, hfind⟩ := List.mem_filterMap.1 hmem
      obtain ⟨content', hget', hread, rfl⟩ := Storage.find?_eq_some_iff.1 hfind
      rintro rfl
      cases hget.symm.trans hget'
      exact hhidden hread

/-- Whether two stores look the same to the client of a user, and refuse the same calls from now
on. -/
structure LooksLike (s s' : Store) (user : UserId) : Prop where
  gate : s'.gate = s.gate
  calls : s'.journal.length = s.journal.length
  storage : s.storage.LooksLike s'.storage user

theorem LooksLike.refusal?_eq (hlike : s.LooksLike s' user) (c : Call) :
    s'.refusal? c = s.refusal? c := by
  rw [refusal?, refusal?, hlike.gate, hlike.calls, hlike.storage.online]

theorem LooksLike.noting (hlike : s.LooksLike s' user) (c : Call) :
    (s.noting c).LooksLike (s'.noting c) user where
  gate := hlike.gate
  calls := congrArg (· + 1) hlike.calls
  storage := hlike.storage

/-- Stores that look the same to a client give the same answer, and look the same afterwards. -/
theorem LooksLike.perform (hlike : s.LooksLike s' user) (c : ClientCall) :
    (c.perform user s').1 = (c.perform user s).1 ∧
      (c.perform user s).2.LooksLike (c.perform user s').2 user := by
  cases c with
  | read ids =>
    have hfound : ids.filterMap (s'.storage.find? (.client user)) =
        ids.filterMap (s.storage.find? (.client user)) :=
      congrArg (ids.filterMap ·) (funext hlike.storage.find?_eq)
    rw [ClientCall.perform, ClientCall.perform, perform_read, perform_read, hlike.refusal?_eq,
      hfound]
    exact ⟨rfl, hlike.noting _⟩
  | write batch =>
    rw [ClientCall.perform, ClientCall.perform, perform_write, perform_write, hlike.refusal?_eq,
      hlike.storage.denied?_eq]
    cases s.refusal? (.write (.client user) batch) with
    | some e => exact ⟨rfl, hlike.noting _⟩
    | none =>
      cases s.storage.denied? (.client user) batch with
      | some o => exact ⟨rfl, hlike.noting _⟩
      | none =>
        exact ⟨rfl, hlike.gate, congrArg (· + 1) hlike.calls, hlike.storage.foldl_put batch⟩

theorem get?_afterClient_of_protects {id : ObjectId} (hprotects : s.storage.Protects user id)
    (calls : List ClientCall) :
    (s.afterClient user calls).storage.objects.get? id = s.storage.objects.get? id := by
  induction calls generalizing s with
  | nil => rfl
  | cons c calls ih =>
    have hkept := get?_client_of_protects hprotects c
    have hstill : (c.perform user s).2.storage.Protects user id := by
      rwa [Storage.Protects, hkept]
    exact (ih hstill).trans hkept

theorem not_shown_in_run {id : ObjectId} {content : Content}
    (hprotects : s.storage.Protects user id) (hget : s.storage.objects.get? id = some content)
    (hhidden : ¬ Storage.mayRead (.client user) id content = true) (calls : List ClientCall) :
    ∀ a ∈ s.clientAnswers user calls, ∀ o ∈ a.objects, o.id ≠ id := by
  induction calls generalizing s with
  | nil =>
    intro a hmem
    cases hmem
  | cons c calls ih =>
    intro a hmem
    rw [clientAnswers, List.mem_cons] at hmem
    obtain rfl | hmem := hmem
    · exact not_shown_of_not_mayRead hget hhidden c
    · have hkept := get?_client_of_protects hprotects c
      refine ih ?_ (hkept.trans hget) a hmem
      rwa [Storage.Protects, hkept]

theorem LooksLike.clientAnswers_eq (hlike : s.LooksLike s' user) (calls : List ClientCall) :
    s'.clientAnswers user calls = s.clientAnswers user calls := by
  induction calls generalizing s s' with
  | nil => rfl
  | cons c calls ih =>
    obtain ⟨hanswer, hnext⟩ := hlike.perform c
    rw [clientAnswers, clientAnswers, hanswer, ih hnext]

variable {D : Type} [Document D] {owner : Owner}

/-- What a save leaves behind: a document for its owner to read and for no client to write. -/
theorem perform_store_of_ok {d : D} (hsaved : ((store owner d).perform s).1 = .ok ()) :
    ∃ value,
      let o : Object := ⟨place D owner, ⟨value, .ownerRead, .noWrite⟩⟩
      ((store owner d).perform s).2 =
        { s.noting (.write .server [o]) with storage := s.storage.put o } := by
  rw [store, StoreM.perform, Perform.get_bind] at hsaved ⊢
  cases hencode : s.codec.encode d with
  | error cause =>
    rw [hencode] at hsaved
    cases hsaved
  | ok value =>
    rw [hencode] at hsaved
    refine ⟨value, ?_⟩
    have hwrite := @perform_write s .server [⟨place D owner, ⟨value, .ownerRead, .noWrite⟩⟩]
    rw [StoreM.perform] at hwrite
    simp only [hwrite] at hsaved ⊢
    split at hsaved
    · cases hsaved
    · cases hsaved
    · rfl

theorem get?_of_store_ok {d : D} (hsaved : ((store owner d).perform s).1 = .ok ()) :
    ∃ value, ((store owner d).perform s).2.storage.objects.get? (place D owner) =
      some ⟨value, .ownerRead, .noWrite⟩ := by
  obtain ⟨value, hafter⟩ := perform_store_of_ok hsaved
  refine ⟨value, ?_⟩
  rw [hafter]
  exact (Storage.get?_put _ _ _).trans (if_pos rfl)

/-- Whichever document somebody else has saved, the storage looks the same. -/
theorem looksLike_of_store_ok {d d' : D} (howner : owner ≠ .user user)
    (hsaved : ((store owner d).perform s).1 = .ok ())
    (hsaved' : ((store owner d').perform s).1 = .ok ()) :
    ((store owner d).perform s).2.LooksLike ((store owner d').perform s).2 user := by
  obtain ⟨value, hafter⟩ := perform_store_of_ok hsaved
  obtain ⟨value', hafter'⟩ := perform_store_of_ok hsaved'
  rw [hafter, hafter']
  exact ⟨rfl, rfl, .put_hidden howner nofun nofun⟩

/-- The calls of a client are confined, in any store and for every run of calls. What belongs to
others and what is locked stays as it is, and a call that fails changes nothing. The answers are
those of every store that looks the same to the client. A document that the server has saved stays
as it is, and nobody but its owner is shown it or can tell it from another one. -/
theorem client_calls_are_confined (s : Store) (user : UserId) (calls : List ClientCall) :
    (∀ id, s.storage.Protects user id →
      (s.afterClient user calls).storage.objects.get? id = s.storage.objects.get? id) ∧
    (∀ c : ClientCall, (c.perform user (s.afterClient user calls)).1.isFailure = true →
      (c.perform user (s.afterClient user calls)).2.storage =
        (s.afterClient user calls).storage) ∧
    (∀ s' : Store, s.LooksLike s' user → s'.clientAnswers user calls = s.clientAnswers user calls) ∧
    (∀ (D : Type) [Document D] (owner : Owner) (d : D),
      let saving (d : D) := (store owner d).perform s
      (saving d).1 = .ok () →
        ((saving d).2.afterClient user calls).storage.objects.get? (place D owner) =
          (saving d).2.storage.objects.get? (place D owner) ∧
        (owner ≠ .user user →
          (∀ a ∈ (saving d).2.clientAnswers user calls, ∀ o ∈ a.objects, o.id ≠ place D owner) ∧
          ∀ d' : D, (saving d').1 = .ok () →
            (saving d').2.clientAnswers user calls = (saving d).2.clientAnswers user calls)) := by
  refine ⟨fun id hprotects => get?_afterClient_of_protects hprotects calls,
    fun c => storage_client_of_failure, fun s' hlike => hlike.clientAnswers_eq calls, ?_⟩
  intro D _ owner d saving hsaved
  obtain ⟨value, hget⟩ := get?_of_store_ok hsaved
  have hprotects : (saving d).2.storage.Protects user (place D owner) := .inr ⟨_, hget, rfl⟩
  refine ⟨get?_afterClient_of_protects hprotects calls, fun howner => ⟨?_, ?_⟩⟩
  · have hhidden : ¬ Storage.mayRead (.client user) (place D owner)
        ⟨value, .ownerRead, .noWrite⟩ = true := fun hread => howner (of_decide_eq_true hread)
    exact not_shown_in_run hprotects hget hhidden calls
  · exact fun d' hsaved' => (looksLike_of_store_ok howner hsaved hsaved').clientAnswers_eq calls

/-- Eve overwrites her note, and neither the one that is locked nor the one of Ada, of which she
learns nothing. -/
theorem eve_is_confined :
    let ada : UserId := ⟨List.replicate 32 1, List.length_replicate⟩
    let eve : UserId := ⟨List.replicate 32 2, List.length_replicate⟩
    let note (key : String) (owner : UserId) : ObjectId := ⟨"notes", key, .user owner⟩
    let locked : Content := ⟨"locked", .noRead, .noWrite⟩
    let hidden (text : String) : Content := ⟨text, .ownerRead, .ownerWrite⟩
    let base : Storage := ({} : Storage).put ⟨note "b" eve, locked⟩
    let s (secret : String) : Store := { storage := base.put ⟨note "a" ada, hidden secret⟩ }
    let own (key : String) : Object := ⟨note key eve, ⟨"eve", .publicRead, .ownerWrite⟩⟩
    let grab : ClientCall := .write [own "a", ⟨note "a" ada, hidden "eve"⟩]
    let calls : List ClientCall :=
      [grab, .write [own "a", own "c"], .write [own "b"],
        .read [note "a" ada, note "b" eve, note "a" eve, place Progress (.user ada)]]
    let saving (level : String) := (save ada (⟨level⟩ : Progress)).perform (s "one")
    (s "one").clientAnswers eve calls =
        [.written (.error (.permissionDenied "notes" "a")), .written (.ok ()),
          .written (.error (.permissionDenied "notes" "b")), .found (.ok [own "a"])] ∧
      (s "two").clientAnswers eve calls = (s "one").clientAnswers eve calls ∧
      ((s "one").afterClient eve calls).storage.objects.get? (note "a" ada) =
        some (hidden "one") ∧
      ((s "one").afterClient eve calls).storage.objects.get? (note "b" eve) = some locked ∧
      (grab.perform eve (s "one")).2.storage = (s "one").storage ∧
      (saving "L2").2.clientAnswers eve calls = (saving "L1").2.clientAnswers eve calls := by
  intro ada eve note locked hidden base s own grab calls saving
  have hne : Owner.user ada ≠ .user eve := by decide
  obtain ⟨hkept, -, hsame, hsaved⟩ := client_calls_are_confined (s "one") eve calls
  refine ⟨rfl, ?_, hkept (note "a" ada) (.inl hne), ?_, ?_, ?_⟩
  · exact hsame (s "two") ⟨rfl, rfl, .put_hidden hne (by decide) (by decide)⟩
  · exact hkept (note "b" eve) (.inr ⟨locked, rfl, rfl⟩)
  · exact (client_calls_are_confined (s "one") eve []).2.1 grab rfl
  · exact ((hsaved Progress (.user ada) ⟨"L1"⟩ rfl).2 hne).2 ⟨"L2"⟩ rfl

end Store

end PlayerHub
