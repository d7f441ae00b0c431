import Mathlib.Logic.Function.Basic
import PlayerHub.Proofs.Gift.Redeem
import PlayerHub.Proofs.Invite.Basic
import PlayerHub.Proofs.Player.Feedback
import PlayerHub.Proofs.Player.Progress

namespace PlayerHub

/-- The kinds of documents of the game. -/
inductive DocumentKind where
  | feedback
  | redeemed
  | invites
  | progress
deriving DecidableEq, Repr

namespace DocumentKind

/-- The documents of a kind. -/
def Carrier : DocumentKind → Type
  | feedback => Feedback
  | redeemed => Redeemed
  | invites => Invites
  | progress => Progress

instance : (kind : DocumentKind) → Document kind.Carrier
  | feedback => inferInstanceAs (Document Feedback)
  | redeemed => inferInstanceAs (Document Redeemed)
  | invites => inferInstanceAs (Document Invites)
  | progress => inferInstanceAs (Document Progress)

instance : (kind : DocumentKind) → LawfulDocument kind.Carrier
  | feedback => inferInstanceAs (LawfulDocument Feedback)
  | redeemed => inferInstanceAs (LawfulDocument Redeemed)
  | invites => inferInstanceAs (LawfulDocument Invites)
  | progress => inferInstanceAs (LawfulDocument Progress)

/-- Kinds share collections, but not keys. -/
theorem key_injective :
    Function.Injective fun kind : DocumentKind => Document.key kind.Carrier := by
  intro kind kind' hkey
  cases kind <;> cases kind' <;> simp [Document.key] at hkey ⊢

end DocumentKind

/-- A slot of the shelf. -/
structure Slot where
  kind : DocumentKind
  owner : Owner
deriving DecidableEq, Repr

namespace Slot

/-- Where the document of a slot is stored. -/
def place (slot : Slot) : ObjectId := Store.place slot.kind.Carrier slot.owner

/-- On whose behalf the document of a slot is loaded. -/
def reader (slot : Slot) : Caller := slot.owner.user?.elim .server .client

/-- Loads the document of a slot. -/
def load (slot : Slot) : StoreM slot.kind.Carrier :=
  match slot.owner with
  | .shared => Store.loadShared slot.kind.Carrier
  | .user user => Store.load slot.kind.Carrier user

/-- Saves the document of a slot. -/
def save (slot : Slot) (d : slot.kind.Carrier) : StoreM Unit :=
  match slot.owner with
  | .shared => Store.saveShared d
  | .user user => Store.save user d

theorem load_eq_fetch (slot : Slot) :
    slot.load = Store.fetch slot.kind.Carrier slot.reader slot.owner := by
  obtain ⟨kind, owner⟩ := slot
  cases owner <;> rfl

theorem save_eq_store (slot : Slot) (d : slot.kind.Carrier) :
    slot.save d = Store.store slot.owner d := by
  obtain ⟨kind, owner⟩ := slot
  cases owner <;> rfl

theorem place_injective : Function.Injective place := by
  intro slot slot' hplace
  obtain ⟨kind, owner⟩ := slot
  obtain ⟨kind', owner'⟩ := slot'
  have hkind : kind = kind' := DocumentKind.key_injective (congrArg ObjectId.key hplace)
  have howner : owner = owner' := congrArg ObjectId.owner hplace
  rw [hkind, howner]

/-- Whoever loads the document of a slot may read what is saved there. -/
theorem mayRead_reader (slot : Slot) (value : String) :
    Storage.mayRead slot.reader slot.place ⟨value, .ownerRead, .noWrite⟩ = true := by
  obtain ⟨kind, owner⟩ := slot
  cases owner with
  | shared => rfl
  | user user => exact decide_eq_true rfl

end Slot

/-- A call for a document. -/
inductive ShelfCall where
  | load (slot : Slot)
  | bringUp (kind : DocumentKind) (user : UserId) (record : kind.Carrier)
  | save (slot : Slot) (d : slot.kind.Carrier)

/-- The answer to a call for a document. -/
inductive ShelfAnswer where
  | loaded (kind : DocumentKind) (result : Except StoreError kind.Carrier)
  | broughtUp (kind : DocumentKind) (record : kind.Carrier) (failure : Option StoreError)
  | saved (result : Except StoreError Unit)

/-- What happens to a store: a call, or its storage goes on or off. -/
inductive ShelfStep where
  | call (c : ShelfCall)
  | turn (online : Bool)

namespace ShelfCall

/-- The answer to a call, and the store after it. -/
def perform (s : Store) : ShelfCall → ShelfAnswer × Store
  | load slot => (slot.load.perform s).map (.loaded slot.kind) id
  | bringUp kind user record =>
    (Store.bringUp user record s).map (fun found => .broughtUp kind found.1 found.2) id
  | save slot d => ((slot.save d).perform s).map .saved id

/-- The answer to a call where nothing can be reached. A record that should be brought up to its
document stays as it is. -/
def unreached : ShelfCall → ShelfAnswer
  | load slot => .loaded slot.kind (.error Storage.offlineError)
  | bringUp kind _ record => .broughtUp kind record (some Storage.offlineError)
  | save _ _ => .saved (.error Storage.offlineError)

end ShelfCall

namespace Store

/-- The store with its storage on or off. -/
def turn (s : Store) (online : Bool) : Store :=
  { s with storage := { s.storage with online } }

/-- The answers to the calls of a run. -/
def answers (s : Store) : List ShelfStep → List ShelfAnswer
  | [] => []
  | .call c :: steps => (c.perform s).1 :: (c.perform s).2.answers steps
  | .turn online :: steps => (s.turn online).answers steps

/-- The store after a run. -/
def after (s : Store) : List ShelfStep → Store
  | [] => s
  | .call c :: steps => (c.perform s).2.after steps
  | .turn online :: steps => (s.turn online).after steps

end Store

/-- What is on the shelf. -/
structure Shelf where
  saved : (slot : Slot) → Option slot.kind.Carrier := fun _ => none
  online : Bool := true

namespace Shelf

/-- The document that is found in a slot. -/
def find (m : Shelf) (slot : Slot) : slot.kind.Carrier := (m.saved slot).getD Document.fresh

/-- The shelf with a document in a slot. -/
def put (m : Shelf) (slot : Slot) (d : slot.kind.Carrier) : Shelf :=
  { m with saved := Function.update m.saved slot (some d) }

theorem saved_put_self (m : Shelf) (slot : Slot) (d : slot.kind.Carrier) :
    (m.put slot d).saved slot = some d := Function.update_self ..

theorem saved_put_of_ne (m : Shelf) {slot slot' : Slot} (d : slot.kind.Carrier)
    (h : slot' ≠ slot) : (m.put slot d).saved slot' = m.saved slot' := Function.update_of_ne h ..

/-- The answer to a call where the shelf can be reached, and the shelf after it. -/
def serve (m : Shelf) : ShelfCall → ShelfAnswer × Shelf
  | .load slot => (.loaded slot.kind (.ok (m.find slot)), m)
  | .bringUp kind user _ => (.broughtUp kind (m.find ⟨kind, .user user⟩) none, m)
  | .save slot d => (.saved (.ok ()), m.put slot d)

/-- The answer to a call, and the shelf after it. -/
def perform (m : Shelf) (c : ShelfCall) : ShelfAnswer × Shelf :=
  if m.online then m.serve c else (c.unreached, m)

/-- The answers to the calls of a run. -/
def answers (m : Shelf) : List ShelfStep → List ShelfAnswer
  | [] => []
  | .call c :: steps => (m.perform c).1 :: (m.perform c).2.answers steps
  | .turn online :: steps => { m with online }.answers steps

end Shelf

namespace Store

/-- Whether the documents of a store are those on a shelf. -/
structure Holds (s : Store) (m : Shelf) : Prop where
  codec : s.codec = {}
  gate : ∀ n c, s.gate n c = none
  online : s.storage.online = m.online
  objects : ∀ slot, s.storage.objects.get? slot.place =
    (m.saved slot).map fun d => ⟨Document.encode d, .ownerRead, .noWrite⟩

variable {s : Store} {m : Shelf}

theorem holds_empty : ({} : Store).Holds {} where
  codec := rfl
  gate := fun _ _ => rfl
  online := rfl
  objects := fun _ => rfl

theorem Holds.turn (hholds : s.Holds m) (online : Bool) :
    (s.turn online).Holds { m with online } where
  codec := hholds.codec
  gate := hholds.gate
  online := rfl
  objects := hholds.objects

theorem Holds.noting (hholds : s.Holds m) (c : Call) : (s.noting c).Holds m where
  codec := hholds.codec
  gate := hholds.gate
  online := hholds.online
  objects := hholds.objects

theorem Holds.refusal? (hholds : s.Holds m) (c : Call) :
    s.refusal? c = if m.online then none else some Storage.offlineError := by
  rw [Store.refusal?, hholds.gate, hholds.online]

theorem Holds.view (hholds : s.Holds m) (slot : Slot) :
    s.storage.view slot.kind.Carrier slot.reader slot.owner = .ok (m.find slot) := by
  have hobject := hholds.objects slot
  rw [Slot.place] at hobject
  rw [Storage.view, Storage.find?, hobject, Shelf.find]
  cases m.saved slot with
  | none => rfl
  | some d =>
    have hread := slot.mayRead_reader (Document.encode d)
    rw [Slot.place] at hread
    rw [Option.map_some, Option.bind_eq_bind, Option.bind_some, if_pos hread]
    simp only [Document.read, Document.decode?_encode, Option.getD_some]

theorem Holds.putDocument (hholds : s.Holds m) (slot : Slot) (d : slot.kind.Carrier) :
    ({ s with storage := s.storage.putDocument slot.owner d } : Store).Holds (m.put slot d) where
  codec := hholds.codec
  gate := hholds.gate
  online := hholds.online
  objects := by
    intro slot'
    have hget := KeyMap.get?_insert s.storage.objects slot.place slot'.place
      ⟨Document.encode d, .ownerRead, .noWrite⟩
    refine hget.trans ?_
    by_cases hslot : slot' = slot
    · subst hslot
      rw [if_pos rfl, Shelf.saved_put_self, Option.map_some]
    · rw [if_neg (Slot.place_injective.ne hslot), hholds.objects, Shelf.saved_put_of_ne m d hslot]

theorem perform_load_of_holds (hholds : s.Holds m) (slot : Slot) :
    slot.load.perform s =
      (if m.online then .ok (m.find slot) else .error Storage.offlineError,
        s.noting (fetching slot.kind.Carrier slot.reader slot.owner)) := by
  rw [slot.load_eq_fetch, perform_fetch hholds.codec, hholds.refusal?, hholds.view]
  cases m.online <;> rfl

theorem perform_save_of_holds (hholds : s.Holds m) (slot : Slot) (d : slot.kind.Carrier) :
    (slot.save d).perform s =
      if m.online then
        (.ok (), { s.noting (storing slot.owner d) with
          storage := s.storage.putDocument slot.owner d })
      else (.error Storage.offlineError, s.noting (storing slot.owner d)) := by
  rw [slot.save_eq_store, perform_store hholds.codec, hholds.refusal?]
  cases m.online <;> rfl

theorem bringUp_of_holds (hholds : s.Holds m) (kind : DocumentKind) (user : UserId)
    (record : kind.Carrier) :
    bringUp user record s =
      (if m.online then (m.find ⟨kind, .user user⟩, none)
        else (record, some Storage.offlineError),
        s.noting (fetching kind.Carrier (.client user) (.user user))) := by
  have hload : (load kind.Carrier user).perform s = _ :=
    perform_load_of_holds hholds ⟨kind, .user user⟩
  rw [bringUp, hload]
  cases m.online <;> rfl

/-- A store answers as the shelf does, and goes on holding what is on the shelf. -/
theorem Holds.perform (hholds : s.Holds m) (c : ShelfCall) :
    (c.perform s).1 = (m.perform c).1 ∧ (c.perform s).2.Holds (m.perform c).2 := by
  rw [Shelf.perform]
  cases c with
  | load slot =>
    rw [ShelfCall.perform, perform_load_of_holds hholds]
    cases m.online with
    | false => exact ⟨rfl, hholds.noting _⟩
    | true => exact ⟨rfl, hholds.noting _⟩
  | bringUp kind user record =>
    rw [ShelfCall.perform, bringUp_of_holds hholds]
    cases m.online with
    | false => exact ⟨rfl, hholds.noting _⟩
    | true => exact ⟨rfl, hholds.noting _⟩
  | save slot d =>
    rw [ShelfCall.perform, perform_save_of_holds hholds]
    cases m.online with
    | false => exact ⟨rfl, hholds.noting _⟩
    | true => exact ⟨rfl, (hholds.noting _).putDocument slot d⟩

theorem Holds.perform_of_offline (hholds : s.Holds m) (hoff : s.storage.online = false)
    (c : ShelfCall) : (c.perform s).1 = c.unreached ∧ (c.perform s).2.storage = s.storage := by
  have honline : m.online = false := hholds.online.symm.trans hoff
  cases c with
  | load slot =>
    rw [ShelfCall.perform, perform_load_of_holds hholds, honline]
    exact ⟨rfl, rfl⟩
  | bringUp kind user record =>
    rw [ShelfCall.perform, bringUp_of_holds hholds, honline]
    exact ⟨rfl, rfl⟩
  | save slot d =>
    rw [ShelfCall.perform, perform_save_of_holds hholds, honline]
    exact ⟨rfl, rfl⟩

theorem Holds.answers_eq (hholds : s.Holds m) (steps : List ShelfStep) :
    s.answers steps = m.answers steps := by
  induction steps generalizing s m with
  | nil => rfl
  | cons step steps ih =>
    cases step with
    | turn online => exact ih (hholds.turn online)
    | call c =>
      obtain ⟨hanswer, hnext⟩ := hholds.perform c
      rw [answers, Shelf.answers, hanswer, ih hnext]

theorem Holds.after (hholds : s.Holds m) (steps : List ShelfStep) :
    ∃ m', (s.after steps).Holds m' := by
  induction steps generalizing s m with
  | nil => exact ⟨m, hholds⟩
  | cons step steps ih =>
    cases step with
    | turn online => exact ih (hholds.turn online)
    | call c => exact ih (hholds.perform c).2

/-- Over every run a store answers as a shelf would. Loads leave the storage as it is, and so does
every call while the storage is off. -/
theorem answers_eq_shelf_answers (steps : List ShelfStep) :
    let s := ({} : Store).after steps
    ({} : Store).answers steps = ({} : Shelf).answers steps ∧
      (∀ slot, ((ShelfCall.load slot).perform s).2.storage = s.storage) ∧
      (∀ kind user record,
        ((ShelfCall.bringUp kind user record).perform s).2.storage = s.storage) ∧
      (s.storage.online = false → ∀ c : ShelfCall,
        (c.perform s).1 = c.unreached ∧ (c.perform s).2.storage = s.storage) := by
  intro s
  obtain ⟨m, hholds⟩ : ∃ m, s.Holds m := holds_empty.after steps
  refine ⟨holds_empty.answers_eq steps, ?_, ?_, ?_⟩
  · intro slot
    rw [ShelfCall.perform, perform_load_of_holds hholds]
    rfl
  · intro kind user record
    rw [ShelfCall.perform, bringUp_of_holds hholds]
    rfl
  · intro hoff c
    exact hholds.perform_of_offline hoff c

/-- What has been saved before the storage went off is found when it is on again, and what should
have been saved meanwhile is not. -/
theorem answers_over_outage :
    let ada : UserId := ⟨List.replicate 32 1, List.length_replicate⟩
    let slot : Slot := ⟨.progress, .user ada⟩
    let level : String → Progress := fun name => ⟨name⟩
    let before : List ShelfStep := [.call (.save slot (level "L5")), .turn false]
    let later : List ShelfStep := [.call (.save slot (level "L6")), .turn true, .call (.load slot)]
    let s := ({} : Store).after before
    s.storage.online = false ∧
      ((ShelfCall.bringUp .progress ada (level "L7")).perform s).1 =
        .broughtUp .progress (level "L7") (some Storage.offlineError) ∧
      ({} : Store).answers (before ++ later) =
        [.saved (.ok ()), .saved (.error Storage.offlineError),
          .loaded .progress (.ok (level "L5"))] := by
  intro ada slot level before later s
  obtain ⟨-, -, -, hoff⟩ := answers_eq_shelf_answers before
  obtain ⟨hanswers, -⟩ := answers_eq_shelf_answers (before ++ later)
  refine ⟨rfl, (hoff rfl _).1, hanswers.trans ?_⟩
  rfl

end Store

end PlayerHub
