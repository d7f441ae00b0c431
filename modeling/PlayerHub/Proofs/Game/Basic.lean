import PlayerHub.Proofs.Account.Directory
import PlayerHub.Proofs.Gift.Redeem
import PlayerHub.Proofs.Invite.Accept
import PlayerHub.Proofs.Invite.Reward
import PlayerHub.Proofs.Player.Feedback

namespace PlayerHub

open Calendar (Instant)

/-- The accounts and the documents of all players. -/
structure Game where
  directory : Directory := {}
  store : Store := {}

/-- A call of a player. A sign-in is given the id that an account would get that it makes. -/
inductive GameCall where
  | signIn (external : ExternalId) (username : String) (create : Bool) (fresh : UserId)
  | report (user : UserId) (r : Report)
  | redeem (catalog : Catalog) (user : UserId) (code : String) (now : Instant)
  | accept (user : UserId) (username share : String)
  | ready (user : UserId)
  | claim (user : UserId) (names : List String)
  | progress (user : UserId)
  | advance (user : UserId) (level : String)

/-- The key of the documents that a call may write. -/
def GameCall.key? : GameCall → Option String
  | .report .. => some (Document.key Feedback)
  | .redeem .. => some (Document.key Redeemed)
  | .accept .. | .claim .. => some (Document.key Invites)
  | .advance .. => some (Document.key Progress)
  | .signIn .. | .ready _ | .progress _ => none

/-- The answer to a call. -/
inductive GameAnswer where
  | signIn (answer : Except IdentityError SignedIn)
  | report (answer : Except ActionError Unit)
  | redeem (answer : Except ActionError RedeemOutcome)
  | accept (answer : Except ActionError AcceptOutcome)
  | ready (answer : Except ActionError (List String))
  | claim (answer : Except ActionError ClaimOutcome)
  | progress (answer : Except ActionError Progress)
  | advance (answer : Except ActionError Unit)

namespace Game

/-- The game before the first call, with no accounts and an empty storage. The gate decides which
calls to the storage fail. -/
def start (gate : Gate) : Game := { store := { gate } }

/-- An action on the documents, as a call. -/
def act {α : Type} (g : Game) (answer : Except ActionError α → GameAnswer) (action : ActionM α) :
    GameAnswer × Game :=
  (answer (action.perform g.store).1, { g with store := (action.perform g.store).2 })

/-- The answer to a call, and the game after it. -/
def perform (g : Game) : GameCall → GameAnswer × Game
  | .signIn external username create fresh =>
    match g.directory.signIn external username create fresh with
    | .ok (found, directory) => (.signIn (.ok found), { g with directory })
    | .error e => (.signIn (.error e), g)
  | .report user r => g.act .report (Feedback.submit user r.content r.issues r.time)
  | .redeem catalog user code now => g.act .redeem (catalog.redeem user code now)
  | .accept user username share => g.act .accept (Invites.accept g.directory user username share)
  | .ready user => g.act .ready (Invites.ready g.directory user)
  | .claim user names => g.act .claim (Invites.claim user names)
  | .progress user => g.act .progress (Progress.load user)
  | .advance user level => g.act .advance (Progress.save user level)

/-- The answer to a call. -/
def answer (g : Game) (c : GameCall) : GameAnswer := (g.perform c).1

/-- The game after a call. -/
def next (g : Game) (c : GameCall) : Game := (g.perform c).2

/-- The game after a run of calls. -/
def run (g : Game) : List GameCall → Game
  | [] => g
  | c :: calls => (g.next c).run calls

/-- What a call may do: with which answer, which accounts and which storage it may end. -/
inductive Effect (d : Directory) (s : Storage) :
    GameCall → GameAnswer → Directory → Storage → Prop
  | signIn {external : ExternalId} {username : String} {create : Bool} {fresh : UserId}
      {found : SignedIn} {d' : Directory}
      (h : d.signIn external username create fresh = .ok (found, d')) :
      Effect d s (.signIn external username create fresh) (.signIn (.ok found)) d' s
  | noSignIn (external : ExternalId) (username : String) (create : Bool) (fresh : UserId)
      (e : IdentityError) :
      Effect d s (.signIn external username create fresh) (.signIn (.error e)) d s
  | report {user : UserId} {r : Report} {answer : Except ActionError Unit} {s' : Storage}
      (h : Feedback.SubmitEffect user r s answer s') :
      Effect d s (.report user r) (.report answer) d s'
  | redeem {catalog : Catalog} {user : UserId} {code : String} {now : Instant}
      {answer : Except ActionError RedeemOutcome} {s' : Storage}
      (h : catalog.RedeemEffect user code now s answer s') :
      Effect d s (.redeem catalog user code now) (.redeem answer) d s'
  | accept {user : UserId} {username share : String} {answer : Except ActionError AcceptOutcome}
      {s' : Storage} (h : Invites.AcceptEffect d user username share s answer s') :
      Effect d s (.accept user username share) (.accept answer) d s'
  | ready (user : UserId) (answer : Except ActionError (List String)) :
      Effect d s (.ready user) (.ready answer) d s
  | claim {user : UserId} {names : List String} {answer : Except ActionError ClaimOutcome}
      {s' : Storage} (h : Invites.ClaimEffect user names s answer s') :
      Effect d s (.claim user names) (.claim answer) d s'
  | progress (user : UserId) (answer : Except ActionError Progress) :
      Effect d s (.progress user) (.progress answer) d s
  | advance {user : UserId} {level : String} {answer : Except ActionError Unit} {s' : Storage}
      (h : Progress.SaveEffect user level s answer s') :
      Effect d s (.advance user level) (.advance answer) d s'

/-- A call leaves documents of other kinds alone than the one that it writes. -/
theorem Effect.look_of_key_ne {d d' : Directory} {s s' : Storage} {c : GameCall} {a : GameAnswer}
    (heffect : Effect d s c a d' s') {D : Type} [Document D]
    (hkey : c.key? ≠ some (Document.key D)) (user : UserId) : s'.look D user = s.look D user := by
  have hkeep {E : Type} [Document E] {s : Storage} {user' : UserId} (x : E)
      (hc : c.key? = some (Document.key E)) : (s.keep user' x).look D user = s.look D user := by
    apply Storage.look_keep_of_key_ne
    rw [hc, ne_eq, Option.some.injEq] at hkey
    exact Ne.symm hkey
  have hrewrites {E : Type} [Document E] {s s' : Storage} {user' : UserId}
      (h : s.Rewrites E user' s') (hc : c.key? = some (Document.key E)) :
      s'.look D user = s.look D user := by
    cases h with
    | same => rfl
    | saved hlook x => exact hkeep x hc
  cases heffect with
  | signIn h => rfl
  | noSignIn external username create fresh e => rfl
  | ready user' answer => rfl
  | progress user' answer => rfl
  | report h => exact hrewrites h.rewrites rfl
  | redeem h => exact hrewrites h.rewrites rfl
  | accept h =>
    obtain rfl | ⟨inviter, s₁, -, htheirs, hmine⟩ := h.rewrites
    · rfl
    · exact (hrewrites hmine rfl).trans (hrewrites htheirs rfl)
  | claim h => exact hrewrites h.rewrites rfl
  | advance h =>
    cases h with
    | saved => exact hkeep _ rfl
    | failed e => rfl

/-- A username keeps its account. -/
theorem Effect.named?_of_some {d d' : Directory} {s s' : Storage} {c : GameCall} {a : GameAnswer}
    (heffect : Effect d s c a d' s') {username : String} {account : Account}
    (hnamed : d.named? username = some account) : d'.named? username = some account := by
  cases heffect with
  | signIn h => exact Directory.named?_signIn_of_some h hnamed
  | _ => exact hnamed

theorem Effect.online {d d' : Directory} {s s' : Storage} {c : GameCall} {a : GameAnswer}
    (heffect : Effect d s c a d' s') : s'.online = s.online := by
  cases heffect with
  | report h => cases h <;> rfl
  | redeem h => cases h <;> rfl
  | accept h => cases h <;> rfl
  | claim h => cases h <;> rfl
  | advance h => cases h <;> rfl
  | _ => rfl

variable {g : Game}

/-- What an action on the documents does, as a call. -/
private theorem act_cases {α : Type} {answer : Except ActionError α → GameAnswer}
    {action : ActionM α} {p : Except ActionError α → Storage → Prop}
    (h : ∃ a s', action.perform g.store = (a, s') ∧ g.store.IsLike s' ∧ p a s'.storage) :
    ∃ a s', g.act answer action = (answer a, { g with store := s' }) ∧ g.store.IsLike s' ∧
      p a s'.storage := by
  obtain ⟨a, s', hperform, hlike, hp⟩ := h
  exact ⟨a, s', by rw [act, hperform], hlike, hp⟩

private theorem act_of_isQuiet {α : Type} {answer : Except ActionError α → GameAnswer}
    {action : ActionM α} (hquiet : action.IsQuiet) (hcodec : g.store.codec = {}) :
    ∃ a s', g.act answer action = (answer a, { g with store := s' }) ∧ g.store.IsLike s' ∧
      s'.storage = g.store.storage :=
  @act_cases g α answer action (fun _ s => s = g.store.storage) (hquiet g.store hcodec)

/-- Every call has one of its effects, and leaves gate and codec alone. -/
theorem effect_next (hcodec : g.store.codec = {}) (c : GameCall) :
    g.store.IsLike (g.next c).store ∧
      Effect g.directory g.store.storage c (g.answer c) (g.next c).directory
        (g.next c).store.storage := by
  rw [next, answer]
  cases c with
  | signIn external username create fresh =>
    rw [perform]
    cases hsignIn : g.directory.signIn external username create fresh with
    | error e => exact ⟨.refl _, .noSignIn external username create fresh e⟩
    | ok found => exact ⟨.refl _, .signIn hsignIn⟩
  | report user r =>
    obtain ⟨a, s', hact, hlike, heffect⟩ := act_cases (Feedback.submit_effect user r hcodec)
    rw [perform, hact]
    exact ⟨hlike, .report heffect⟩
  | redeem catalog user code now =>
    obtain ⟨a, s', hact, hlike, heffect⟩ := act_cases (catalog.redeem_effect user code now hcodec)
    rw [perform, hact]
    exact ⟨hlike, .redeem heffect⟩
  | accept user username share =>
    obtain ⟨a, s', hact, hlike, heffect⟩ :=
      act_cases (Invites.accept_effect g.directory user username share hcodec)
    rw [perform, hact]
    exact ⟨hlike, .accept heffect⟩
  | ready user =>
    obtain ⟨a, s', hact, hlike, hstorage⟩ :=
      act_of_isQuiet (Invites.isQuiet_ready g.directory user) hcodec
    rw [perform, hact, hstorage]
    exact ⟨hlike, .ready user a⟩
  | claim user names =>
    obtain ⟨a, s', hact, hlike, heffect⟩ := act_cases (Invites.claim_effect user names hcodec)
    rw [perform, hact]
    exact ⟨hlike, .claim heffect⟩
  | progress user =>
    obtain ⟨a, s', hact, hlike, hstorage⟩ :=
      act_of_isQuiet (ActionM.IsQuiet.load Progress user) hcodec
    rw [perform, Progress.load, hact, hstorage]
    exact ⟨hlike, .progress user a⟩
  | advance user level =>
    obtain ⟨a, s', hact, hlike, heffect⟩ := act_cases (Progress.save_effect user level hcodec)
    rw [perform, hact]
    exact ⟨hlike, .advance heffect⟩

theorem codec_next (hcodec : g.store.codec = {}) (c : GameCall) :
    (g.next c).store.codec = {} :=
  (effect_next hcodec c).1.codec.trans hcodec

theorem isOpen_next (hopen : g.store.IsOpen) (c : GameCall) : (g.next c).store.IsOpen := by
  obtain ⟨hlike, heffect⟩ := effect_next hopen.codec c
  refine ⟨hlike.codec.trans hopen.codec, ?_, heffect.online.trans hopen.online⟩
  rw [hlike.gate]
  exact hopen.gate

theorem named?_next (hcodec : g.store.codec = {}) (c : GameCall) {username : String}
    {account : Account} (hnamed : g.directory.named? username = some account) :
    (g.next c).directory.named? username = some account :=
  (effect_next hcodec c).2.named?_of_some hnamed

theorem report_next (hcodec : g.store.codec = {}) (user : UserId) (r : Report) :
    ∃ answer s', g.answer (.report user r) = .report answer ∧
      (g.next (.report user r)).store.storage = s' ∧
        Feedback.SubmitEffect user r g.store.storage answer s' := by
  obtain ⟨-, heffect⟩ := effect_next hcodec (.report user r)
  generalize g.answer (.report user r) = a at heffect ⊢
  cases heffect with
  | report h => exact ⟨_, _, rfl, rfl, h⟩

theorem redeem_next (hcodec : g.store.codec = {}) (catalog : Catalog) (user : UserId)
    (code : String) (now : Instant) :
    ∃ answer s', g.answer (.redeem catalog user code now) = .redeem answer ∧
      (g.next (.redeem catalog user code now)).store.storage = s' ∧
        catalog.RedeemEffect user code now g.store.storage answer s' := by
  obtain ⟨-, heffect⟩ := effect_next hcodec (.redeem catalog user code now)
  generalize g.answer (.redeem catalog user code now) = a at heffect ⊢
  cases heffect with
  | redeem h => exact ⟨_, _, rfl, rfl, h⟩

theorem accept_next (hcodec : g.store.codec = {}) (user : UserId) (username share : String) :
    ∃ answer s', g.answer (.accept user username share) = .accept answer ∧
      (g.next (.accept user username share)).store.storage = s' ∧
        Invites.AcceptEffect g.directory user username share g.store.storage answer s' := by
  obtain ⟨-, heffect⟩ := effect_next hcodec (.accept user username share)
  generalize g.answer (.accept user username share) = a at heffect ⊢
  cases heffect with
  | accept h => exact ⟨_, _, rfl, rfl, h⟩

theorem claim_next (hcodec : g.store.codec = {}) (user : UserId) (names : List String) :
    ∃ answer s', g.answer (.claim user names) = .claim answer ∧
      (g.next (.claim user names)).store.storage = s' ∧
        Invites.ClaimEffect user names g.store.storage answer s' := by
  obtain ⟨-, heffect⟩ := effect_next hcodec (.claim user names)
  generalize g.answer (.claim user names) = a at heffect ⊢
  cases heffect with
  | claim h => exact ⟨_, _, rfl, rfl, h⟩

theorem advance_next (hcodec : g.store.codec = {}) (user : UserId) (level : String) :
    ∃ answer s', g.answer (.advance user level) = .advance answer ∧
      (g.next (.advance user level)).store.storage = s' ∧
        Progress.SaveEffect user level g.store.storage answer s' := by
  obtain ⟨-, heffect⟩ := effect_next hcodec (.advance user level)
  generalize g.answer (.advance user level) = a at heffect ⊢
  cases heffect with
  | advance h => exact ⟨_, _, rfl, rfl, h⟩

theorem look_next_of_key_ne (hcodec : g.store.codec = {}) {c : GameCall} {D : Type} [Document D]
    (hkey : c.key? ≠ some (Document.key D)) (user : UserId) :
    (g.next c).store.storage.look D user = g.store.storage.look D user :=
  (effect_next hcodec c).2.look_of_key_ne hkey user

theorem run_append (before after : List GameCall) :
    g.run (before ++ after) = (g.run before).run after := by
  induction before generalizing g with
  | nil => rfl
  | cons c before ih => exact ih

theorem run_concat (calls : List GameCall) (c : GameCall) :
    g.run (calls ++ [c]) = (g.run calls).next c := by
  rw [run_append, run, run]

/-- Runs leave the gate and the codec alone. -/
theorem isLike_run (hcodec : g.store.codec = {}) (calls : List GameCall) :
    g.store.IsLike (g.run calls).store := by
  induction calls generalizing g with
  | nil => exact .refl g.store
  | cons c calls ih =>
    exact (effect_next hcodec c).1.trans (ih (codec_next hcodec c))

theorem codec_run_start (gate : Gate) (calls : List GameCall) :
    ((start gate).run calls).store.codec = {} :=
  (isLike_run rfl calls).codec

end Game

end PlayerHub
