import PlayerHub.Proofs.Game.Invites

namespace PlayerHub

/-- Whether every entry of a list of invitees is filed under the username of the invitee. -/
def Invites.IsKeyed (i : Invites) : Prop := ∀ k x, i.invitees.get? k = some x → x.name = k

namespace Invites

variable {i : Invites}

theorem isKeyed_fresh : ({} : Invites).IsKeyed := fun _ _ h => nomatch h

theorem IsKeyed.insert (h : i.IsKeyed) {name : String} {x : Invitee} (hx : x.name = name) :
    IsKeyed { i with invitees := i.invitees.insert name x } := by
  intro k y hget
  rw [NameMap.get?_insert] at hget
  split at hget
  · rename_i hk
    cases hget
    rw [hx, hk]
  · exact h k y hget

theorem IsKeyed.add (h : i.IsKeyed) (username : String) : (i.add username).IsKeyed := h.insert rfl

theorem IsKeyed.claimAll (h : i.IsKeyed) (names : List String) :
    (i.claimAll names).1.IsKeyed := by
  rw [claimAll_fst]
  intro k y hget
  rw [get?_marked] at hget
  obtain ⟨x, hx, rfl⟩ := Option.map_eq_some_iff.1 hget
  split
  · exact h k x hx
  · exact h k x hx

theorem IsKeyed.mem_readyNames (h : i.IsKeyed) {test : String → Bool} {name : String} :
    name ∈ i.readyNames test ↔ i.claimed? name = some false ∧ test name = true := by
  rw [readyNames, List.mem_mergeSort, List.mem_map, claimed?]
  simp only [List.mem_filter, Bool.and_eq_true, Bool.not_eq_true', NameMap.mem_values]
  constructor
  · rintro ⟨x, ⟨⟨k, hget⟩, hclaimed, htest⟩, rfl⟩
    rw [h k x hget, hget]
    exact ⟨congrArg some hclaimed, h k x hget ▸ htest⟩
  · rintro ⟨hclaimed, htest⟩
    obtain ⟨x, hget, hx⟩ := Option.map_eq_some_iff.1 hclaimed
    have hname := h name x hget
    exact ⟨x, ⟨⟨name, hget⟩, hx, hname.symm ▸ htest⟩, hname⟩

end Invites

/-- Whether every user's document of a kind can be read and has a property. -/
def Storage.Holds {D : Type} [Document D] (s : Storage) (p : D → Prop) : Prop :=
  ∀ user, ∃ d, s.look D user = .ok d ∧ p d

namespace Storage.Holds

variable {D E : Type} [Document D] [Document E] {s : Storage} {p : D → Prop}

theorem keep [LawfulDocument D] (h : s.Holds p) (user : UserId) {d : D} (hd : p d) :
    (s.keep user d).Holds p := by
  intro user'
  by_cases huser : user' = user
  · subst huser
    exact ⟨d, look_keep_self s user' d, hd⟩
  · rw [look_keep_of_user_ne s d huser]
    exact h user'

theorem of_look {s' : Storage} (h : s.Holds p)
    (hlook : ∀ user, s'.look D user = s.look D user) : s'.Holds p := by
  intro user
  rw [hlook]
  exact h user

theorem get (h : s.Holds p) {user : UserId} {d : D} (hlook : s.look D user = .ok d) : p d := by
  obtain ⟨d', hlook', hd⟩ := h user
  cases hlook.symm.trans hlook'
  exact hd

end Storage.Holds

/-- The store, with nothing that refuses calls. -/
def Store.unguarded (s : Store) : Store := { s with gate := fun _ _ => none }

namespace Game

/-- What is known in every state of a run. -/
structure Sound (g : Game) : Prop where
  codec : g.store.codec = {}
  online : g.store.storage.online = true
  outage : g.directory.outage = none
  invites : g.store.storage.Holds Invites.IsKeyed
  progress : g.store.storage.Holds fun _ : Progress => True

variable {g : Game} {user : UserId} {name : String}

theorem sound_start (gate : Gate) : (start gate).Sound where
  codec := rfl
  online := rfl
  outage := rfl
  invites := fun user => ⟨{}, Storage.look_empty user, Invites.isKeyed_fresh⟩
  progress := fun user => ⟨{}, Storage.look_empty user, trivial⟩

theorem Effect.outage {d d' : Directory} {s s' : Storage} {c : GameCall} {a : GameAnswer}
    (heffect : Effect d s c a d' s') : d'.outage = d.outage := by
  cases heffect with
  | signIn h =>
    obtain ⟨-, -, -, rfl⟩ | ⟨-, -, -, -, rfl⟩ := Directory.signIn_eq_ok h
    · rfl
    · rfl
  | _ => rfl

/-- Every list of invitees that the game writes is kept under the names of the invitees. -/
theorem holds_invites_next (hcodec : g.store.codec = {}) (c : GameCall)
    (h : g.store.storage.Holds Invites.IsKeyed) :
    (g.next c).store.storage.Holds Invites.IsKeyed := by
  by_cases hkey : c.key? = some (Document.key Invites)
  · cases c with
    | accept user username share =>
      obtain ⟨answer, s', -, hstorage, heffect⟩ := accept_next hcodec user username share
      rw [hstorage]
      cases heffect with
      | accepted h' =>
        have hmine := h.get h'.look_mine
        exact (h.keep _ ((h.get h'.look_theirs).add username)).keep _ hmine
      | halfway e h' => exact h.keep _ ((h.get h'.look_theirs).add username)
      | failed e => exact h
      | again hmine hinvited => exact h
      | notFound hnamed => exact h
      | own hshare => exact h
    | claim user names =>
      obtain ⟨answer, s', -, hstorage, heffect⟩ := claim_next hcodec user names
      rw [hstorage]
      cases heffect with
      | claimed hmine hall => exact h.keep _ ((h.get hmine).claimAll names)
      | failed e => exact h
      | unknown hmine hname => exact h
    | _ => simp [GameCall.key?, Document.key] at hkey
  · exact h.of_look (look_next_of_key_ne hcodec hkey)

theorem holds_progress_next (hcodec : g.store.codec = {}) (c : GameCall)
    (h : g.store.storage.Holds fun _ : Progress => True) :
    (g.next c).store.storage.Holds fun _ : Progress => True := by
  by_cases hkey : c.key? = some (Document.key Progress)
  · cases c with
    | advance user level =>
      obtain ⟨answer, s', -, hstorage, heffect⟩ := advance_next hcodec user level
      rw [hstorage]
      cases heffect with
      | saved => exact h.keep user trivial
      | failed e => exact h
    | _ => simp [GameCall.key?, Document.key] at hkey
  · exact h.of_look (look_next_of_key_ne hcodec hkey)

theorem Sound.next (hsound : g.Sound) (c : GameCall) : (g.next c).Sound := by
  obtain ⟨hlike, heffect⟩ := effect_next hsound.codec c
  exact {
    codec := hlike.codec.trans hsound.codec
    online := heffect.online.trans hsound.online
    outage := heffect.outage.trans hsound.outage
    invites := holds_invites_next hsound.codec c hsound.invites
    progress := holds_progress_next hsound.codec c hsound.progress }

theorem Sound.run (hsound : g.Sound) (calls : List GameCall) : (g.run calls).Sound := by
  induction calls generalizing g with
  | nil => exact hsound
  | cons c calls ih => exact ih (hsound.next c)

/-- Whether a username is that of a player who has left the reward level behind. -/
def isPast (g : Game) (name : String) : Bool := Invites.isPast g.directory g.store.storage name

theorem Sound.progressIsReadable (hsound : g.Sound) :
    Invites.ProgressIsReadable g.directory g.store.storage := by
  intro name account _
  obtain ⟨p, hp, -⟩ := hsound.progress account.user
  exact ⟨p, hp⟩

/-- The list of what is ready names the unclaimed invitees who have left the reward level behind. -/
theorem Sound.ready (hsound : g.Sound) (user : UserId) :
    ∃ listed, ((Invites.ready g.directory user).perform g.store.unguarded).1 = .ok listed ∧
      ∀ name, name ∈ listed ↔ g.claimed? user name = some false ∧ g.isPast name = true := by
  obtain ⟨mine, hmine, hkeyed⟩ := hsound.invites user
  have hopen : g.store.unguarded.IsOpen := ⟨hsound.codec, fun _ _ => rfl, hsound.online⟩
  refine ⟨mine.readyNames g.isPast,
    Invites.ready_of_isOpen hopen hsound.outage hsound.progressIsReadable hmine, fun name => ?_⟩
  rw [hkeyed.mem_readyNames, claimed?, Storage.claimed?_eq hmine]

/-- A claim marks rewards as claimed for unclaimed invitees that it is asked for. Such an invitee is
one whom the list of what is ready names in the same state exactly if the invitee has left the
reward level behind: the claim does not look at that. -/
theorem newly_claimed_is_ready_iff_past (gate : Gate) (calls : List GameCall) (user : UserId)
    (names : List String) :
    let g := (start gate).run calls
    ∃ listed, ((Invites.ready g.directory user).perform g.store.unguarded).1 = .ok listed ∧
      ∀ name, g.claimed? user name ≠ some true →
        (g.next (.claim user names)).claimed? user name = some true →
          name ∈ names ∧ g.claimed? user name = some false ∧
            (name ∈ listed ↔ g.isPast name = true) := by
  intro g
  have hsound : g.Sound := (sound_start gate).run calls
  obtain ⟨listed, hready, hmem⟩ := hsound.ready user
  refine ⟨listed, hready, fun name hbefore hafter => ?_⟩
  have hmarked : name ∈ names ∧ g.claimed? user name = some false := by
    have heffect := invite_effect hsound.codec (.claim user names)
    generalize g.answer (.claim user names) = a at heffect
    cases heffect with
    | claimed hlists =>
      rw [hlists] at hafter
      split at hafter
      · rename_i hasked
        refine ⟨hasked.2, ?_⟩
        cases hclaimed : g.claimed? user name with
        | none => simp [hclaimed] at hafter
        | some claimed =>
          cases claimed with
          | false => rfl
          | true => exact absurd hclaimed hbefore
      · exact absurd hafter hbefore
    | notClaimed hnot hlists => exact absurd ((hlists user name).symm.trans hafter) hbefore
    | other hkey hlists => exact absurd rfl hkey
  refine ⟨hmarked.1, hmarked.2, ?_⟩
  rw [hmem, and_iff_right hmarked.2]

/-- Bob has come past the reward level when Alice claims the reward for him. -/
theorem newly_claimed_is_ready_after_progress :
    let alice := userOfDigit 1
    let bob := userOfDigit 2
    let g := (start fun _ _ => none).run (invitation alice bob ++ [.advance bob "L1002"])
    ∃ listed, ((Invites.ready g.directory alice).perform g.store.unguarded).1 = .ok listed ∧
      g.claimed? alice "bob" = some false ∧
        (g.next (.claim alice ["bob"])).claimed? alice "bob" = some true ∧ "bob" ∈ listed := by
  intro alice bob g
  have hbefore : g.claimed? alice "bob" = some false := by decide +kernel
  have hafter : (g.next (.claim alice ["bob"])).claimed? alice "bob" = some true := by
    decide +kernel
  have hpast : g.isPast "bob" = true := by decide +kernel
  obtain ⟨listed, hready, hmarked⟩ := newly_claimed_is_ready_iff_past (fun _ _ => none)
    (invitation alice bob ++ [.advance bob "L1002"]) alice ["bob"]
  have hnew : g.claimed? alice "bob" ≠ some true := by
    rw [hbefore]
    exact fun h => nomatch h
  obtain ⟨-, -, hlisted⟩ := hmarked "bob" hnew hafter
  exact ⟨listed, hready, hbefore, hafter, hlisted.2 hpast⟩

/-- Bob has made no progress at all, and Alice claims the reward for him although the list of what
is ready does not name him. -/
theorem claimed_without_progress :
    let alice := userOfDigit 1
    let bob := userOfDigit 2
    let g := (start fun _ _ => none).run (invitation alice bob)
    ∃ listed, ((Invites.ready g.directory alice).perform g.store.unguarded).1 = .ok listed ∧
      "bob" ∉ listed ∧ g.claimed? alice "bob" = some false ∧
        (g.next (.claim alice ["bob"])).claimed? alice "bob" = some true := by
  intro alice bob g
  have hpast : g.isPast "bob" = false := by decide +kernel
  obtain ⟨listed, hready, hmem⟩ :=
    ((sound_start fun _ _ => none).run (invitation alice bob)).ready alice
  refine ⟨listed, hready, ?_, by decide +kernel, by decide +kernel⟩
  rw [hmem]
  rintro ⟨-, hpast'⟩
  cases hpast.symm.trans hpast'

end Game

end PlayerHub
