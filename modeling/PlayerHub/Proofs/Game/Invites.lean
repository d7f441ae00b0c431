import PlayerHub.Proofs.Game.Basic

namespace PlayerHub

namespace Storage

/-- Whether the list of a user says that the reward for a name is claimed; nothing if the name is
not in the list. -/
def claimed? (s : Storage) (user : UserId) (name : String) : Option Bool :=
  match s.look Invites user with
  | .ok i => i.claimed? name
  | .error _ => none

variable {s : Storage} {user : UserId} {i : Invites}

theorem claimed?_eq (hlook : s.look Invites user = .ok i) (name : String) :
    s.claimed? user name = i.claimed? name := by
  rw [claimed?, hlook]

theorem claimed?_keep (s : Storage) (user : UserId) (i : Invites) (u : UserId) (name : String) :
    (s.keep user i).claimed? u name = if u = user then i.claimed? name else s.claimed? u name := by
  by_cases hu : u = user
  · subst hu
    rw [claimed?_eq (look_keep_self s u i), if_pos rfl]
  · rw [claimed?, look_keep_of_user_ne s i hu, if_neg hu, claimed?]

/-- A player is added to the list of another one. -/
theorem claimed?_keep_add (hlook : s.look Invites user = .ok i) (username : String) (u : UserId)
    (name : String) : (s.keep user (i.add username)).claimed? u name =
      if u = user ∧ name = username then some false else s.claimed? u name := by
  rw [claimed?_keep, Invites.claimed?_add]
  by_cases hu : u = user
  · subst hu
    simp only [if_true, true_and, claimed?_eq hlook]
  · simp only [hu, if_false, false_and]

theorem claimed?_keep_acceptFrom (hlook : s.look Invites user = .ok i) (inviter : String)
    (u : UserId) (name : String) :
    (s.keep user (i.acceptFrom inviter)).claimed? u name = s.claimed? u name := by
  rw [claimed?_keep, Invites.claimed?_acceptFrom]
  by_cases hu : u = user
  · subst hu
    rw [if_pos rfl, claimed?_eq hlook]
  · rw [if_neg hu]

theorem claimed?_keep_claimAll (hlook : s.look Invites user = .ok i) (names : List String)
    (u : UserId) (name : String) :
    (s.keep user (i.claimAll names).1).claimed? u name =
      if u = user ∧ name ∈ names then (s.claimed? u name).map fun _ => true
      else s.claimed? u name := by
  rw [claimed?_keep, Invites.claimed?_claimAll]
  by_cases hu : u = user
  · subst hu
    simp only [if_true, true_and, claimed?_eq hlook]
  · simp only [hu, if_false, false_and]

/-- Whether a user has accepted an invite. -/
def IsInvited (s : Storage) (user : UserId) : Prop :=
  ∃ i, s.look Invites user = .ok i ∧ i.invited = true

/-- Writing invites of somebody that keep the mark of having accepted one. -/
theorem IsInvited.keep {user' : UserId} {old new : Invites} (h : s.IsInvited user)
    (hlook : s.look Invites user' = .ok old) (hmark : old.invited = true → new.invited = true) :
    (s.keep user' new).IsInvited user := by
  obtain ⟨i, hi, hinvited⟩ := h
  by_cases huser : user = user'
  · subst huser
    cases hlook.symm.trans hi
    exact ⟨new, look_keep_self s user new, hmark hinvited⟩
  · exact ⟨i, (look_keep_of_user_ne s new huser).trans hi, hinvited⟩

theorem IsInvited.keep_add {user' : UserId} (h : s.IsInvited user)
    (hlook : s.look Invites user' = .ok i) (username : String) :
    (s.keep user' (i.add username)).IsInvited user := by
  apply h.keep hlook
  intro hmark
  rw [Invites.add, hmark]

end Storage

namespace Game

/-- Whether the list of a user says that the reward for a name is claimed; nothing if the name is
not in the list. -/
def claimed? (g : Game) (user : UserId) (name : String) : Option Bool :=
  g.store.storage.claimed? user name

/-- Whether a user has accepted an invite. -/
def IsInvited (g : Game) (user : UserId) : Prop := g.store.storage.IsInvited user

variable {g : Game} {user : UserId} {name : String}

/-- What a call does to the lists of invitees: it adds a player to a list, who is invited then or is
not, it marks rewards as claimed, or it does nothing to the lists. -/
inductive InviteEffect (g g' : Game) : GameCall → GameAnswer → Prop
  | accepted {user : UserId} {username share : String} {inviter : Account}
      (hnamed : g.directory.named? share = some inviter) (hnew : ¬ g.IsInvited user)
      (hinvited : g'.IsInvited user)
      (hlists : ∀ u n, g'.claimed? u n =
        if u = inviter.user ∧ n = username then some false else g.claimed? u n) :
      InviteEffect g g' (.accept user username share) (.accept (.ok (.accepted inviter.username)))
  | halfway {user : UserId} {username share : String} {inviter : Account} (e : ActionError)
      (hnamed : g.directory.named? share = some inviter) (hnew : ¬ g.IsInvited user)
      (hlists : ∀ u n, g'.claimed? u n =
        if u = inviter.user ∧ n = username then some false else g.claimed? u n) :
      InviteEffect g g' (.accept user username share) (.accept (.error e))
  | claimed {user : UserId} {names : List String}
      (hlists : ∀ u n, g'.claimed? u n =
        if u = user ∧ n ∈ names then (g.claimed? u n).map fun _ => true else g.claimed? u n) :
      InviteEffect g g' (.claim user names)
        (.claim (.ok (.claimed (Invites.unclaimedAmong (g.claimed? user) names).length)))
  | notAccepted {user : UserId} {username share : String}
      {answer : Except ActionError AcceptOutcome}
      (hanswer : ∀ inviter, answer ≠ .ok (.accepted inviter))
      (hlists : ∀ u n, g'.claimed? u n = g.claimed? u n) :
      InviteEffect g g' (.accept user username share) (.accept answer)
  | notClaimed {user : UserId} {names : List String} {answer : Except ActionError ClaimOutcome}
      (hanswer : ∀ newly, answer ≠ .ok (.claimed newly))
      (hlists : ∀ u n, g'.claimed? u n = g.claimed? u n) :
      InviteEffect g g' (.claim user names) (.claim answer)
  | other {c : GameCall} {a : GameAnswer} (hkey : c.key? ≠ some (Document.key Invites))
      (hlists : ∀ u n, g'.claimed? u n = g.claimed? u n) : InviteEffect g g' c a

private theorem not_isInvited {mine : Invites}
    (hmine : g.store.storage.look Invites user = .ok mine) (hnew : mine.invited = false) :
    ¬ g.IsInvited user := by
  rintro ⟨i, hi, hinvited⟩
  cases hmine.symm.trans hi
  cases hnew.symm.trans hinvited

private theorem claimed?_of_storage_eq {g' : Game} (h : g'.store.storage = g.store.storage)
    (u : UserId) (n : String) : g'.claimed? u n = g.claimed? u n := by
  rw [claimed?, h, claimed?]

/-- Every call has one of these effects on the lists of invitees. -/
theorem invite_effect (hcodec : g.store.codec = {}) (c : GameCall) :
    InviteEffect g (g.next c) c (g.answer c) := by
  by_cases hkey : c.key? = some (Document.key Invites)
  · cases c with
    | accept user username share =>
      obtain ⟨answer, s', hanswer, hstorage, heffect⟩ := accept_next hcodec user username share
      rw [hanswer]
      cases heffect with
      | accepted h =>
        refine .accepted h.named (not_isInvited h.look_mine h.not_invited) ?_ fun u n => ?_
        · rw [IsInvited, hstorage]
          exact ⟨_, Storage.look_keep_self _ _ _, rfl⟩
        · rw [claimed?, hstorage, Storage.claimed?_keep_acceptFrom (h.look_mine_keep _),
            Storage.claimed?_keep_add h.look_theirs, claimed?]
      | halfway e h =>
        refine .halfway e h.named (not_isInvited h.look_mine h.not_invited) fun u n => ?_
        rw [claimed?, hstorage, Storage.claimed?_keep_add h.look_theirs, claimed?]
      | failed e => exact .notAccepted (by simp) (claimed?_of_storage_eq hstorage)
      | again hmine h => exact .notAccepted (by simp) (claimed?_of_storage_eq hstorage)
      | notFound h => exact .notAccepted (by simp) (claimed?_of_storage_eq hstorage)
      | own h => exact .notAccepted (by simp) (claimed?_of_storage_eq hstorage)
    | claim user names =>
      obtain ⟨answer, s', hanswer, hstorage, heffect⟩ := claim_next hcodec user names
      rw [hanswer]
      cases heffect with
      | claimed hmine hall =>
        rename_i mine
        have hclaimed : g.claimed? user = mine.claimed? := funext (Storage.claimed?_eq hmine)
        rw [← hclaimed]
        refine .claimed fun u n => ?_
        rw [claimed?, hstorage, Storage.claimed?_keep_claimAll hmine, claimed?]
      | failed e => exact .notClaimed (by simp) (claimed?_of_storage_eq hstorage)
      | unknown hmine hname => exact .notClaimed (by simp) (claimed?_of_storage_eq hstorage)
    | _ => simp [GameCall.key?, Document.key] at hkey
  · refine .other hkey fun u n => ?_
    rw [claimed?, Storage.claimed?, look_next_of_key_ne hcodec hkey, claimed?, Storage.claimed?]

/-- A player who has accepted an invite has done so for good. -/
theorem IsInvited.next (h : g.IsInvited user) (hcodec : g.store.codec = {}) (c : GameCall) :
    (g.next c).IsInvited user := by
  have hbefore : g.store.storage.IsInvited user := h
  by_cases hkey : c.key? = some (Document.key Invites)
  · cases c with
    | accept user' username share =>
      obtain ⟨answer, s', -, hstorage, heffect⟩ := accept_next hcodec user' username share
      rw [IsInvited, hstorage]
      cases heffect with
      | accepted h' =>
        refine Storage.IsInvited.keep ?_ (h'.look_mine_keep _) fun _ => rfl
        exact hbefore.keep_add h'.look_theirs username
      | halfway e h' => exact hbefore.keep_add h'.look_theirs username
      | failed e => exact hbefore
      | again hmine hinvited => exact hbefore
      | notFound hnamed => exact hbefore
      | own hshare => exact hbefore
    | claim user' names =>
      obtain ⟨answer, s', -, hstorage, heffect⟩ := claim_next hcodec user' names
      rw [IsInvited, hstorage]
      cases heffect with
      | claimed hmine hall =>
        refine hbefore.keep hmine fun hmark => ?_
        rw [Invites.fields_claimAll.1, hmark]
      | failed e => exact hbefore
      | unknown hmine hname => exact hbefore
    | _ => simp [GameCall.key?, Document.key] at hkey
  · obtain ⟨i, hi, hinvited⟩ := hbefore
    exact ⟨i, (look_next_of_key_ne hcodec hkey user).trans hi, hinvited⟩

/-- The id all of whose digits are the same. -/
def userOfDigit (d : Fin 16) : UserId := ⟨List.replicate 32 d, List.length_replicate⟩

/-- Alice and Bob sign in, and Bob accepts Alice's invite. -/
def invitation (alice bob : UserId) : List GameCall :=
  [.signIn ⟨"a"⟩ "alice" true alice, .signIn ⟨"b"⟩ "bob" true bob, .accept bob "bob" "alice"]

end Game

end PlayerHub
