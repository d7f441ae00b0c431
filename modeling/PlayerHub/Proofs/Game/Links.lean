import PlayerHub.Proofs.Account.Tables
import PlayerHub.Proofs.Game.Journal
import PlayerHub.Proofs.Game.Ready
import PlayerHub.Proofs.Game.Rewards
import PlayerHub.Proofs.Invite.Halfway

namespace PlayerHub

namespace Invites

/-- The username of the inviter of a player who has accepted an invite. -/
def inviter? (i : Invites) : Option String := if i.invited then some i.inviter else none

variable {i : Invites}

theorem inviter?_add (username : String) : (i.add username).inviter? = i.inviter? := rfl

theorem inviter?_acceptFrom (inviter : String) : (i.acceptFrom inviter).inviter? = some inviter :=
  rfl

theorem inviter?_claimAll (names : List String) : (i.claimAll names).1.inviter? = i.inviter? := by
  rw [inviter?, fields_claimAll.1, fields_claimAll.2, inviter?]

theorem inviter?_eq_none (hnew : i.invited = false) : i.inviter? = none := by
  rw [inviter?, hnew]
  rfl

end Invites

namespace Storage

/-- The username of the inviter of a user who has accepted an invite. -/
def inviter? (s : Storage) (user : UserId) : Option String :=
  match s.look Invites user with
  | .ok i => i.inviter?
  | .error _ => none

variable {s : Storage} {user : UserId} {i : Invites}

theorem inviter?_eq (hlook : s.look Invites user = .ok i) : s.inviter? user = i.inviter? := by
  rw [inviter?, hlook]

theorem inviter?_keep (s : Storage) (user : UserId) (i : Invites) (u : UserId) :
    (s.keep user i).inviter? u = if u = user then i.inviter? else s.inviter? u := by
  by_cases hu : u = user
  · subst hu
    rw [inviter?_eq (look_keep_self s u i), if_pos rfl]
  · rw [inviter?, look_keep_of_user_ne s i hu, if_neg hu, inviter?]

/-- A document that says the same of the inviter as the one that it replaces. -/
theorem inviter?_keep_of_eq (hlook : s.look Invites user = .ok i) {i' : Invites}
    (hsame : i'.inviter? = i.inviter?) (u : UserId) :
    (s.keep user i').inviter? u = s.inviter? u := by
  rw [inviter?_keep]
  split
  · rename_i hu
    rw [hu, inviter?_eq hlook, hsame]
  · rfl

end Storage

/-- The attempt to sign in that a call is, if it is one. -/
def GameCall.attempt? : GameCall → Option Attempt
  | .signIn external username create fresh => some ⟨external, username, create, fresh⟩
  | _ => none

namespace Game

/-- The username of the inviter of a user who has accepted an invite. -/
def inviter? (g : Game) (user : UserId) : Option String := g.store.storage.inviter? user

/-- Whether a name is in the list of a user. -/
def Lists (g : Game) (user : UserId) (name : String) : Prop :=
  (g.claimed? user name).isSome = true

variable {g : Game} {c : GameCall} {calls : List GameCall} {user : UserId} {name : String}

theorem directory_next (c : GameCall) :
    (g.next c).directory = c.attempt?.elim g.directory fun a => (g.directory.attempt a).2 := by
  cases c with
  | signIn external username create fresh =>
    rw [next, perform, GameCall.attempt?, Option.elim_some, Directory.attempt]
    dsimp only
    cases g.directory.signIn external username create fresh with
    | ok found => rfl
    | error e => rfl
  | _ => rfl

theorem directory_run (calls : List GameCall) :
    (g.run calls).directory = g.directory.run (calls.filterMap (·.attempt?)) := by
  induction calls generalizing g with
  | nil => rfl
  | cons c calls ih =>
    rw [run, ih, directory_next]
    cases hattempt : c.attempt? with
    | none => rw [List.filterMap_cons_none hattempt, Option.elim_none]
    | some a => rw [List.filterMap_cons_some hattempt, Option.elim_some, Directory.run]

/-- What a call does to the lists and to what players say of their inviters: it does both halves of
an accept, or the first half only, or it does nothing to them. -/
inductive LinkEffect (g g' : Game) : GameCall → Prop
  | accepted {user : UserId} {username share : String} {inviter : Account}
      (hnamed : g.directory.named? share = some inviter) (huser : inviter.user ≠ user)
      (hnew : g.inviter? user = none)
      (hlists : ∀ u n, g'.Lists u n ↔ (u = inviter.user ∧ n = username) ∨ g.Lists u n)
      (hinviter : ∀ u, g'.inviter? u = if u = user then some inviter.username else g.inviter? u) :
      LinkEffect g g' (.accept user username share)
  | halfway {user : UserId} {username share : String} {inviter : Account}
      (hnamed : g.directory.named? share = some inviter) (huser : inviter.user ≠ user)
      (hrefused : ¬ g'.store.WritesPass)
      (hlists : ∀ u n, g'.Lists u n ↔ (u = inviter.user ∧ n = username) ∨ g.Lists u n)
      (hinviter : ∀ u, g'.inviter? u = g.inviter? u) :
      LinkEffect g g' (.accept user username share)
  | kept {c : GameCall} (hlists : ∀ u n, g'.Lists u n ↔ g.Lists u n)
      (hinviter : ∀ u, g'.inviter? u = g.inviter? u) : LinkEffect g g' c

theorem lists_of_claimed? {g' : Game} {inviter : UserId} {username : String}
    (h : ∀ u n, g'.claimed? u n =
      if u = inviter ∧ n = username then some false else g.claimed? u n) (u : UserId) (n : String) :
    g'.Lists u n ↔ (u = inviter ∧ n = username) ∨ g.Lists u n := by
  rw [Lists, h, Lists]
  split
  · rename_i hp
    exact iff_of_true rfl (.inl hp)
  · rename_i hp
    rw [or_iff_right hp]

theorem LinkEffect.of_look {g' : Game} {c : GameCall}
    (hlook : ∀ user, g'.store.storage.look Invites user = g.store.storage.look Invites user) :
    LinkEffect g g' c := by
  refine .kept (fun u n => ?_) fun u => ?_
  · rw [Lists, claimed?, Storage.claimed?, hlook, Lists, claimed?, Storage.claimed?]
  · rw [inviter?, Storage.inviter?, hlook, inviter?, Storage.inviter?]

/-- An accept is the only call that ties two players together: the player's invites name the
inviter, and the inviter's list the player. -/
theorem link_effect (hcodec : g.store.codec = {}) (c : GameCall) : LinkEffect g (g.next c) c := by
  by_cases hkey : c.key? = some (Document.key Invites)
  · cases c with
    | accept user username share =>
      obtain ⟨hstorage, -⟩ | ⟨inviter, mine, theirs, h, ⟨reason, -, hstorage, hstops⟩ |
        ⟨-, hstorage⟩⟩ := accept_next_cases hcodec user username share
      · exact .of_look fun u => by rw [hstorage]
      · have hgate := (precedes_next (g := g) (.accept user username share)).gate
        refine .halfway h.named h.user_ne (not_writesPass_of_stopsBetween hgate hstops)
          (lists_of_claimed? fun u n => ?_) fun u => ?_
        · rw [claimed?, hstorage, Storage.claimed?_keep_add h.look_theirs, claimed?]
        · rw [inviter?, hstorage]
          exact Storage.inviter?_keep_of_eq h.look_theirs (Invites.inviter?_add username) u
      · refine .accepted h.named h.user_ne ?_ (lists_of_claimed? fun u n => ?_) fun u => ?_
        · rw [inviter?, Storage.inviter?_eq h.look_mine, Invites.inviter?_eq_none h.not_invited]
        · rw [claimed?, hstorage, Storage.claimed?_keep_acceptFrom (h.look_mine_keep _),
            Storage.claimed?_keep_add h.look_theirs, claimed?]
        · rw [inviter?, hstorage, Storage.inviter?_keep, Invites.inviter?_acceptFrom,
            Storage.inviter?_keep_of_eq h.look_theirs (Invites.inviter?_add username), inviter?]
    | claim user names =>
      obtain ⟨answer, s', -, hstorage, heffect⟩ := claim_next hcodec user names
      cases heffect with
      | claimed hmine hall =>
        refine .kept (fun u n => ?_) fun u => ?_
        · rw [Lists, claimed?, hstorage, Storage.claimed?_keep_claimAll hmine, Lists, claimed?]
          split
          · rw [Option.isSome_map]
          · rfl
        · rw [inviter?, hstorage]
          exact Storage.inviter?_keep_of_eq hmine (Invites.inviter?_claimAll names) u
      | failed e => exact .of_look fun u => by rw [hstorage]
      | unknown hmine hname => exact .of_look fun u => by rw [hstorage]
    | _ => simp [GameCall.key?, Document.key] at hkey
  · exact .of_look (look_next_of_key_ne hcodec hkey)

/-- Whether every invited user has an account and an inviter, another player, whose list names them,
and every name in a list is that of another player. -/
structure IsLinked (g : Game) : Prop where
  invited : ∀ user name, g.inviter? user = some name → ∃ username inviter,
    g.directory.named? username = some ⟨user, username⟩ ∧
      g.directory.named? name = some inviter ∧ inviter.user ≠ user ∧ g.Lists inviter.user username
  listed : ∀ user name, g.Lists user name →
    ∃ account, g.directory.named? name = some account ∧ account.user ≠ user

/-- Whether every name in a list is that of a player whose inviter is the user with that list. -/
def IsMutual (g : Game) : Prop :=
  ∀ user name, g.Lists user name → ∃ account inviter, g.directory.named? name = some account ∧
    g.inviter? account.user = some inviter ∧ g.directory.named? inviter = some ⟨user, inviter⟩

/-- Whether an accept is by a player under the username of their own account. -/
def IsOwn (g : Game) (c : GameCall) : Prop :=
  ∀ user username share, c = .accept user username share →
    g.directory.named? username = some ⟨user, username⟩

theorem not_lists_start (gate : Gate) (user : UserId) (name : String) :
    ¬ (start gate).Lists user name := by
  have hnone : (start gate).claimed? user name = none := rfl
  rw [Lists, hnone]
  exact Bool.false_ne_true

theorem isLinked_start (gate : Gate) : (start gate).IsLinked where
  invited := fun _ _ h => nomatch h
  listed := fun user name h => absurd h (not_lists_start gate user name)

theorem isMutual_start (gate : Gate) : (start gate).IsMutual :=
  fun user name h => absurd h (not_lists_start gate user name)

theorem inviter?_next (hcodec : g.store.codec = {}) (c : GameCall)
    (h : g.inviter? user = some name) : (g.next c).inviter? user = some name := by
  have heffect := link_effect hcodec c
  generalize g.next c = g' at heffect ⊢
  cases heffect with
  | accepted hnamed huser hnew hlists hinviter =>
    rw [hinviter, if_neg, h]
    rintro rfl
    cases hnew.symm.trans h
  | halfway hnamed huser hrefused hlists hinviter => rw [hinviter, h]
  | kept hlists hinviter => rw [hinviter, h]

theorem inviter?_run (hcodec : g.store.codec = {}) (h : g.inviter? user = some name)
    (calls : List GameCall) : (g.run calls).inviter? user = some name := by
  induction calls generalizing g with
  | nil => exact h
  | cons c calls ih => exact ih (codec_next hcodec c) (inviter?_next hcodec c h)

/-- Whether one game still has the usernames of another one, and the names in its lists. -/
structure Keeps (g g' : Game) : Prop where
  named : ∀ username account, g.directory.named? username = some account →
    g'.directory.named? username = some account
  lists : ∀ user name, g.Lists user name → g'.Lists user name

/-- Nothing is ever taken off a list. -/
theorem keeps_next (hcodec : g.store.codec = {}) (c : GameCall) : g.Keeps (g.next c) where
  named := fun _ _ => named?_next hcodec c
  lists := by
    have heffect := link_effect hcodec c
    generalize g.next c = g' at heffect ⊢
    intro user name h
    cases heffect with
    | accepted hnamed huser hnew hlists hinviter => exact (hlists user name).2 (.inr h)
    | halfway hnamed huser hrefused hlists hinviter => exact (hlists user name).2 (.inr h)
    | kept hlists hinviter => exact (hlists user name).2 h

theorem IsLinked.invited_of_keeps {g' : Game} (h : g.IsLinked) (hkeeps : g.Keeps g')
    (hinvited : g.inviter? user = some name) : ∃ username inviter,
      g'.directory.named? username = some ⟨user, username⟩ ∧
        g'.directory.named? name = some inviter ∧ inviter.user ≠ user ∧
          g'.Lists inviter.user username := by
  obtain ⟨username, inviter, hname, hnamed, huser, hlists⟩ := h.invited user name hinvited
  exact ⟨username, inviter, hkeeps.named _ _ hname, hkeeps.named _ _ hnamed, huser,
    hkeeps.lists _ _ hlists⟩

theorem IsLinked.listed_of_keeps {g' : Game} (h : g.IsLinked) (hkeeps : g.Keeps g')
    (hlists : g.Lists user name) :
    ∃ account, g'.directory.named? name = some account ∧ account.user ≠ user := by
  obtain ⟨account, hnamed, huser⟩ := h.listed user name hlists
  exact ⟨account, hkeeps.named _ _ hnamed, huser⟩

/-- A name that is put in a list is that of a player who is not the one with the list. -/
theorem IsLinked.listed_of_added {g' : Game} {inviter user' : UserId} {username : String}
    (h : g.IsLinked) (hkeeps : g.Keeps g')
    (hname : g'.directory.named? username = some ⟨user', username⟩) (huser : inviter ≠ user')
    (hadded : (user = inviter ∧ name = username) ∨ g.Lists user name) :
    ∃ account, g'.directory.named? name = some account ∧ account.user ≠ user := by
  obtain ⟨rfl, rfl⟩ | hbefore := hadded
  · exact ⟨_, hname, Ne.symm huser⟩
  · exact h.listed_of_keeps hkeeps hbefore

/-- The list of the inviter is written first, so a failure between the two writes leaves a name in
it whose player is not invited. It never leaves an invited player whom the inviter does not list. -/
theorem IsLinked.next (h : g.IsLinked) (hcodec : g.store.codec = {}) (hown : g.IsOwn c) :
    (g.next c).IsLinked := by
  have hkeeps := keeps_next hcodec c
  have heffect := link_effect hcodec c
  generalize g.next c = g' at heffect hkeeps ⊢
  cases heffect with
  | accepted hnamed huser hnew hlists hinviter =>
    rename_i player username share inviter
    have hname := hkeeps.named _ _ (hown player username share rfl)
    refine ⟨fun user name hinvited => ?_, fun user name hlisted =>
      h.listed_of_added hkeeps hname huser ((hlists user name).1 hlisted)⟩
    rw [hinviter] at hinvited
    split at hinvited
    · rename_i hplayer
      subst hplayer
      obtain rfl := Option.some.inj hinvited
      rw [← Directory.username_of_named? hnamed] at hnamed
      exact ⟨username, inviter, hname, hkeeps.named _ _ hnamed, huser,
        (hlists _ _).2 (.inl ⟨rfl, rfl⟩)⟩
    · exact h.invited_of_keeps hkeeps hinvited
  | halfway hnamed huser hrefused hlists hinviter =>
    rename_i player username share inviter
    have hname := hkeeps.named _ _ (hown player username share rfl)
    refine ⟨fun user name hinvited => ?_, fun user name hlisted =>
      h.listed_of_added hkeeps hname huser ((hlists user name).1 hlisted)⟩
    rw [hinviter] at hinvited
    exact h.invited_of_keeps hkeeps hinvited
  | kept hlists hinviter =>
    refine ⟨fun user name hinvited => ?_, fun user name hlisted =>
      h.listed_of_keeps hkeeps ((hlists user name).1 hlisted)⟩
    rw [hinviter] at hinvited
    exact h.invited_of_keeps hkeeps hinvited

/-- Where no write fails, nobody is left in a list without having accepted the invite. -/
theorem IsMutual.next (h : g.IsMutual) (hcodec : g.store.codec = {}) (hown : g.IsOwn c)
    (hpass : (g.next c).store.WritesPass) : (g.next c).IsMutual := by
  have heffect := link_effect hcodec c
  have hkeeps := keeps_next hcodec c
  generalize g.next c = g' at heffect hkeeps hpass ⊢
  cases heffect with
  | accepted hnamed huser hnew hlists hinviter =>
    rename_i user username share inviter
    intro u n hu
    obtain ⟨rfl, rfl⟩ | hbefore := (hlists u n).1 hu
    · rw [← Directory.username_of_named? hnamed] at hnamed
      exact ⟨_, inviter.username, hkeeps.named _ _ (hown user n share rfl),
        (hinviter user).trans (if_pos rfl), hkeeps.named _ _ hnamed⟩
    · obtain ⟨account, name, haccount, hinvited, hname⟩ := h u n hbefore
      refine ⟨account, name, hkeeps.named _ _ haccount, ?_, hkeeps.named _ _ hname⟩
      rw [hinviter, if_neg, hinvited]
      rintro rfl
      cases hnew.symm.trans hinvited
  | halfway hnamed huser hrefused hlists hinviter => exact absurd hpass hrefused
  | kept hlists hinviter =>
    intro u n hu
    obtain ⟨account, name, haccount, hinvited, hname⟩ := h u n ((hlists u n).1 hu)
    exact ⟨account, name, hkeeps.named _ _ haccount, (hinviter _).trans hinvited,
      hkeeps.named _ _ hname⟩

theorem IsLinked.run (h : g.IsLinked) (hcodec : g.store.codec = {}) (hown : g.OwnNames calls) :
    (g.run calls).IsLinked := by
  induction calls generalizing g with
  | nil => exact h
  | cons c calls ih => exact ih (h.next hcodec hown.1) (codec_next hcodec c) hown.2

theorem IsMutual.run (h : g.IsMutual) (hcodec : g.store.codec = {}) (hown : g.OwnNames calls)
    (hpass : (g.run calls).store.WritesPass) : (g.run calls).IsMutual := by
  induction calls generalizing g with
  | nil => exact h
  | cons c calls ih =>
    have hnext : (g.next c).store.WritesPass := hpass.of_precedes (precedes_run calls)
    exact ih (h.next hcodec hown.1 hnext) (codec_next hcodec c) hown.2 hpass

theorem Sound.exists_of_lists (hsound : g.Sound) (hlists : g.Lists user name) :
    ∃ i x, g.store.storage.look Invites user = .ok i ∧ i.invitees.get? name = some x ∧
      x.name = name := by
  obtain ⟨i, hlook, hkeyed⟩ := hsound.invites user
  rw [Lists, claimed?, Storage.claimed?_eq hlook, Invites.claimed?, Option.isSome_map] at hlists
  obtain ⟨x, hx⟩ := Option.isSome_iff_exists.1 hlists
  exact ⟨i, x, hlook, hx, hkeyed name x hx⟩

/-- Whichever calls to the storage fail, all invites can be read, every list is kept by the names of
those in it, nobody is in their own list, and whoever has accepted an invite has done so of another
player, in whose list they are, and for good. If no write has failed, everybody in a list has
accepted the invite of the player with the list, so nobody is in two lists. -/
theorem invited_iff_listed {gate : Gate} {calls : List GameCall}
    (hown : (start gate).OwnNames calls)
    (hids : ((calls.filterMap (·.attempt?)).map (·.fresh)).Nodup) :
    let g := (start gate).run calls
    (∀ user, ∃ i, g.store.storage.look Invites user = .ok i ∧ i.IsKeyed) ∧
      (∀ user player, g.directory.ofUser? user = some player → ¬ g.Lists user player.username) ∧
      (∀ user name, g.inviter? user = some name → ∃ player inviter theirs x,
        g.directory.ofUser? user = some player ∧ g.directory.named? name = some inviter ∧
          inviter.user ≠ user ∧ g.store.storage.look Invites inviter.user = .ok theirs ∧
          theirs.invitees.get? player.username = some x ∧ x.name = player.username) ∧
      (∀ before after user name, calls = before ++ after →
        ((start gate).run before).inviter? user = some name → g.inviter? user = some name) ∧
      (g.store.WritesPass →
        (∀ user name, g.Lists user name → ∃ player inviter,
          g.directory.named? name = some player ∧ g.inviter? player.user = some inviter ∧
            g.directory.named? inviter = some ⟨user, inviter⟩) ∧
          ∀ user user' name, g.Lists user name → g.Lists user' name → user = user') := by
  intro g
  have hsound : g.Sound := (sound_start gate).run calls
  have hlinked : g.IsLinked := (isLinked_start gate).run rfl hown
  have hdirectory : g.directory = Directory.run {} (calls.filterMap (·.attempt?)) :=
    directory_run calls
  have hkeyed : g.directory.IsKeyed := hdirectory ▸ Directory.isKeyed_empty.run _
  have hseparates : g.directory.Separates _ := hdirectory ▸ Directory.separates_empty.run hids
  refine ⟨hsound.invites, ?_, ?_, ?_, ?_⟩
  · intro user player hplayer hlists
    obtain ⟨hmem, rfl⟩ := hseparates.ofUser?_eq_some_iff.1 hplayer
    obtain ⟨account, hnamed, huser⟩ := hlinked.listed _ _ hlists
    obtain rfl := Option.some.inj ((hkeyed.named?_eq_some_iff.2 ⟨hmem, rfl⟩).symm.trans hnamed)
    exact huser rfl
  · intro user name hinvited
    obtain ⟨username, inviter, hname, hnamed, huser, hlists⟩ := hlinked.invited user name hinvited
    obtain ⟨theirs, x, hlook, hx, hxname⟩ := hsound.exists_of_lists hlists
    have hplayer := hseparates.ofUser?_of_mem (Directory.mem_accounts_of_named? hname)
    exact ⟨_, inviter, theirs, x, hplayer, hnamed, huser, hlook, hx, hxname⟩
  · rintro before after user name rfl hinvited
    have hrun : g = ((start gate).run before).run after := run_append before after
    rw [hrun]
    exact inviter?_run (codec_run_start gate before) hinvited after
  · intro hpass
    have hmutual : g.IsMutual := (isMutual_start gate).run rfl hown hpass
    refine ⟨hmutual, fun user user' name hlists hlists' => ?_⟩
    obtain ⟨player, inviter, hplayer, hinvited, hnamed⟩ := hmutual user name hlists
    obtain ⟨player', inviter', hplayer', hinvited', hnamed'⟩ := hmutual user' name hlists'
    obtain rfl := Option.some.inj (hplayer.symm.trans hplayer')
    obtain rfl := Option.some.inj (hinvited.symm.trans hinvited')
    exact congrArg Account.user (Option.some.inj (hnamed.symm.trans hnamed'))

/-- Where no call to the storage fails, Bob names Alice as his inviter, and her list names Bob. -/
theorem bob_is_in_the_list_of_alice :
    let alice := userOfDigit 1
    let bob := userOfDigit 2
    let g := (start fun _ _ => none).run (invitation alice bob)
    g.store.WritesPass ∧ g.inviter? bob = some "alice" ∧ ∃ theirs x,
      g.store.storage.look Invites alice = .ok theirs ∧ theirs.invitees.get? "bob" = some x ∧
        x.name = "bob" ∧ ∀ user, g.Lists user "bob" → user = alice := by
  intro alice bob g
  have hinvited : g.inviter? bob = some "alice" := by decide +kernel
  have halice : g.directory.named? "alice" = some ⟨alice, "alice"⟩ := by decide +kernel
  have hbob : g.directory.ofUser? bob = some ⟨bob, "bob"⟩ := by decide +kernel
  have hpass : g.store.WritesPass := by
    intro caller batch earlier _
    rw [(precedes_run (invitation alice bob)).gate]
    rfl
  obtain ⟨-, -, hlisted, -, hmutual⟩ :=
    invited_iff_listed (ownNames_invitation (fun _ _ => none) alice bob) (by decide)
  obtain ⟨player, inviter, theirs, x, hplayer, hnamed, -, hlook, hx, hname⟩ :=
    hlisted bob "alice" hinvited
  obtain rfl := Option.some.inj (hbob.symm.trans hplayer)
  obtain rfl := Option.some.inj (halice.symm.trans hnamed)
  have hlists : g.Lists alice "bob" := by
    rw [Lists, claimed?, Storage.claimed?_eq hlook, Invites.claimed?, hx]
    rfl
  exact ⟨hpass, hinvited, theirs, x, hlook, hx, hname,
    fun user huser => (hmutual hpass).2 user alice "bob" huser hlists⟩

end Game

end PlayerHub
