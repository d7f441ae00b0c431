import Mathlib.Data.List.Perm.Subperm
import PlayerHub.Proofs.Game.Invites

namespace PlayerHub.Game

/-- Whether all players accept invites under the usernames of their own accounts. -/
def OwnNames (g : Game) : List GameCall → Prop
  | [] => True
  | c :: calls =>
    (∀ user username share, c = .accept user username share →
        g.directory.named? username = some ⟨user, username⟩) ∧ (g.next c).OwnNames calls

/-- Whether a call is an accept by the player of a name that fails and has yet changed what the list
of the inviter says of the player. -/
def stopsHalfway (g : Game) (name : String) (c : GameCall) : Bool :=
  match c, g.answer c with
  | .accept _ username share, .accept (.error _) =>
    username = name && (g.directory.named? share).any fun inviter =>
      (g.next c).claimed? inviter.user username ≠ g.claimed? inviter.user username
  | _, _ => false

/-- How many accepts by the player of a name stop halfway in a run. -/
def halfwayStops (g : Game) (name : String) : List GameCall → Nat
  | [] => 0
  | c :: calls => (g.stopsHalfway name c).toNat + (g.next c).halfwayStops name calls

/-- The rewards that a call newly claims: who claims them, and the names of the invitees. -/
def rewards (g : Game) (c : GameCall) : List (UserId × String) :=
  match c, g.answer c with
  | .claim user names, .claim (.ok (.claimed _)) =>
    (Invites.unclaimedAmong (g.claimed? user) names).map (user, ·)
  | _, _ => []

/-- The rewards that are newly claimed in a run. -/
def allRewards (g : Game) : List GameCall → List (UserId × String)
  | [] => []
  | c :: calls => g.rewards c ++ (g.next c).allRewards calls

/-- Whether a call is answered that an invite is accepted. -/
def isAccepted (g : Game) (c : GameCall) : Bool :=
  match g.answer c with
  | .accept (.ok (.accepted _)) => true
  | _ => false

/-- Into whose list a call writes which name. -/
def listing? (g : Game) (c : GameCall) : Option (UserId × String) :=
  match c with
  | .accept _ username share =>
    if g.isAccepted c || g.stopsHalfway username c then
      (g.directory.named? share).map fun inviter => (inviter.user, username)
    else none
  | _ => none

/-- Into whose lists which names are written in a run. -/
def allListings (g : Game) : List GameCall → List (UserId × String)
  | [] => []
  | c :: calls => (g.listing? c).toList ++ (g.next c).allListings calls

/-- One if the reward for a name waits to be claimed by a user. -/
def due (g : Game) (p : UserId × String) : Nat :=
  if g.claimed? p.1 p.2 = some false then 1 else 0

variable {g : Game} {c : GameCall} {calls : List GameCall} {name : String}

theorem isAccepted_iff :
    g.isAccepted c = true ↔ ∃ inviter, g.answer c = .accept (.ok (.accepted inviter)) := by
  unfold isAccepted
  split
  · rename_i inviter hanswer
    exact iff_of_true rfl ⟨inviter, hanswer⟩
  · rename_i hnot
    exact iff_of_false Bool.false_ne_true fun ⟨inviter, hanswer⟩ => hnot inviter hanswer

theorem stopsHalfway_iff :
    g.stopsHalfway name c = true ↔ ∃ user share inviter e, c = .accept user name share ∧
      g.answer c = .accept (.error e) ∧ g.directory.named? share = some inviter ∧
        (g.next c).claimed? inviter.user name ≠ g.claimed? inviter.user name := by
  constructor
  · intro h
    unfold stopsHalfway at h
    split at h
    · rename_i user username share e hanswer
      rw [Bool.and_eq_true, decide_eq_true_eq, Option.any_eq_true] at h
      obtain ⟨rfl, inviter, hnamed, hchanged⟩ := h
      exact ⟨user, share, inviter, e, rfl, hanswer, hnamed, of_decide_eq_true hchanged⟩
    · cases h
  · rintro ⟨user, share, inviter, e, rfl, hanswer, hnamed, hchanged⟩
    simp only [stopsHalfway, hanswer, hnamed, decide_true, Bool.true_and, Option.any_some,
      decide_eq_true hchanged]

theorem due_le_one (g : Game) (p : UserId × String) : g.due p ≤ 1 := by
  unfold due
  split <;> omega

theorem due_eq_of_claimed?_eq {g' : Game} {p : UserId × String}
    (h : g'.claimed? p.1 p.2 = g.claimed? p.1 p.2) : g'.due p = g.due p := by
  rw [due, h, due]

theorem nodup_rewards (g : Game) (c : GameCall) : (g.rewards c).Nodup := by
  unfold rewards
  split
  · exact Invites.nodup_unclaimedAmong.map fun _ _ h => (Prod.mk.inj h).2
  · exact List.nodup_nil

/-- A reward that is newly claimed was unclaimed before and is claimed then. -/
theorem claimed?_of_mem_rewards (hcodec : g.store.codec = {}) {p : UserId × String}
    (hmem : p ∈ g.rewards c) :
    g.claimed? p.1 p.2 = some false ∧ (g.next c).claimed? p.1 p.2 = some true := by
  have heffect := invite_effect hcodec c
  unfold rewards at hmem
  split at hmem
  · rename_i user names newly hanswer
    rw [hanswer] at heffect
    obtain ⟨name, hname, rfl⟩ := List.mem_map.1 hmem
    obtain ⟨hasked, hclaimed⟩ := Invites.mem_unclaimedAmong.1 hname
    cases heffect with
    | claimed hlists =>
      refine ⟨hclaimed, ?_⟩
      rw [hlists, if_pos ⟨rfl, hasked⟩, hclaimed, Option.map_some]
    | notClaimed hnot hlists => exact absurd rfl (hnot newly)
    | other hkey hlists => exact absurd rfl hkey
  · cases hmem

/-- What a call may do to one entry of a list: nothing, or claim the reward, or write it anew. -/
theorem claimed?_next_cases (hcodec : g.store.codec = {}) (c : GameCall) (inviter : UserId)
    (name : String) :
    (g.next c).claimed? inviter name = g.claimed? inviter name ∨
      (g.claimed? inviter name = some false ∧ (g.next c).claimed? inviter name = some true) ∨
        g.listing? c = some (inviter, name) := by
  have heffect := invite_effect hcodec c
  generalize hanswer : g.answer c = a at heffect
  cases heffect with
  | accepted hnamed hnew hinvited hlists =>
    rename_i user username share account
    by_cases hp : inviter = account.user ∧ name = username
    · have haccepted := isAccepted_iff.2 ⟨_, hanswer⟩
      refine .inr (.inr ?_)
      simp only [listing?, haccepted, hnamed, Bool.true_or, if_true, Option.map_some, hp]
    · exact .inl ((hlists inviter name).trans (if_neg hp))
  | halfway e hnamed hnew hlists =>
    rename_i user username share account
    by_cases hp : inviter = account.user ∧ name = username
    · obtain ⟨rfl, rfl⟩ := hp
      by_cases hsame : (g.next (.accept user name share)).claimed? account.user name =
          g.claimed? account.user name
      · exact .inl hsame
      · have hstops := stopsHalfway_iff.2 ⟨user, share, account, e, rfl, hanswer, hnamed, hsame⟩
        refine .inr (.inr ?_)
        simp only [listing?, hstops, hnamed, Bool.or_true, if_true, Option.map_some]
    · exact .inl ((hlists inviter name).trans (if_neg hp))
  | claimed hlists =>
    rename_i user names
    by_cases hp : inviter = user ∧ name ∈ names
    · rw [hlists, if_pos hp]
      cases g.claimed? inviter name with
      | none => exact .inl rfl
      | some claimed =>
        cases claimed with
        | false => exact .inr (.inl ⟨rfl, rfl⟩)
        | true => exact .inl rfl
    · exact .inl ((hlists inviter name).trans (if_neg hp))
  | notAccepted hnot hlists => exact .inl (hlists inviter name)
  | notClaimed hnot hlists => exact .inl (hlists inviter name)
  | other hkey hlists => exact .inl (hlists inviter name)

/-- A reward that is claimed was due, and one that becomes due has been listed. -/
theorem count_rewards_add_due_le (hcodec : g.store.codec = {}) (c : GameCall)
    (p : UserId × String) :
    (g.rewards c).count p + (g.next c).due p ≤ (g.listing? c).toList.count p + g.due p := by
  rw [(nodup_rewards g c).count]
  by_cases hmem : p ∈ g.rewards c
  · obtain ⟨hbefore, hafter⟩ := claimed?_of_mem_rewards hcodec hmem
    have hdue : g.due p = 1 := by rw [due, if_pos hbefore]
    have hdone : (g.next c).due p = 0 := by rw [due, hafter, if_neg (by simp)]
    rw [if_pos hmem]
    omega
  rw [if_neg hmem]
  obtain hsame | ⟨-, hafter⟩ | hlisting := claimed?_next_cases hcodec c p.1 p.2
  · rw [due_eq_of_claimed?_eq hsame]
    omega
  · have hdone : (g.next c).due p = 0 := by rw [due, hafter, if_neg (by simp)]
    omega
  · have hle := (g.next c).due_le_one p
    rw [hlisting, Option.toList_some, List.count_singleton_self]
    omega

theorem allRewards_append (before after : List GameCall) :
    g.allRewards (before ++ after) = g.allRewards before ++ (g.run before).allRewards after := by
  induction before generalizing g with
  | nil => rfl
  | cons c before ih => rw [List.cons_append, allRewards, ih, allRewards, List.append_assoc, run]

theorem rewards_signIn (external : ExternalId) (username : String) (create : Bool)
    (fresh : UserId) : g.rewards (.signIn external username create fresh) = [] := by
  simp only [rewards]

theorem rewards_accept (user : UserId) (username share : String) :
    g.rewards (.accept user username share) = [] := by
  simp only [rewards]

/-- No reward is claimed more often than it has been listed. -/
theorem count_allRewards_add_due_le (hcodec : g.store.codec = {}) (calls : List GameCall)
    (p : UserId × String) :
    (g.allRewards calls).count p + (g.run calls).due p ≤
      (g.allListings calls).count p + g.due p := by
  induction calls generalizing g with
  | nil => exact Nat.le_of_eq rfl
  | cons c calls ih =>
    have hrest := ih (codec_next hcodec c)
    have hstep := count_rewards_add_due_le hcodec c p
    rw [allRewards, allListings, List.count_append, List.count_append, run]
    omega

theorem due_start (gate : Gate) (p : UserId × String) : (start gate).due p = 0 := rfl

theorem allRewards_subperm (gate : Gate) (calls : List GameCall) :
    ((start gate).allRewards calls).Subperm ((start gate).allListings calls) := by
  rw [List.subperm_ext_iff]
  intro p _
  have h := @count_allRewards_add_due_le (start gate) rfl calls p
  rw [due_start] at h
  omega

theorem count_names_allRewards_le (gate : Gate) (calls : List GameCall) (name : String) :
    (((start gate).allRewards calls).map (·.2)).count name ≤
      (((start gate).allListings calls).map (·.2)).count name := by
  obtain ⟨l, hperm, hsub⟩ := allRewards_subperm gate calls
  rw [← (hperm.map (·.2)).count_eq name]
  exact (hsub.map (·.2)).count_le name

/-- A name is listed by an accept of the player who has it and is not invited yet. Then the player
is invited, or the accept stops halfway. -/
theorem accept_of_listing (hcodec : g.store.codec = {}) {inviter : UserId}
    (hlisting : g.listing? c = some (inviter, name)) :
    ∃ user share, c = .accept user name share ∧ ¬ g.IsInvited user ∧
      ((g.next c).IsInvited user ∨ g.stopsHalfway name c = true) := by
  have heffect := invite_effect hcodec c
  cases c with
  | accept user username share =>
    rw [listing?] at hlisting
    split at hlisting
    · rename_i hends
      obtain ⟨account, -, hpair⟩ := Option.map_eq_some_iff.1 hlisting
      obtain rfl : username = name := (Prod.mk.inj hpair).2
      refine ⟨user, share, rfl, ?_⟩
      generalize hanswer : g.answer (.accept user username share) = a at heffect
      cases heffect with
      | accepted hnamed hnew hinvited hlists => exact ⟨hnew, .inl hinvited⟩
      | halfway e hnamed hnew hlists =>
        refine ⟨hnew, .inr ?_⟩
        rw [Bool.or_eq_true, isAccepted_iff] at hends
        obtain ⟨inviter', haccepted⟩ | hstops := hends
        · cases hanswer.symm.trans haccepted
        · exact hstops
      | notAccepted hnot hlists =>
        rw [Bool.or_eq_true, isAccepted_iff, stopsHalfway_iff] at hends
        obtain ⟨inviter', haccepted⟩ | ⟨_, _, inviter', _, _, _, _, hchanged⟩ := hends
        · rw [hanswer, GameAnswer.accept.injEq] at haccepted
          exact absurd haccepted (hnot inviter')
        · exact absurd (hlists inviter'.user username) hchanged
      | other hkey hlists => exact absurd rfl hkey
    · cases hlisting
  | _ => cases hlisting

/-- Whether the player of a name has accepted an invite. -/
def HasAccepted (g : Game) (name : String) : Prop :=
  ∃ user, g.directory.named? name = some ⟨user, name⟩ ∧ g.IsInvited user

theorem HasAccepted.next (h : g.HasAccepted name) (hcodec : g.store.codec = {}) (c : GameCall) :
    (g.next c).HasAccepted name := by
  obtain ⟨user, hnamed, hinvited⟩ := h
  exact ⟨user, named?_next hcodec c hnamed, hinvited.next hcodec c⟩

/-- A player who has accepted an invite is not listed any more, and one who is listed has accepted
by that, or has stopped halfway. -/
theorem hasAccepted_of_listing (hcodec : g.store.codec = {}) (hown : g.OwnNames (c :: calls))
    {inviter : UserId} (hlisting : g.listing? c = some (inviter, name)) :
    ¬ g.HasAccepted name ∧
      ((g.next c).HasAccepted name ∨ g.stopsHalfway name c = true) := by
  obtain ⟨user, share, hc, hnew, hends⟩ := accept_of_listing hcodec hlisting
  have hnamed := hown.1 user name share hc
  constructor
  · rintro ⟨user', hnamed', hinvited⟩
    cases hnamed.symm.trans hnamed'
    exact hnew hinvited
  · exact hends.imp (fun hinvited => ⟨user, named?_next hcodec c hnamed, hinvited⟩) id

theorem count_allListings_of_hasAccepted (hcodec : g.store.codec = {}) (hown : g.OwnNames calls)
    (haccepted : g.HasAccepted name) : ((g.allListings calls).map (·.2)).count name = 0 := by
  induction calls generalizing g with
  | nil => rfl
  | cons c calls ih =>
    rw [allListings, List.map_append, List.count_append,
      ih (codec_next hcodec c) hown.2 (haccepted.next hcodec c), Nat.add_zero,
      List.count_eq_zero]
    intro hmem
    obtain ⟨⟨inviter, name⟩, hlisting, rfl⟩ := List.mem_map.1 hmem
    obtain ⟨hnot, -⟩ := hasAccepted_of_listing hcodec hown (Option.mem_toList.1 hlisting)
    exact hnot haccepted

/-- A player gets into a list once by accepts that are done to the end, and once more for each
accept that stops after the list of the inviter has been written. -/
theorem count_allListings_le (hcodec : g.store.codec = {}) (hown : g.OwnNames calls)
    (name : String) :
    ((g.allListings calls).map (·.2)).count name ≤ 1 + g.halfwayStops name calls := by
  induction calls generalizing g with
  | nil => exact Nat.zero_le _
  | cons c calls ih =>
    have hcodec' := codec_next hcodec c
    have hrest := ih hcodec' hown.2
    rw [allListings, List.map_append, List.count_append, halfwayStops]
    cases hlisting : g.listing? c with
    | none =>
      rw [Option.toList_none, List.map_nil, List.count_nil]
      omega
    | some p =>
      obtain ⟨inviter, name'⟩ := p
      rw [Option.toList_some, List.map_singleton, List.count_singleton]
      by_cases hname : name' = name
      · subst hname
        rw [if_pos (beq_iff_eq.2 rfl)]
        obtain ⟨-, haccepted | hstops⟩ := hasAccepted_of_listing hcodec hown hlisting
        · rw [count_allListings_of_hasAccepted hcodec' hown.2 haccepted]
          omega
        · rw [hstops, Bool.toNat_true]
          omega
      · rw [if_neg fun h => hname (beq_iff_eq.1 h)]
        omega

/-- Whoever lists a name, the player of the name has accepted an invite. -/
def Settled (g : Game) (name : String) : Prop :=
  ∀ inviter, g.claimed? inviter name ≠ none → g.HasAccepted name

theorem Settled.next (hsettled : g.Settled name) (hcodec : g.store.codec = {})
    (hown : g.OwnNames (c :: calls)) (hstops : g.stopsHalfway name c = false) :
    (g.next c).Settled name := by
  intro inviter hlisted
  obtain hsame | ⟨hbefore, -⟩ | hlisting := claimed?_next_cases hcodec c inviter name
  · rw [hsame] at hlisted
    exact (hsettled inviter hlisted).next hcodec c
  · have hlisted : g.claimed? inviter name ≠ none := by
      rw [hbefore]
      exact Option.some_ne_none false
    exact (hsettled inviter hlisted).next hcodec c
  · obtain ⟨-, haccepted | hhalfway⟩ := hasAccepted_of_listing hcodec hown hlisting
    · exact haccepted
    · cases hstops.symm.trans hhalfway

theorem Settled.run (hsettled : g.Settled name) (hcodec : g.store.codec = {})
    (hown : g.OwnNames calls) (hstops : g.halfwayStops name calls = 0) :
    (g.run calls).Settled name := by
  induction calls generalizing g with
  | nil => exact hsettled
  | cons c calls ih =>
    rw [halfwayStops, Nat.add_eq_zero_iff, Bool.toNat_eq_zero] at hstops
    exact ih (hsettled.next hcodec hown hstops.1) (codec_next hcodec c) hown.2 hstops.2

theorem ownNames_append {before after : List GameCall} :
    g.OwnNames (before ++ after) ↔ g.OwnNames before ∧ (g.run before).OwnNames after := by
  induction before generalizing g with
  | nil => exact (and_iff_right trivial).symm
  | cons c before ih =>
    rw [List.cons_append, OwnNames, OwnNames, ih, and_assoc]
    rfl

/-- The number that a claim tells is the number of rewards that it newly claims. -/
theorem newly_eq_length_rewards (hcodec : g.store.codec = {}) {user : UserId}
    {names : List String} {newly : Nat}
    (hanswer : g.answer (.claim user names) = .claim (.ok (.claimed newly))) :
    newly = (g.rewards (.claim user names)).length := by
  have heffect := invite_effect hcodec (.claim user names)
  have hrewards : g.rewards (.claim user names) =
      (Invites.unclaimedAmong (g.claimed? user) names).map (user, ·) := by
    simp only [rewards, hanswer]
  rw [hrewards, List.length_map]
  generalize g.answer (.claim user names) = a at heffect hanswer
  cases heffect with
  | claimed hlists => cases hanswer; rfl
  | notClaimed hnot hlists =>
    rw [GameAnswer.claim.injEq] at hanswer
    exact absurd hanswer (hnot newly)
  | other hkey hlists => exact absurd rfl hkey

/-- The rewards for a player are newly claimed once, by all inviters together, and once more at most
for each accept of the player that stops halfway. A claimed reward becomes unclaimed only if the
player accepts again after such a stop. -/
theorem reward_claimed_once_unless_halfway {gate : Gate} {calls : List GameCall}
    (hown : (start gate).OwnNames calls) (name : String) :
    (((start gate).allRewards calls).map (·.2)).count name ≤
        1 + (start gate).halfwayStops name calls ∧
      ∀ before c after, calls = before ++ c :: after →
        let g := (start gate).run before
        (∀ user names newly, c = .claim user names → g.answer c = .claim (.ok (.claimed newly)) →
          newly = (g.rewards c).length) ∧
        ∀ inviter, g.claimed? inviter name = some true →
          (g.next c).claimed? inviter name = some true ∨
            (∃ user share, c = .accept user name share) ∧
              1 ≤ (start gate).halfwayStops name before := by
  constructor
  · exact Nat.le_trans (count_names_allRewards_le gate calls name)
      (count_allListings_le rfl hown name)
  · rintro before c after rfl g
    have hcodec : g.store.codec = {} := codec_run_start gate before
    obtain ⟨hbefore, hrest⟩ := ownNames_append.1 hown
    constructor
    · rintro user names newly rfl hanswer
      exact newly_eq_length_rewards hcodec hanswer
    · intro inviter hclaimed
      obtain hsame | ⟨hunclaimed, -⟩ | hlisting := claimed?_next_cases hcodec c inviter name
      · exact .inl (hsame.trans hclaimed)
      · cases hunclaimed.symm.trans hclaimed
      · obtain ⟨user, share, hc, -, -⟩ := accept_of_listing hcodec hlisting
        obtain ⟨hnot, -⟩ := hasAccepted_of_listing hcodec hrest hlisting
        refine .inr ⟨⟨user, share, hc⟩, ?_⟩
        -- Without a stop, the player would have accepted when the list of the inviter was written.
        by_contra hstops
        have hnone : (start gate).halfwayStops name before = 0 := by omega
        have hstart : (start gate).Settled name := fun _ hlisted => absurd rfl hlisted
        have hsettled : g.Settled name := hstart.run rfl hbefore hnone
        have hlisted : g.claimed? inviter name ≠ none := by
          rw [hclaimed]
          exact Option.some_ne_none true
        exact hnot (hsettled inviter hlisted)

theorem ownNames_invitation (gate : Gate) (alice bob : UserId) :
    (start gate).OwnNames (invitation alice bob) := by
  refine ⟨by simp, by simp, ?_, trivial⟩
  rintro user username share ⟨⟩
  rfl

private theorem allRewards_invitation (g : Game) (alice bob : UserId) :
    g.allRewards (invitation alice bob) = [] := by
  rw [invitation, allRewards, allRewards, allRewards, allRewards, rewards_signIn, rewards_signIn,
    rewards_accept, List.append_nil, List.append_nil, List.append_nil]

/-- Where no call to the storage fails, Alice claims the reward for Bob once, if she claims
twice. -/
theorem reward_claimed_once_after_accept :
    let alice := userOfDigit 1
    let calls := invitation alice (userOfDigit 2) ++ [.claim alice ["bob"], .claim alice ["bob"]]
    (start fun _ _ => none).halfwayStops "bob" calls = 0 ∧
      (((start fun _ _ => none).allRewards calls).map (·.2)).count "bob" ≤ 1 := by
  intro alice calls
  have hown : (start fun _ _ => none).OwnNames calls :=
    ownNames_append.2 ⟨ownNames_invitation _ _ _, by simp, by simp, trivial⟩
  have hstops : (start fun _ _ => none).halfwayStops "bob" calls = 0 := by decide +kernel
  obtain ⟨honce, -⟩ := reward_claimed_once_unless_halfway hown "bob"
  rw [hstops] at honce
  exact ⟨hstops, honce⟩

/-- Bob's first accept stops halfway, because the fourth call to the storage fails. The second one
takes back the claim that Alice has made between them, and she claims the reward once more. -/
theorem reward_claimed_twice_after_halfway_stop :
    let alice := userOfDigit 1
    let bob := userOfDigit 2
    let g := start fun n _ => if n = 3 then some "write rejected" else none
    let calls := invitation alice bob ++
      [.claim alice ["bob"], .accept bob "bob" "alice", .claim alice ["bob"]]
    g.OwnNames calls ∧ ((g.allRewards calls).map (·.2)).count "bob" = 2 ∧
      (g.run (invitation alice bob ++ [.claim alice ["bob"]])).claimed? alice "bob" = some true ∧
      (g.run (invitation alice bob ++
        [.claim alice ["bob"], .accept bob "bob" "alice"])).claimed? alice "bob" = some false := by
  intro alice bob g calls
  have hown : g.OwnNames calls := by
    refine ownNames_append.2 ⟨ownNames_invitation _ _ _, by simp, ?_, by simp, trivial⟩
    rintro user username share ⟨⟩
    rfl
  have hfirst : (g.run (invitation alice bob)).rewards (.claim alice ["bob"]) =
      [(alice, "bob")] := by
    decide +kernel
  have hsecond : (g.run (invitation alice bob ++
      [.claim alice ["bob"], .accept bob "bob" "alice"])).rewards (.claim alice ["bob"]) =
        [(alice, "bob")] := by
    decide +kernel
  have hdone := claimed?_of_mem_rewards (codec_run_start _ _) (p := (alice, "bob"))
    (by rw [hfirst]; exact List.mem_cons_self)
  have hlost := claimed?_of_mem_rewards (codec_run_start _ _) (p := (alice, "bob"))
    (by rw [hsecond]; exact List.mem_cons_self)
  rw [← run_concat] at hdone
  have hall : g.allRewards calls =
      (g.run (invitation alice bob)).rewards (.claim alice ["bob"]) ++
        (g.run (invitation alice bob ++
          [.claim alice ["bob"], .accept bob "bob" "alice"])).rewards (.claim alice ["bob"]) := by
    rw [allRewards_append, allRewards_invitation, List.nil_append, allRewards, allRewards,
      allRewards, allRewards, rewards_accept, List.nil_append, List.append_nil, run_append]
    rfl
  refine ⟨hown, ?_, hdone.2, hlost.1⟩
  rw [hall, hfirst, hsecond]
  rfl

end PlayerHub.Game
