import Mathlib.Data.List.Dedup
import PlayerHub.Invite.Reward
import PlayerHub.Proofs.Invite.Basic
import PlayerHub.Proofs.Player.Action
import PlayerHub.Proofs.Player.Progress

namespace PlayerHub.Invites

variable {i : Invites} {name : String} {names : List String}

/-- The names among those given for which the reward is not claimed yet, each once. -/
def unclaimedAmong (claimed? : String → Option Bool) (names : List String) : List String :=
  names.dedup.filter fun name => claimed? name = some false

variable {c c' : String → Option Bool}

theorem mem_unclaimedAmong :
    name ∈ unclaimedAmong c names ↔ name ∈ names ∧ c name = some false := by
  rw [unclaimedAmong, List.mem_filter, List.mem_dedup, decide_eq_true_eq]

theorem nodup_unclaimedAmong : (unclaimedAmong c names).Nodup := (List.nodup_dedup names).filter _

theorem length_unclaimedAmong_cons_of_eq (hname : c name = some false)
    (hnext : ∀ k, c' k = if k = name then some true else c k) :
    (unclaimedAmong c (name :: names)).length = 1 + (unclaimedAmong c' names).length := by
  have hperm : (unclaimedAmong c (name :: names)).Perm (name :: unclaimedAmong c' names) := by
    rw [List.perm_ext_iff_of_nodup nodup_unclaimedAmong]
    · intro k
      rw [mem_unclaimedAmong, List.mem_cons, List.mem_cons, mem_unclaimedAmong, hnext]
      by_cases hk : k = name
      · subst hk
        simp [hname]
      · simp [hk]
    · refine List.nodup_cons.2 ⟨?_, nodup_unclaimedAmong⟩
      rw [mem_unclaimedAmong, hnext, if_pos rfl]
      simp
  rw [hperm.length_eq, List.length_cons, Nat.add_comm]

theorem length_unclaimedAmong_cons_of_ne (hname : c name ≠ some false) :
    (unclaimedAmong c (name :: names)).length = (unclaimedAmong c names).length := by
  apply List.Perm.length_eq
  rw [List.perm_ext_iff_of_nodup nodup_unclaimedAmong nodup_unclaimedAmong]
  intro k
  rw [mem_unclaimedAmong, mem_unclaimedAmong, List.mem_cons]
  by_cases hk : k = name
  · subst hk
    simp [hname]
  · simp [hk]

theorem claimOne_of_ne (h : i.claimed? name ≠ some false) : i.claimOne name = (i, 0) := by
  rw [claimed?] at h
  rw [claimOne]
  cases hget : i.invitees.get? name with
  | none => rfl
  | some invitee =>
    rw [hget] at h
    cases hclaimed : invitee.claimed with
    | true => simp only [hclaimed, if_true]
    | false => simp [hclaimed] at h

theorem claimOne_of_eq (h : i.claimed? name = some false) :
    (i.claimOne name).2 = 1 ∧
      ∀ k, (i.claimOne name).1.claimed? k = if k = name then some true else i.claimed? k := by
  rw [claimed?] at h
  rw [claimOne]
  cases hget : i.invitees.get? name with
  | none =>
    rw [hget] at h
    cases h
  | some invitee =>
    rw [hget, Option.map_some, Option.some.injEq] at h
    simp only [h, Bool.false_eq_true, if_false, true_and]
    intro k
    rw [claimed?, NameMap.get?_insert]
    by_cases hk : k = name
    · rw [if_pos hk, if_pos hk]
      rfl
    · rw [if_neg hk, if_neg hk]
      rfl

/-- The invites with the rewards for the given names claimed, as far as they are in the list; the
rest is as before. -/
def marked (i : Invites) (names : List String) : Invites :=
  { i with invitees := i.invitees.map fun name x =>
      if name ∈ names then { x with claimed := true } else x }

theorem get?_marked (i : Invites) (names : List String) (name : String) :
    (i.marked names).invitees.get? name =
      (i.invitees.get? name).map fun x => if name ∈ names then { x with claimed := true } else x :=
  NameMap.get?_map _ _ name

theorem contains_marked (i : Invites) (names : List String) (name : String) :
    (i.marked names).invitees.contains name = i.invitees.contains name := by
  rw [NameMap.contains, get?_marked, Option.isSome_map, NameMap.contains]

/-- The order and the repetitions of the names do not matter. -/
theorem marked_congr {names' : List String} (h : ∀ name, name ∈ names ↔ name ∈ names') :
    i.marked names = i.marked names' := by
  simp only [marked, h]

theorem eq_of_get? {i' : Invites} (hget : ∀ name, i.invitees.get? name = i'.invitees.get? name)
    (hinvited : i.invited = i'.invited) (hinviter : i.inviter = i'.inviter) : i = i' := by
  obtain ⟨invitees, invited, inviter⟩ := i
  obtain ⟨invitees', invited', inviter'⟩ := i'
  obtain rfl : invitees = invitees' := NameMap.ext_get? hget
  rw [mk.injEq]
  exact ⟨rfl, hinvited, hinviter⟩

theorem marked_nil (i : Invites) : i.marked [] = i := by
  refine eq_of_get? (fun name => ?_) rfl rfl
  simp only [get?_marked, List.not_mem_nil, if_false, Option.map_id']

theorem marked_marked (i : Invites) (names names' : List String) :
    (i.marked names).marked names' = i.marked (names ++ names') := by
  refine eq_of_get? (fun name => ?_) rfl rfl
  rw [get?_marked, get?_marked, get?_marked, Option.map_map]
  congr 1
  funext x
  by_cases hfirst : name ∈ names
  · simp [hfirst]
  · simp [hfirst]

theorem eq_marked_singleton {i' : Invites}
    (hself : i'.invitees.get? name =
      (i.invitees.get? name).map fun x => { x with claimed := true })
    (hother : ∀ k, k ≠ name → i'.invitees.get? k = i.invitees.get? k)
    (hinvited : i'.invited = i.invited) (hinviter : i'.inviter = i.inviter) :
    i' = i.marked [name] := by
  refine eq_of_get? (fun k => ?_) hinvited hinviter
  rw [get?_marked]
  by_cases hk : k = name
  · simp only [hk, hself, List.mem_singleton, if_true]
  · simp only [hother k hk, List.mem_singleton, hk, if_false, Option.map_id']

theorem claimOne_fst (i : Invites) (name : String) : (i.claimOne name).1 = i.marked [name] := by
  rw [claimOne]
  cases hget : i.invitees.get? name with
  | none => exact eq_marked_singleton (by rw [hget, Option.map_none]) (fun _ _ => rfl) rfl rfl
  | some x =>
    cases hclaimed : x.claimed with
    | true =>
      have hsame : { x with claimed := true } = x := by rw [← hclaimed]
      simp only [hclaimed, if_true]
      exact eq_marked_singleton (by rw [hget, Option.map_some, hsame]) (fun _ _ => rfl) rfl rfl
    | false =>
      simp only [hclaimed, Bool.false_eq_true, if_false]
      refine eq_marked_singleton ?_ (fun k hk => ?_) rfl rfl
      · rw [NameMap.get?_insert, if_pos rfl, hget, Option.map_some]
      · rw [NameMap.get?_insert, if_neg hk]

/-- A claim marks the rewards for the names asked for. -/
theorem claimAll_fst (i : Invites) (names : List String) :
    (i.claimAll names).1 = i.marked names := by
  induction names generalizing i with
  | nil => exact i.marked_nil.symm
  | cons name names ih =>
    have hstep : (i.claimAll (name :: names)).1 = ((i.claimOne name).1.claimAll names).1 := rfl
    rw [hstep, ih, claimOne_fst, marked_marked, List.singleton_append]

/-- After a claim, the names asked for that are in the list are claimed; the rest is as before. -/
theorem claimed?_claimAll (k : String) :
    (i.claimAll names).1.claimed? k =
      if k ∈ names then (i.claimed? k).map fun _ => true else i.claimed? k := by
  rw [claimAll_fst, claimed?, get?_marked, claimed?, Option.map_map]
  by_cases hk : k ∈ names
  · simp only [hk, if_true, Option.map_map]
    rfl
  · simp only [hk, if_false]
    rfl

/-- The number that a claim tells is the number of names that it marks. -/
theorem claimAll_snd : (i.claimAll names).2 = (unclaimedAmong i.claimed? names).length := by
  induction names generalizing i with
  | nil => rfl
  | cons name names ih =>
    have hstep : (i.claimAll (name :: names)).2 =
        (i.claimOne name).2 + ((i.claimOne name).1.claimAll names).2 := rfl
    rw [hstep, ih]
    by_cases hclaimed : i.claimed? name = some false
    · obtain ⟨hone, hnext⟩ := claimOne_of_eq hclaimed
      rw [hone, length_unclaimedAmong_cons_of_eq hclaimed hnext]
    · rw [claimOne_of_ne hclaimed, length_unclaimedAmong_cons_of_ne hclaimed, Nat.zero_add]

theorem fields_claimAll :
    (i.claimAll names).1.invited = i.invited ∧ (i.claimAll names).1.inviter = i.inviter := by
  rw [claimAll_fst]
  exact ⟨rfl, rfl⟩

theorem find?_unknown_eq_none_iff :
    (names.find? fun name => !i.invitees.contains name) = none ↔
      ∀ name ∈ names, i.claimed? name ≠ none := by
  simp only [List.find?_eq_none, Bool.not_eq_true', Bool.not_eq_false, NameMap.contains, claimed?,
    Option.isSome_iff_ne_none, ne_eq, Option.map_eq_none_iff]

theorem claimed?_ne_none_iff : i.claimed? name ≠ none ↔ i.invitees.contains name = true := by
  rw [claimed?, NameMap.contains, Option.isSome_iff_ne_none, ne_eq, ne_eq, Option.map_eq_none_iff]

/-- How a claim may end: with which answer and with which storage. -/
inductive ClaimEffect (user : UserId) (names : List String) (s : Storage) :
    Except ActionError ClaimOutcome → Storage → Prop
  | failed (e : ActionError) : ClaimEffect user names s (.error e) s
  | unknown {mine : Invites} (hmine : s.look Invites user = .ok mine) {name : String}
      (hname : (names.find? fun name => !mine.invitees.contains name) = some name) :
      ClaimEffect user names s (.ok (.unknownInvitee name)) s
  | claimed {mine : Invites} (hmine : s.look Invites user = .ok mine)
      (hall : ∀ name ∈ names, mine.claimed? name ≠ none) :
      ClaimEffect user names s (.ok (.claimed (unclaimedAmong mine.claimed? names).length))
        (s.keep user (mine.claimAll names).1)

theorem ClaimEffect.rewrites {user : UserId} {s s' : Storage}
    {answer : Except ActionError ClaimOutcome} (heffect : ClaimEffect user names s answer s') :
    s.Rewrites Invites user s' := by
  cases heffect with
  | claimed hmine hall => exact .saved hmine _
  | failed e => exact .same
  | unknown hmine hname => exact .same

/-- Claiming rewards, opened once: nothing is written unless every name that is asked for is in the
list. -/
theorem claim_effect (user : UserId) (names : List String) {s : Store} (hcodec : s.codec = {}) :
    ∃ answer s', (claim user names).perform s = (answer, s') ∧ s.IsLike s' ∧
      ClaimEffect user names s.storage answer s'.storage := by
  obtain ⟨s₁, hlike, hstorage, hload⟩ := ActionM.load_cases Invites user hcodec
  rw [claim, ActionM.perform]
  obtain ⟨e, hload⟩ | ⟨mine, hmine, hload⟩ := hload
  · rw [Perform.bind_of_error hload]
    exact ⟨_, _, rfl, hlike, hstorage ▸ .failed e⟩
  rw [Perform.bind_of_ok hload]
  cases hfind : names.find? fun name => !mine.invitees.contains name with
  | some name =>
    refine ⟨_, _, rfl, hlike, ?_⟩
    rw [hstorage]
    exact .unknown hmine hfind
  | none =>
    have hall := find?_unknown_eq_none_iff.1 hfind
    obtain ⟨s₂, hlike', hsave⟩ :=
      ActionM.save_cases user (mine.claimAll names).1 (hlike.codec.trans hcodec)
    rw [hstorage] at hsave
    obtain ⟨hsame, e, hsave⟩ | ⟨hkeep, hsave⟩ := hsave
    · exact ⟨_, _, Perform.bind_of_error hsave _, hlike.trans hlike', hsame ▸ .failed e⟩
    · refine ⟨_, _, Perform.bind_of_ok hsave _, hlike.trans hlike', ?_⟩
      rw [claimAll_snd, hkeep]
      exact .claimed hmine hall

/-- Where nothing keeps calls from the storage, a claim of rewards for players who are in the list
is heard. -/
theorem claim_of_isOpen {user : UserId} {mine : Invites} {s : Store} (hopen : s.IsOpen)
    (hmine : s.storage.look Invites user = .ok mine)
    (hall : ∀ name ∈ names, mine.claimed? name ≠ none) :
    ∃ s', s'.IsOpen ∧ s'.storage = s.storage.keep user (mine.claimAll names).1 ∧
      (claim user names).perform s =
        (.ok (.claimed (unclaimedAmong mine.claimed? names).length), s') := by
  have hfind := find?_unknown_eq_none_iff.2 hall
  obtain ⟨s₁, hopen₁, hstorage₁, hload⟩ := ActionM.load_of_isOpen hopen hmine
  obtain ⟨s₂, hopen₂, hstorage₂, hsave⟩ :=
    ActionM.save_of_isOpen user (mine.claimAll names).1 hopen₁
  refine ⟨s₂, hopen₂, hstorage₁ ▸ hstorage₂, ?_⟩
  rw [claim, ActionM.perform, Perform.bind_of_ok hload, hfind, ← claimAll_snd]
  exact Perform.bind_of_ok hsave _

/-- Where nothing keeps calls from the storage, a claim that is also about players who are not in
the list is told of the first one. -/
theorem claim_of_unknown {user : UserId} {mine : Invites} {s : Store} (hopen : s.IsOpen)
    (hmine : s.storage.look Invites user = .ok mine)
    (hname : (names.find? fun name => !mine.invitees.contains name) = some name) :
    ∃ s', s'.IsOpen ∧ s'.storage = s.storage ∧
      (claim user names).perform s = (.ok (.unknownInvitee name), s') := by
  obtain ⟨s', hopen', hstorage, hload⟩ := ActionM.load_of_isOpen hopen hmine
  refine ⟨s', hopen', hstorage, ?_⟩
  rw [claim, ActionM.perform, Perform.bind_of_ok hload, hname]
  rfl

/-- Whether a username is that of a player who has left the reward level behind. -/
def isPast (directory : Directory) (s : Storage) (name : String) : Bool :=
  match directory.named? name with
  | none => false
  | some account =>
    match s.look Progress account.user with
    | .ok progress => progress.hasPassed rewardLevel
    | .error _ => false

variable {directory : Directory} {user : UserId}

theorem isQuiet_isReady (directory : Directory) (x : Invitee) : (isReady directory x).IsQuiet := by
  refine (ActionM.IsQuiet.ofIdentity _).bind fun account => ?_
  cases account with
  | none => exact .pure false
  | some account => exact (ActionM.IsQuiet.load Progress account.user).bind fun _ => .pure _

theorem isQuiet_readyAmong (directory : Directory) (l : List Invitee) :
    (readyAmong directory l).IsQuiet := by
  induction l with
  | nil => exact .pure []
  | cons x l ih =>
    rw [readyAmong]
    split
    · exact ih
    · exact (isQuiet_isReady directory x).bind fun _ => ih.bind fun _ => .pure _

theorem isQuiet_ready (directory : Directory) (user : UserId) : (ready directory user).IsQuiet :=
  (ActionM.IsQuiet.load Invites user).bind fun _ =>
    (isQuiet_readyAmong directory _).bind fun _ => .pure _

/-- Whether the progress of every player with an account can be read. -/
def ProgressIsReadable (directory : Directory) (s : Storage) : Prop :=
  ∀ name account, directory.named? name = some account → ∃ p, s.look Progress account.user = .ok p

/-- Where nothing fails, the reward for an invitee is due once the level of the invitee has gone
past the one for rewards. -/
theorem isReady_of_isOpen (x : Invitee) {s : Store} (hopen : s.IsOpen)
    (houtage : directory.outage = none)
    (hreadable : ∀ account, directory.named? x.name = some account →
      ∃ p, s.storage.look Progress account.user = .ok p) :
    ∃ s', s'.IsOpen ∧ s'.storage = s.storage ∧
      isReady directory x s = (.ok (isPast directory s.storage x.name), s') := by
  rw [isReady, isPast, Directory.lookUpName, Directory.answer, houtage,
    Perform.bind_of_ok (ActionM.ofIdentity_ok _ s)]
  cases hnamed : directory.named? x.name with
  | none => exact ⟨s, hopen, rfl, rfl⟩
  | some account =>
    obtain ⟨p, hlook⟩ := hreadable account hnamed
    obtain ⟨s', hopen', hstorage, hload⟩ := ActionM.load_of_isOpen hopen hlook
    refine ⟨s', hopen', hstorage, ?_⟩
    simp only [hlook]
    rw [Perform.bind_of_ok hload]
    rfl

/-- Only the progress of invitees whose reward is unclaimed is read, so only theirs has to be
readable. -/
theorem readyAmong_of_isOpen (l : List Invitee) {s : Store} (hopen : s.IsOpen)
    (houtage : directory.outage = none)
    (hreadable : ∀ x ∈ l, x.claimed = false → ∀ account,
      directory.named? x.name = some account → ∃ p, s.storage.look Progress account.user = .ok p) :
    ∃ s', s'.IsOpen ∧ s'.storage = s.storage ∧ readyAmong directory l s =
      (.ok ((l.filter fun x => !x.claimed && isPast directory s.storage x.name).map (·.name)),
        s') := by
  induction l generalizing s with
  | nil => exact ⟨s, hopen, rfl, rfl⟩
  | cons x l ih =>
    obtain ⟨hfirst, hrest⟩ := List.forall_mem_cons.1 hreadable
    rw [readyAmong]
    cases hclaimed : x.claimed with
    | true =>
      obtain ⟨s', hopen', hstorage, hnames⟩ := ih hopen hrest
      refine ⟨s', hopen', hstorage, ?_⟩
      simp only [if_true, hnames, List.filter_cons, hclaimed, Bool.not_true, Bool.false_and,
        Bool.false_eq_true, if_false]
    | false =>
      obtain ⟨s₁, hopen₁, hstorage₁, hone⟩ :=
        isReady_of_isOpen x hopen houtage (hfirst hclaimed)
      obtain ⟨s₂, hopen₂, hstorage₂, hnames⟩ := ih hopen₁ (hstorage₁ ▸ hrest)
      refine ⟨s₂, hopen₂, hstorage₂.trans hstorage₁, ?_⟩
      rw [if_neg Bool.false_ne_true, Perform.bind_of_ok hone, Perform.bind_of_ok hnames, hstorage₁]
      cases hpast : isPast directory s.storage x.name with
      | false => simp [hclaimed, hpast]; rfl
      | true => simp [hclaimed, hpast]; rfl

/-- The names of the unclaimed invitees who pass a test, in ascending order. -/
def readyNames (i : Invites) (test : String → Bool) : List String :=
  ((i.invitees.values.filter fun x => !x.claimed && test x.name).map (·.name)).mergeSort

/-- Where nothing keeps calls from the storage, the list of what is ready names the unclaimed
invitees who have left the reward level behind. -/
theorem ready_of_isOpen {mine : Invites} {s : Store} (hopen : s.IsOpen)
    (houtage : directory.outage = none) (hreadable : ProgressIsReadable directory s.storage)
    (hmine : s.storage.look Invites user = .ok mine) :
    ((ready directory user).perform s).1 =
      .ok (mine.readyNames (isPast directory s.storage)) := by
  obtain ⟨s₁, hopen₁, hstorage₁, hload⟩ := ActionM.load_of_isOpen hopen hmine
  obtain ⟨s₂, -, -, hamong⟩ := readyAmong_of_isOpen mine.invitees.values hopen₁ houtage
    fun x _ _ => hstorage₁ ▸ hreadable x.name
  rw [ready, ActionM.perform, Perform.bind_of_ok hload, Perform.bind_of_ok hamong, hstorage₁]
  rfl

end PlayerHub.Invites
