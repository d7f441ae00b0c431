import PlayerHub.Proofs.Game.Ready

namespace PlayerHub

namespace Invites

variable {i : Invites} {names : List String} {test : String → Bool}

theorem IsKeyed.map_name_values (h : i.IsKeyed) :
    i.invitees.values.map (·.name) = i.invitees.entries.map (·.1) := by
  rw [NameMap.values, List.map_map]
  refine List.map_congr_left fun e hmem => ?_
  exact h e.1 e.2 (NameMap.get?_eq_some_iff.2 hmem)

theorem IsKeyed.nodup_readyNames (h : i.IsKeyed) : (i.readyNames test).Nodup := by
  rw [readyNames, (List.mergeSort_perm _ _).nodup_iff]
  refine List.Nodup.sublist (List.filter_sublist.map _) ?_
  rw [h.map_name_values]
  exact i.invitees.nodup_names

/-- Every name counts in a claim for distinct players whose rewards are unclaimed. -/
theorem length_unclaimedAmong_of_nodup {c : String → Option Bool} (hnodup : names.Nodup)
    (hunclaimed : ∀ name ∈ names, c name = some false) :
    (unclaimedAmong c names).length = names.length := by
  rw [unclaimedAmong, hnodup.dedup, List.filter_eq_self.2]
  exact fun name hmem => decide_eq_true (hunclaimed name hmem)

/-- Nothing is ready any more when all that was ready has been claimed. -/
theorem IsKeyed.readyNames_claimAll (h : i.IsKeyed)
    (hall : ∀ name ∈ i.readyNames test, name ∈ names) :
    (i.claimAll names).1.readyNames test = [] := by
  rw [List.eq_nil_iff_forall_not_mem]
  intro name hmem
  obtain ⟨hunclaimed, htest⟩ := (h.claimAll names).mem_readyNames.1 hmem
  rw [claimed?_claimAll] at hunclaimed
  by_cases hasked : name ∈ names
  · rw [if_pos hasked] at hunclaimed
    obtain ⟨claimed, -, hfalse⟩ := Option.map_eq_some_iff.1 hunclaimed
    cases hfalse
  · rw [if_neg hasked] at hunclaimed
    exact hasked (hall name (h.mem_readyNames.2 ⟨hunclaimed, htest⟩))

end Invites

namespace Game

/-- The game, with nothing that refuses calls to the storage. -/
def unguarded (g : Game) : Game := { g with store := g.store.unguarded }

/-- What is known in every state of a run, with nothing that refuses calls to the storage. -/
structure Unhindered (g : Game) : Prop extends g.Sound where
  gate : ∀ n c, g.store.gate n c = none

variable {g : Game} {user : UserId} {mine : Invites} {names : List String}

theorem Sound.unhindered (hsound : g.Sound) : g.unguarded.Unhindered where
  toSound := { hsound with }
  gate := fun _ _ => rfl

theorem isPast_congr {g' : Game} (hdirectory : g'.directory = g.directory)
    (hlook : ∀ u, g'.store.storage.look Progress u = g.store.storage.look Progress u) :
    g'.isPast = g.isPast := by
  funext name
  rw [isPast, Invites.isPast, hdirectory, isPast, Invites.isPast]
  cases g.directory.named? name with
  | none => rfl
  | some account => simp only [hlook]

theorem storage_next_ready (hcodec : g.store.codec = {}) (user : UserId) :
    (g.next (.ready user)).store.storage = g.store.storage := by
  obtain ⟨answer, s', hperform, -, hstorage⟩ :=
    Invites.isQuiet_ready g.directory user g.store hcodec
  rw [next, perform, act, ActionM.perform, hperform]
  exact hstorage

namespace Unhindered

theorem next (h : g.Unhindered) (c : GameCall) : (g.next c).Unhindered where
  toSound := h.toSound.next c
  gate := by
    rw [(effect_next h.codec c).1.gate]
    exact h.gate

theorem isOpen (h : g.Unhindered) : g.store.IsOpen := ⟨h.codec, h.gate, h.online⟩

theorem answer_ready (h : g.Unhindered) (hmine : g.store.storage.look Invites user = .ok mine) :
    g.answer (.ready user) = .ready (.ok (mine.readyNames g.isPast)) :=
  congrArg GameAnswer.ready
    (Invites.ready_of_isOpen h.isOpen h.outage h.progressIsReadable hmine)

theorem perform_claim (h : g.Unhindered) (hmine : g.store.storage.look Invites user = .ok mine)
    (hall : ∀ name ∈ names, mine.claimed? name ≠ none) :
    g.answer (.claim user names) =
        .claim (.ok (.claimed (Invites.unclaimedAmong mine.claimed? names).length)) ∧
      (g.next (.claim user names)).store.storage =
        g.store.storage.keep user (mine.claimAll names).1 := by
  obtain ⟨s', -, hstorage, hperform⟩ := Invites.claim_of_isOpen h.isOpen hmine hall
  rw [answer, Game.next, perform, act, hperform]
  exact ⟨rfl, hstorage⟩

end Unhindered

/-- Whichever calls to the storage have failed before: when nothing refuses them any more, every
player is given a list of what is ready. A claim for the players on it, in any order, claims all
their rewards, the next list is empty, and the lists of other players are as they were. -/
theorem what_is_ready_is_claimed_at_once (gate : Gate) (calls : List GameCall) (user : UserId) :
    let g := ((start gate).run calls).unguarded
    ∃ listed, g.answer (.ready user) = .ready (.ok listed) ∧
      ∀ names : List String, names.Perm listed →
        let asked := g.next (.ready user)
        let claimed := asked.next (.claim user names)
        asked.answer (.claim user names) = .claim (.ok (.claimed listed.length)) ∧
          claimed.answer (.ready user) = .ready (.ok []) ∧
            ∀ other, other ≠ user → claimed.answer (.ready other) = g.answer (.ready other) := by
  intro g
  have h : g.Unhindered := ((sound_start gate).run calls).unhindered
  obtain ⟨mine, hmine, hkeyed⟩ := h.invites user
  refine ⟨mine.readyNames g.isPast, h.answer_ready hmine, fun names hperm => ?_⟩
  intro asked claimed
  have hasked : asked.store.storage = g.store.storage := storage_next_ready h.codec user
  have hunclaimed : ∀ name ∈ names, mine.claimed? name = some false :=
    fun name hmem => (hkeyed.mem_readyNames.1 (hperm.subset hmem)).1
  have hall : ∀ name ∈ names, mine.claimed? name ≠ none := by
    intro name hmem
    rw [hunclaimed name hmem]
    exact Option.some_ne_none _
  obtain ⟨hanswer, hstorage⟩ := (h.next (.ready user)).perform_claim (hasked ▸ hmine) hall
  rw [hasked] at hstorage
  have hclaimed : claimed.Unhindered := (h.next _).next _
  have hpast : claimed.isPast = g.isPast := by
    refine isPast_congr rfl fun u => ?_
    rw [hstorage, Storage.look_keep_of_key_ne _ _ (by decide)]
  refine ⟨?_, ?_, fun other hother => ?_⟩
  · have hnodup : names.Nodup := hperm.nodup_iff.2 hkeyed.nodup_readyNames
    rw [hanswer, Invites.length_unclaimedAmong_of_nodup hnodup hunclaimed, hperm.length_eq]
  · have hlook : claimed.store.storage.look Invites user = .ok (mine.claimAll names).1 := by
      rw [hstorage, Storage.look_keep_self]
    rw [hclaimed.answer_ready hlook, hpast,
      hkeyed.readyNames_claimAll fun name hmem => hperm.symm.subset hmem]
  · obtain ⟨theirs, htheirs, -⟩ := h.invites other
    have hlook : claimed.store.storage.look Invites other = .ok theirs := by
      rw [hstorage, Storage.look_keep_of_user_ne _ _ hother, htheirs]
    rw [hclaimed.answer_ready hlook, hpast, h.answer_ready htheirs]

/-- Bob and Carol have come past the reward level, and Alice claims the rewards for Carol and
Bob. -/
theorem two_rewards_are_claimed_at_once :
    let alice := userOfDigit 1
    let bob := userOfDigit 2
    let carol := userOfDigit 3
    let g := ((start fun _ _ => none).run (invitation alice bob ++
      [.signIn ⟨"c"⟩ "carol" true carol, .accept carol "carol" "alice", .advance bob "L1002",
        .advance carol "L1003"])).unguarded
    let asked := g.next (.ready alice)
    g.answer (.ready alice) = .ready (.ok ["bob", "carol"]) ∧
      asked.answer (.claim alice ["carol", "bob"]) = .claim (.ok (.claimed 2)) ∧
        (asked.next (.claim alice ["carol", "bob"])).answer (.ready alice) = .ready (.ok []) := by
  intro alice bob carol g asked
  let mine : Invites := { invitees :=
    (NameMap.empty.insert "bob" { name := "bob" }).insert "carol" { name := "carol" } }
  have hmine : g.store.storage.look Invites alice = .ok mine := by decide +kernel
  have hready : mine.readyNames g.isPast = ["bob", "carol"] := by
    have hnames : (mine.invitees.values.filter fun x =>
        !x.claimed && g.isPast x.name).map (·.name) = ["bob", "carol"] := by decide +kernel
    rw [Invites.readyNames, hnames]
    exact List.mergeSort_of_pairwise (by decide)
  have hlisted : g.answer (.ready alice) = .ready (.ok ["bob", "carol"]) := by
    rw [((sound_start _).run _).unhindered.answer_ready hmine, hready]
  obtain ⟨listed, hlist, hclaim⟩ := what_is_ready_is_claimed_at_once (fun _ _ => none)
    (invitation alice bob ++ [.signIn ⟨"c"⟩ "carol" true carol, .accept carol "carol" "alice",
      .advance bob "L1002", .advance carol "L1003"]) alice
  obtain rfl := Except.ok.inj (GameAnswer.ready.inj (hlist.symm.trans hlisted))
  obtain ⟨hclaimed, hnext, -⟩ := hclaim ["carol", "bob"] (.swap "bob" "carol" [])
  exact ⟨hlisted, hclaimed, hnext⟩

end Game

end PlayerHub
