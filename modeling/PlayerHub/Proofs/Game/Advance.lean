import PlayerHub.Proofs.Game.Ready
import PlayerHub.Proofs.Player.Level

namespace PlayerHub.Game

open Progress (levelName)

variable {g : Game} {user inviter : UserId} {invitee : Account} {name level : String}

theorem isPast_of_look (hnamed : g.directory.named? name = some invitee) {p : Progress}
    (hlook : g.store.storage.look Progress invitee.user = .ok p) :
    g.isPast name = p.hasPassed Invites.rewardLevel := by
  simp only [isPast, Invites.isPast, hnamed, hlook]

theorem look_next_advance (hcodec : g.store.codec = {})
    (hanswer : g.answer (.advance user level) = .advance (.ok ())) :
    (g.next (.advance user level)).store.storage.look Progress user = .ok ⟨level⟩ := by
  obtain ⟨answer, s', hanswer', hstorage, heffect⟩ := advance_next hcodec user level
  rw [hanswer, GameAnswer.advance.injEq] at hanswer'
  subst hanswer'
  rw [hstorage]
  cases heffect with
  | saved => exact Storage.look_keep_self _ _ _

theorem claimed?_next_advance (hcodec : g.store.codec = {}) (user : UserId) (level : String)
    (u : UserId) (name : String) :
    (g.next (.advance user level)).claimed? u name = g.claimed? u name := by
  have hkey : (GameCall.advance user level).key? ≠ some (Document.key Invites) := by
    simp [GameCall.key?, Document.key]
  rw [claimed?, Storage.claimed?, look_next_of_key_ne hcodec hkey, claimed?, Storage.claimed?]

/-- A listed invitee whose new level is saved is listed after that exactly if the name of the new
level is behind that of the reward level. -/
theorem Sound.ready_after_advance (hsound : g.Sound) {listed : List String}
    (hready : ((Invites.ready g.directory inviter).perform g.store.unguarded).1 = .ok listed)
    (hlisted : invitee.username ∈ listed)
    (hnamed : g.directory.named? invitee.username = some invitee)
    (hanswer : g.answer (.advance invitee.user level) = .advance (.ok ())) :
    let g' := g.next (.advance invitee.user level)
    ∃ listed', ((Invites.ready g'.directory inviter).perform g'.store.unguarded).1 = .ok listed' ∧
      (invitee.username ∈ listed' ↔
        (⟨level⟩ : Progress).hasPassed Invites.rewardLevel = true) := by
  intro g'
  obtain ⟨_, hready', hmem⟩ := hsound.ready inviter
  cases hready.symm.trans hready'
  obtain ⟨listed', hlisting, hmem'⟩ := (hsound.next (.advance invitee.user level)).ready inviter
  refine ⟨listed', hlisting, ?_⟩
  rw [hmem', claimed?_next_advance hsound.codec, and_iff_right ((hmem _).1 hlisted).1,
    isPast_of_look (named?_next hsound.codec _ hnamed) (look_next_advance hsound.codec hanswer)]

/-- The names of levels are in the order of play only as far as the earlier level is not past the
one whose number the later one begins with, in as many digits. So an invitee who is ready on one
level and goes on to a later one is still listed, unless the later one is level 10, 100 or 1001 or
one whose number begins with 1000. -/
theorem stays_ready_unless_level_sorts_early (gate : Gate) (calls : List GameCall)
    (inviter : UserId) (invitee : Account) {n m : Nat} (hlt : n < m) :
    let listing := fun g : Game =>
      ((Invites.ready g.directory inviter).perform g.store.unguarded).1
    let g := (start gate).run calls
    let c := GameCall.advance invitee.user (levelName m)
    (levelName n < levelName m ↔
      n ≤ m / 10 ^ ((Decimal.digits m).length - (Decimal.digits n).length)) ∧
    ∀ listed, listing g = .ok listed → invitee.username ∈ listed →
      g.directory.named? invitee.username = some invitee →
        g.store.storage.look Progress invitee.user = .ok ⟨levelName n⟩ →
          g.answer c = .advance (.ok ()) →
            ∃ listed', listing (g.next c) = .ok listed' ∧
              (invitee.username ∈ listed' ↔
                m ∉ [10, 100, 1001] ∧ ¬ ∃ j, 1000 * 10 ^ j ≤ m ∧ m < 1001 * 10 ^ j) := by
  intro listing g c
  refine ⟨Progress.levelName_lt_iff_of_lt hlt, ?_⟩
  intro listed hready hlisted hnamed hlook hanswer
  have hsound : g.Sound := (sound_start gate).run calls
  obtain ⟨listed', hlisting, hmem'⟩ := hsound.ready_after_advance hready hlisted hnamed hanswer
  refine ⟨listed', hlisting, ?_⟩
  -- The level that the invitee was on is past the reward level, so the later one is not the first.
  obtain ⟨_, hready', hmem⟩ := hsound.ready inviter
  cases hready.symm.trans hready'
  have hpast := ((hmem _).1 hlisted).2
  rw [isPast_of_look hnamed hlook, Progress.hasPassed_levelName_iff, Progress.IsBeforeReward]
    at hpast
  rw [hmem', Progress.hasPassed_levelName_iff, Progress.IsBeforeReward]
  simp only [List.mem_cons, List.not_mem_nil, or_false] at hpast ⊢
  have hlate : m ≠ 0 ∧ m ≠ 1 := by omega
  simp only [hlate.1, hlate.2, false_or, not_or]

/-- The game after Bob has accepted Alice's invite and has come to a level. -/
def bobOnLevel (n : Nat) : Game :=
  let alice := userOfDigit (Hex.ofNat 1)
  let bob := userOfDigit (Hex.ofNat 2)
  ((start fun _ _ => none).run (invitation alice bob)).next (.advance bob (levelName n))

theorem bobOnLevel_eq_run (n : Nat) :
    bobOnLevel n = (start fun _ _ => none).run
      (invitation (userOfDigit 1) (userOfDigit 2) ++ [.advance (userOfDigit 2) (levelName n)]) :=
  (run_concat _ _).symm

theorem look_bobOnLevel (n : Nat) :
    (bobOnLevel n).store.storage.look Progress (userOfDigit 2) = .ok ⟨levelName n⟩ :=
  look_next_advance (codec_run_start _ _) rfl

/-- Alice's list names Bob exactly if the name of his level is behind that of the reward level. -/
theorem ready_bobOnLevel (n : Nat) :
    ∃ listed, ((Invites.ready (bobOnLevel n).directory (userOfDigit 1)).perform
        (bobOnLevel n).store.unguarded).1 = .ok listed ∧
      ("bob" ∈ listed ↔ (⟨levelName n⟩ : Progress).hasPassed Invites.rewardLevel = true) := by
  have hsound : (bobOnLevel n).Sound := ((sound_start _).run _).next _
  have hnamed : (bobOnLevel n).directory.named? "bob" = some ⟨userOfDigit 2, "bob"⟩ := rfl
  have hinvited : ((start fun _ _ => none).run
      (invitation (userOfDigit 1) (userOfDigit 2))).claimed? (userOfDigit 1) "bob" = some false := by
    decide +kernel
  have hclaimed : (bobOnLevel n).claimed? (userOfDigit 1) "bob" = some false :=
    (claimed?_next_advance (codec_run_start _ _) _ _ _ _).trans hinvited
  obtain ⟨listed, hready, hmem⟩ := hsound.ready (userOfDigit 1)
  refine ⟨listed, hready, ?_⟩
  rw [hmem, and_iff_right hclaimed, isPast_of_look hnamed (look_bobOnLevel n)]

/-- Bob is ready on the level after the reward level, and stays so on the next one. -/
theorem bob_stays_ready :
    let listing := fun g : Game =>
      ((Invites.ready g.directory (userOfDigit 1)).perform g.store.unguarded).1
    let g := bobOnLevel 1002
    ∃ listed listed', listing g = .ok listed ∧ "bob" ∈ listed ∧
      listing (g.next (.advance (userOfDigit 2) (levelName 1003))) = .ok listed' ∧
        "bob" ∈ listed' := by
  intro listing g
  obtain ⟨listed, hready, hmem⟩ := ready_bobOnLevel 1002
  have hlisted : "bob" ∈ listed := hmem.2 (by decide +kernel)
  have hlt : 1002 < 1003 := by decide
  obtain ⟨-, hstays⟩ := stays_ready_unless_level_sorts_early (fun _ _ => none)
    (invitation (userOfDigit 1) (userOfDigit 2) ++ [.advance (userOfDigit 2) (levelName 1002)])
    (userOfDigit 1) ⟨userOfDigit 2, "bob"⟩ hlt
  rw [← bobOnLevel_eq_run] at hstays
  obtain ⟨listed', hready', hmem'⟩ := hstays listed hready hlisted rfl (look_bobOnLevel 1002) rfl
  refine ⟨listed, listed', hready, hlisted, hready', hmem'.2 ⟨by decide, ?_⟩⟩
  rintro ⟨j, hlow, hhigh⟩
  cases j with
  | zero => omega
  | succ j =>
    have hpos : 0 < 10 ^ j := Nat.pow_pos (by decide)
    omega

/-- Level 10000 comes after level 9999, but its name does not: when Bob comes to it, he is not ready
any more. -/
theorem bob_is_ready_no_more :
    let listing := fun g : Game =>
      ((Invites.ready g.directory (userOfDigit 1)).perform g.store.unguarded).1
    let g := bobOnLevel 9999
    let c := GameCall.advance (userOfDigit 2) (levelName 10000)
    ¬ levelName 9999 < levelName 10000 ∧
      g.store.storage.look Progress (userOfDigit 2) = .ok ⟨levelName 9999⟩ ∧
      g.answer c = .advance (.ok ()) ∧
      ∃ listed listed', listing g = .ok listed ∧ "bob" ∈ listed ∧
        listing (g.next c) = .ok listed' ∧ "bob" ∉ listed' := by
  intro listing g c
  have hsound : g.Sound := ((sound_start _).run _).next _
  have hlast : (⟨levelName 10000⟩ : Progress).hasPassed Invites.rewardLevel = false := by
    decide +kernel
  obtain ⟨listed, hready, hmem⟩ := ready_bobOnLevel 9999
  have hlisted : "bob" ∈ listed := hmem.2 (by decide +kernel)
  obtain ⟨listed', hready', hmem'⟩ :=
    @Sound.ready_after_advance g _ ⟨userOfDigit 2, "bob"⟩ _ hsound _ hready hlisted rfl rfl
  refine ⟨by decide +kernel, look_bobOnLevel 9999, rfl, listed, listed', hready, hlisted, hready',
    ?_⟩
  rw [hmem', hlast]
  exact Bool.false_ne_true

end PlayerHub.Game
