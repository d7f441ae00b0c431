import PlayerHub.Proofs.Invite.Reward

namespace PlayerHub.Invites

variable {i : Invites} {names names' : List String}

theorem unclaimedAmong_perm {c : String → Option Bool} (h : ∀ k, k ∈ names' ↔ k ∈ names) :
    (unclaimedAmong c names').Perm (unclaimedAmong c names) := by
  rw [List.perm_ext_iff_of_nodup nodup_unclaimedAmong nodup_unclaimedAmong]
  intro k
  rw [mem_unclaimedAmong, mem_unclaimedAmong, h]

theorem claimed?_marked_of_mem {name : String} (h : name ∈ names) :
    (i.marked names).claimed? name = (i.claimed? name).map fun _ => true := by
  rw [← claimAll_fst, claimed?_claimAll, if_pos h]

/-- Nothing is left to claim for those for whom it has just been claimed. -/
theorem unclaimedAmong_marked (i : Invites) (names : List String) :
    unclaimedAmong (i.marked names).claimed? names = [] := by
  rw [List.eq_nil_iff_forall_not_mem]
  intro name hmem
  obtain ⟨hname, hunclaimed⟩ := mem_unclaimedAmong.1 hmem
  rw [claimed?_marked_of_mem hname, Option.map_eq_some_iff] at hunclaimed
  obtain ⟨-, -, htrue⟩ := hunclaimed
  cases htrue

theorem claimAll_append_snd (i : Invites) (names names' : List String) :
    (i.claimAll (names ++ names')).2 =
      (i.claimAll names).2 + ((i.claimAll names).1.claimAll names').2 := by
  induction names generalizing i with
  | nil => exact (Nat.zero_add _).symm
  | cons name names ih =>
    have hstep : ∀ l, (i.claimAll (name :: l)).2 =
        (i.claimOne name).2 + ((i.claimOne name).1.claimAll l).2 := fun _ => rfl
    have hfirst : (i.claimAll (name :: names)).1 = ((i.claimOne name).1.claimAll names).1 := rfl
    rw [List.cons_append, hstep, hstep, hfirst, ih, Nat.add_assoc]

theorem length_unclaimedAmong_append (i : Invites) (names names' : List String) :
    (unclaimedAmong i.claimed? (names ++ names')).length =
      (unclaimedAmong i.claimed? names).length +
        (unclaimedAmong (i.marked names).claimed? names').length := by
  rw [← claimAll_snd, ← claimAll_snd, ← claimAll_snd, claimAll_append_snd, claimAll_fst]

variable {s : Store} {user : UserId} {mine : Invites}

/-- Where nothing keeps calls from the storage, a claim for players who are in the list marks their
rewards. -/
theorem claim_of_known (hopen : s.IsOpen) (hmine : s.storage.look Invites user = .ok mine)
    (hknown : ∀ name ∈ names, mine.invitees.contains name = true) :
    let ended := (claim user names).perform s
    ended.1 = .ok (.claimed (unclaimedAmong mine.claimed? names).length) ∧ ended.2.IsOpen ∧
      ended.2.storage = s.storage.keep user (mine.marked names) := by
  intro ended
  have hall : ∀ name ∈ names, mine.claimed? name ≠ none :=
    fun name hmem => claimed?_ne_none_iff.2 (hknown name hmem)
  obtain ⟨s', hopen', hstorage, hperform⟩ := claim_of_isOpen hopen hmine hall
  rw [claimAll_fst] at hstorage
  rw [show ended = _ from hperform]
  exact ⟨rfl, hopen', hstorage⟩

/-- A claim on top of what another claim has left. -/
theorem claim_of_marked {before : Storage} (hopen : s.IsOpen)
    (hstorage : s.storage = before.keep user (mine.marked names))
    (hknown : ∀ name ∈ names', mine.invitees.contains name = true) :
    let ended := (claim user names').perform s
    ended.1 = .ok (.claimed (unclaimedAmong (mine.marked names).claimed? names').length) ∧
      ended.2.storage = before.keep user (mine.marked (names ++ names')) := by
  intro ended
  have hlook : s.storage.look Invites user = .ok (mine.marked names) := by
    rw [hstorage, Storage.look_keep_self]
  have hmarked : ∀ name ∈ names', (mine.marked names).invitees.contains name = true := by
    intro name hmem
    rw [contains_marked, hknown name hmem]
  obtain ⟨hanswer, -, hstorage'⟩ := claim_of_known hopen hlook hmarked
  rw [hstorage, Storage.keep_keep, marked_marked] at hstorage'
  exact ⟨hanswer, hstorage'⟩

/-- Whatever a player's document says: a claim that is also about players who are not in the list is
told of the first one, and nothing is written. Any other claim is heard: it counts the players asked
for whose rewards were not claimed, each once, and their rewards are marked in the document and
nothing else. So the order and the repetitions of the names do not matter, to repeat the claim
counts nobody and changes nothing, and a further claim comes to the same as one claim for all
names. -/
theorem claim_marks_those_asked_for (hopen : s.IsOpen)
    (hmine : s.storage.look Invites user = .ok mine) :
    let answer := fun (s : Store) names => ((claim user names).perform s).1
    let next := fun (s : Store) names => ((claim user names).perform s).2
    (∀ before name later, (∀ k ∈ before, mine.invitees.contains k = true) →
      mine.invitees.contains name = false →
        answer s (before ++ name :: later) = .ok (.unknownInvitee name) ∧
          (next s (before ++ name :: later)).storage = s.storage) ∧
    ∀ names, (∀ name ∈ names, mine.invitees.contains name = true) →
      let newly := (names.dedup.filter fun name => mine.claimed? name = some false).length
      let s' := next s names
      answer s names = .ok (.claimed newly) ∧
        s'.storage = s.storage.keep user (mine.marked names) ∧
        s'.storage.look Invites user = .ok (mine.marked names) ∧
        (∀ names', (∀ k, k ∈ names' ↔ k ∈ names) →
          answer s names' = .ok (.claimed newly) ∧ (next s names').storage = s'.storage) ∧
        (answer s' names = .ok (.claimed 0) ∧ (next s' names).storage = s'.storage) ∧
        ∀ names', (∀ name ∈ names', mine.invitees.contains name = true) →
          ∃ further, answer s' names' = .ok (.claimed further) ∧
            answer s (names ++ names') = .ok (.claimed (newly + further)) ∧
              (next s' names').storage = (next s (names ++ names')).storage := by
  intro answer next
  constructor
  · intro before name later hbefore hname
    have hfirst : ((before ++ name :: later).find? fun name => !mine.invitees.contains name) =
        some name := by
      rw [List.find?_eq_some_iff_append]
      refine ⟨by rw [hname]; rfl, before, later, rfl, fun k hk => ?_⟩
      rw [hbefore k hk]
      rfl
    obtain ⟨s', -, hstorage, hperform⟩ := claim_of_unknown hopen hmine hfirst
    exact ⟨congrArg Prod.fst hperform, (congrArg (·.2.storage) hperform).trans hstorage⟩
  intro names hknown newly s'
  obtain ⟨hanswer, hopen', hstorage⟩ := claim_of_known hopen hmine hknown
  refine ⟨hanswer, hstorage, ?_, ?_, ?_, ?_⟩
  · exact (congrArg (·.look Invites user) hstorage).trans (Storage.look_keep_self _ _ _)
  · intro names' hsame
    obtain ⟨hanswer', -, hstorage'⟩ :=
      claim_of_known hopen hmine fun name hmem => hknown name ((hsame name).1 hmem)
    rw [(unclaimedAmong_perm hsame).length_eq] at hanswer'
    rw [marked_congr hsame, ← hstorage] at hstorage'
    exact ⟨hanswer', hstorage'⟩
  · obtain ⟨hanswer', hstorage'⟩ := claim_of_marked hopen' hstorage hknown
    have htwice : ∀ k, k ∈ names ++ names ↔ k ∈ names := fun k => by
      rw [List.mem_append, or_self]
    rw [unclaimedAmong_marked, List.length_nil] at hanswer'
    rw [marked_congr htwice, ← hstorage] at hstorage'
    exact ⟨hanswer', hstorage'⟩
  · intro names' hknown'
    have hboth : ∀ name ∈ names ++ names', mine.invitees.contains name = true := by
      intro name hmem
      exact (List.mem_append.1 hmem).elim (hknown name) (hknown' name)
    obtain ⟨hanswer', hstorage'⟩ := claim_of_marked hopen' hstorage hknown'
    obtain ⟨hjoined, -, hstorage''⟩ := claim_of_known hopen hmine hboth
    rw [length_unclaimedAmong_append] at hjoined
    exact ⟨_, hanswer', hjoined, hstorage'.trans hstorage''.symm⟩

/-- Alice has not claimed the reward for Bob yet, has claimed that for Carol, and has not invited
Mallory. -/
theorem claims_for_bob_and_carol :
    let alice : UserId := ⟨List.replicate 32 1, List.length_replicate⟩
    let bob : Invitee := { name := "bob" }
    let carol : Invitee := { name := "carol", claimed := true }
    let mine : Invites := { invitees := (NameMap.empty.insert "bob" bob).insert "carol" carol }
    let s : Store := { storage := ({} : Storage).keep alice mine }
    let answer := fun (s : Store) names => ((claim alice names).perform s).1
    let s' := ((claim alice ["bob", "carol", "bob"]).perform s).2
    s.IsOpen ∧ s.storage.look Invites alice = .ok mine ∧
      answer s ["bob", "mallory"] = .ok (.unknownInvitee "mallory") ∧
      answer s ["bob", "carol", "bob"] = .ok (.claimed 1) ∧
      answer s' ["bob", "carol", "bob"] = .ok (.claimed 0) := by
  intro alice bob carol mine s answer s'
  have hopen : s.IsOpen := ⟨rfl, fun _ _ => rfl, rfl⟩
  have hmine : s.storage.look Invites alice = .ok mine := Storage.look_keep_self _ _ _
  have hcount : (["bob", "carol", "bob"].dedup.filter fun name =>
      mine.claimed? name = some false).length = 1 := by decide +kernel
  obtain ⟨hunknown, hknown⟩ := claim_marks_those_asked_for hopen hmine
  obtain ⟨hanswer, -, -, -, ⟨hagain, -⟩, -⟩ := hknown ["bob", "carol", "bob"] (by decide)
  rw [hcount] at hanswer
  exact ⟨hopen, hmine, (hunknown ["bob"] "mallory" [] (by decide) (by decide)).1, hanswer, hagain⟩

end PlayerHub.Invites
