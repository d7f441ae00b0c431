import PlayerHub.Proofs.Document.Concealed
import PlayerHub.Proofs.Invite.Reward

namespace PlayerHub.Invites

/-- The list of what is ready, made by going through the invitees in the order that `order` puts
them in. -/
def readyInOrder (order : List Invitee → List Invitee) (directory : Directory) (user : UserId) :
    ActionM (List String) := do
  let mine ← ActionM.ofStore (Store.load Invites user)
  let names ← readyAmong directory (order mine.invitees.values)
  return names.mergeSort

theorem readyInOrder_id : readyInOrder id = ready := rfl

/-- The level that is stored for the player with a username, empty if none is. There is no level if
nobody has the username, or if the stored text says none. -/
def levelOf? (directory : Directory) (s : Storage) (name : String) : Option String := do
  let account ← directory.named? name
  let progress ← (s.decoded Progress account.user).toOption
  return progress.level

/-- Whether the reward for an invitee is not claimed and is due: the invitee is a player who has
left the reward level behind. -/
def qualifies (directory : Directory) (s : Storage) (x : Invitee) : Bool :=
  !x.claimed && (levelOf? directory s x.name).any (rewardLevel < ·)

variable {directory : Directory} {user : UserId}

theorem onlyReads_isReady (directory : Directory) (x : Invitee) :
    (isReady directory x).OnlyReads := by
  refine (ActionM.OnlyReads.ofIdentity _).bind fun account => ?_
  cases account with
  | none => exact .pure false
  | some account => exact (ActionM.OnlyReads.load Progress account.user).bind fun _ => .pure _

theorem onlyReads_readyAmong (directory : Directory) (l : List Invitee) :
    (readyAmong directory l).OnlyReads := by
  induction l with
  | nil => exact .pure []
  | cons x l ih =>
    rw [readyAmong]
    split
    · exact ih
    · exact (onlyReads_isReady directory x).bind fun _ => ih.bind fun _ => .pure _

theorem onlyReads_readyInOrder (order : List Invitee → List Invitee) (directory : Directory)
    (user : UserId) : (readyInOrder order directory user).OnlyReads :=
  (ActionM.OnlyReads.load Invites user).bind fun _ =>
    (onlyReads_readyAmong directory _).bind fun _ => .pure _

theorem pairwise_mergeSort (l : List String) : l.mergeSort.Pairwise (· ≤ ·) := by
  have hsorted := @List.pairwise_mergeSort _ (fun a b : String => decide (a ≤ b))
    (fun _ _ _ hab hbc => decide_eq_true (String.le_trans (of_decide_eq_true hab)
      (of_decide_eq_true hbc)))
    (fun a b => by simpa using String.le_total a b) l
  exact hsorted.imp of_decide_eq_true

theorem mergeSort_eq_of_perm {l l' : List String} (h : l.Perm l') : l.mergeSort = l'.mergeSort := by
  have hperm : l.mergeSort.Perm l'.mergeSort :=
    (l.mergeSort_perm _).trans (h.trans (l'.mergeSort_perm _).symm)
  exact hperm.eq_of_pairwise (fun _ _ _ _ => String.le_antisymm) (pairwise_mergeSort l)
    (pairwise_mergeSort l')

theorem readyInOrder_of_isOpen {order : List Invitee → List Invitee} {mine : Invites} {s : Store}
    (hopen : s.IsOpen) (houtage : directory.outage = none)
    (hmine : s.storage.look Invites user = .ok mine)
    (horder : (order mine.invitees.values).Perm mine.invitees.values)
    (hreadable : ∀ x ∈ mine.invitees.values, x.claimed = false → ∀ account,
      directory.named? x.name = some account → ∃ p, s.storage.look Progress account.user = .ok p) :
    let ended := (readyInOrder order directory user).perform s
    ended.1 = .ok (mine.readyNames (isPast directory s.storage)) ∧
      ended.2.storage = s.storage ∧ s.OnlyReads ended.2 := by
  intro ended
  have hreads : s.OnlyReads ended.2 :=
    (onlyReads_readyInOrder order directory user s hopen.codec).2
  obtain ⟨s₁, hopen₁, hstorage₁, hload⟩ := ActionM.load_of_isOpen hopen hmine
  obtain ⟨s₂, -, hstorage₂, hamong⟩ := readyAmong_of_isOpen (order mine.invitees.values) hopen₁
    houtage fun x hx => hstorage₁ ▸ hreadable x (horder.subset hx)
  have hended : ended = (.ok (((order mine.invitees.values).filter fun x =>
      !x.claimed && isPast directory s₁.storage x.name).map (·.name)).mergeSort, s₂) := by
    simp only [ended, readyInOrder, ActionM.perform]
    rw [Perform.bind_of_ok hload, Perform.bind_of_ok hamong]
    rfl
  refine ⟨?_, hended ▸ hstorage₂.trans hstorage₁, hreads⟩
  rw [hended, hstorage₁]
  refine congrArg Except.ok (mergeSort_eq_of_perm ?_)
  exact (horder.filter _).map _

theorem isPast_eq_levelOf? {s : Storage} {name : String}
    (hreadable : ∀ account, directory.named? name = some account →
      ¬ s.Conceals Progress account.user ∧ ∃ p, s.decoded Progress account.user = .ok p) :
    isPast directory s name = (levelOf? directory s name).any (rewardLevel < ·) := by
  rw [isPast, levelOf?]
  cases hnamed : directory.named? name with
  | none => rfl
  | some account =>
    obtain ⟨hshown, p, hp⟩ := hreadable account hnamed
    simp only [Storage.look_eq_decoded hshown, hp, Option.bind_eq_bind, Option.bind_some]
    rfl

/-- Whatever is stored, as long as the player may read the own invites, the unclaimed invitees with
accounts may read their progress, and all these texts are documents: the list of what is ready is
made, and in whatever order the invitees are gone through it has the names of the unclaimed invitees
whose level is past the reward level, each as often as there are such invitees, in ascending order.
Nothing is written. -/
theorem ready_in_any_order {mine : Invites} {s : Store} (hopen : s.IsOpen)
    (houtage : directory.outage = none) (hshown : ¬ s.storage.Conceals Invites user)
    (hmine : s.storage.decoded Invites user = .ok mine)
    (hreadable : ∀ x ∈ mine.invitees.values, x.claimed = false → ∀ account,
      directory.named? x.name = some account →
        ¬ s.storage.Conceals Progress account.user ∧
          ∃ p, s.storage.decoded Progress account.user = .ok p) :
    ∃ listed : List String, listed.Pairwise (· ≤ ·) ∧
      listed.Perm ((mine.invitees.values.filter (qualifies directory s.storage)).map (·.name)) ∧
      ((ready directory user).perform s).1 = .ok listed ∧
      ∀ order : List Invitee → List Invitee,
        (order mine.invitees.values).Perm mine.invitees.values →
          let ended := (readyInOrder order directory user).perform s
          ended.1 = .ok listed ∧ ended.2.storage = s.storage ∧ s.OnlyReads ended.2 := by
  have hlook : s.storage.look Invites user = .ok mine :=
    (Storage.look_eq_decoded hshown).trans hmine
  have hpast : ∀ x ∈ mine.invitees.values,
      (!x.claimed && isPast directory s.storage x.name) = qualifies directory s.storage x := by
    intro x hx
    cases hclaimed : x.claimed with
    | true => rw [qualifies, hclaimed]; rfl
    | false => rw [qualifies, hclaimed, isPast_eq_levelOf? (hreadable x hx hclaimed)]
  have hnames : (mine.readyNames (isPast directory s.storage)).Perm
      ((mine.invitees.values.filter (qualifies directory s.storage)).map (·.name)) := by
    rw [readyNames, List.filter_congr hpast]
    exact List.mergeSort_perm _ _
  have hread : ∀ x ∈ mine.invitees.values, x.claimed = false → ∀ account,
      directory.named? x.name = some account →
        ∃ p, s.storage.look Progress account.user = .ok p := by
    intro x hx hclaimed account hnamed
    obtain ⟨hshown', p, hp⟩ := hreadable x hx hclaimed account hnamed
    exact ⟨p, (Storage.look_eq_decoded hshown').trans hp⟩
  refine ⟨mine.readyNames (isPast directory s.storage), pairwise_mergeSort _, hnames, ?_,
    fun order horder => readyInOrder_of_isOpen hopen houtage hlook horder hread⟩
  rw [← readyInOrder_id]
  exact (readyInOrder_of_isOpen hopen houtage hlook (.refl _) hread).1

/-- Of three players in the list of Alice, the reward for Carol is claimed, and nobody has the
username of the ghost. -/
theorem bob_is_ready_in_either_order :
    let alice : UserId := ⟨List.replicate 32 1, List.length_replicate⟩
    let bob : UserId := ⟨List.replicate 32 2, List.length_replicate⟩
    let invitees : List Invitee :=
      [{ name := "bob" }, { name := "carol", claimed := true }, { name := "ghost" }]
    let mine : Invites := { invitees := .ofList (invitees.map fun x => (x.name, x)) }
    let directory : Directory := { bindings := [⟨⟨"b"⟩, ⟨bob, "bob"⟩⟩] }
    let s : Store := { storage :=
      (({} : Storage).keep bob (⟨"L1002"⟩ : Progress)).keep alice mine }
    mine.invitees.values = invitees ∧ s.storage.decoded Invites alice = .ok mine ∧
      ((ready directory alice).perform s).1 = .ok ["bob"] ∧
        ((readyInOrder List.reverse directory alice).perform s).1 = .ok ["bob"] := by
  intro alice bob invitees mine directory s
  have hopen : s.IsOpen := ⟨rfl, fun _ _ => rfl, rfl⟩
  have hvalues : mine.invitees.values = invitees := by decide +kernel
  have hmine : s.storage.decoded Invites alice = .ok mine := Storage.decoded_keep_self _ _ _
  have hshown : ¬ s.storage.Conceals Invites alice := by
    rintro ⟨content, hstored, hhidden⟩
    cases (Storage.stored?_keep_self _ _ _).symm.trans hstored
    cases hhidden
  have hlevel : s.storage.stored? Progress bob =
      some ⟨Document.encode (⟨"L1002"⟩ : Progress), .ownerRead, .noWrite⟩ := rfl
  have hbob : ∀ account, directory.named? "bob" = some account →
      ¬ s.storage.Conceals Progress account.user ∧
        ∃ p, s.storage.decoded Progress account.user = .ok p := by
    intro account hnamed
    obtain rfl : ⟨bob, "bob"⟩ = account := Option.some.inj hnamed
    constructor
    · rintro ⟨content, hstored, hhidden⟩
      cases hlevel.symm.trans hstored
      cases hhidden
    · simp only [Storage.decoded, hlevel, Document.read, Document.decode?_encode]
      exact ⟨_, rfl⟩
  have hreadable : ∀ x ∈ invitees, x.claimed = false → ∀ account,
      directory.named? x.name = some account → ¬ s.storage.Conceals Progress account.user ∧
        ∃ p, s.storage.decoded Progress account.user = .ok p := by
    intro x hx hclaimed account hnamed
    simp only [invitees, List.mem_cons, List.not_mem_nil, or_false] at hx
    obtain rfl | rfl | rfl := hx
    · exact hbob account hnamed
    · cases hclaimed
    · cases hnamed
  obtain ⟨listed, -, hperm, hready, hlisted⟩ :=
    @ready_in_any_order directory alice mine s hopen rfl hshown hmine (hvalues ▸ hreadable)
  have hqualifies : (mine.invitees.values.filter (qualifies directory s.storage)).map (·.name) =
      ["bob"] := by decide +kernel
  rw [hqualifies, List.perm_singleton] at hperm
  subst hperm
  exact ⟨hvalues, hmine, hready, (hlisted List.reverse (List.reverse_perm _)).1⟩

end PlayerHub.Invites
