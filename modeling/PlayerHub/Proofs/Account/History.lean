import PlayerHub.Proofs.Account.Directory

namespace PlayerHub

/-- An attempt to sign in. The id is that of the account that it may make. -/
structure Attempt where
  external : ExternalId
  username : String
  create : Bool
  fresh : UserId

/-- Whether an attempt may be refused with an error: it was not to make an account, or the username
that it brought is another player's. -/
def Attempt.IsRefusedWith (a : Attempt) (e : IdentityError) : Prop :=
  (a.create = false ∧ e = .accountNotFound a.external.value) ∨
    (a.create = true ∧ e = .usernameTaken a.username)

namespace Directory

/-- The answer to an attempt, and the directory after it. -/
def attempt (d : Directory) (a : Attempt) : Except IdentityError SignedIn × Directory :=
  match d.signIn a.external a.username a.create a.fresh with
  | .ok (found, d') => (.ok found, d')
  | .error e => (.error e, d)

/-- The directory after some attempts. -/
def run (d : Directory) : List Attempt → Directory
  | [] => d
  | a :: attempts => (d.attempt a).2.run attempts

/-- Some attempts, each with its answer. -/
def history (d : Directory) : List Attempt → List (Attempt × Except IdentityError SignedIn)
  | [] => []
  | a :: attempts => (a, (d.attempt a).1) :: (d.attempt a).2.history attempts

/-- The accounts of a directory, in the order in which they were made. -/
def accounts (d : Directory) : List Account := d.bindings.map (·.account)

/-- The account that an attempt made, as its answer tells. -/
def made? : Except IdentityError SignedIn → Option Account
  | .ok ⟨account, true⟩ => some account
  | _ => none

variable {d : Directory} {a : Attempt} {attempts : List Attempt} {external : ExternalId}
  {username : String} {user : UserId} {account : Account}

/-- How an attempt may end while the directory answers: with which answer and with which
directory. -/
inductive AttemptEffect (d : Directory) (a : Attempt) :
    Except IdentityError SignedIn → Directory → Prop
  | found {account : Account} (hbound : d.bound? a.external = some account) :
      AttemptEffect d a (.ok ⟨account, false⟩) d
  | made (hbound : d.bound? a.external = none) (hnamed : d.named? a.username = none)
      (hcreate : a.create = true) :
      AttemptEffect d a (.ok ⟨⟨a.fresh, a.username⟩, true⟩)
        (d.bind a.external ⟨a.fresh, a.username⟩)
  | unknown (hbound : d.bound? a.external = none) (hcreate : a.create = false) :
      AttemptEffect d a (.error (.accountNotFound a.external.value)) d
  | taken {account : Account} (hbound : d.bound? a.external = none)
      (hnamed : d.named? a.username = some account) (hcreate : a.create = true) :
      AttemptEffect d a (.error (.usernameTaken a.username)) d

/-- An attempt finds an account, makes one, or is refused, and in any case does nothing else to the
directory. -/
theorem attempt_effect (houtage : d.outage = none) (a : Attempt) :
    AttemptEffect d a (d.attempt a).1 (d.attempt a).2 := by
  obtain ⟨external, username, create, fresh⟩ := a
  rw [attempt]
  cases hbound : d.bound? external with
  | some account =>
    rw [signIn_of_bound houtage hbound]
    exact .found hbound
  | none =>
    cases create with
    | false =>
      have hsignIn : d.signIn external username false fresh =
          .error (.accountNotFound external.value) := by
        rw [signIn, answer, houtage, hbound]
        rfl
      rw [hsignIn]
      exact .unknown hbound rfl
    | true =>
      cases hnamed : d.named? username with
      | none =>
        rw [signIn_of_unbound houtage hbound hnamed]
        exact .made hbound hnamed rfl
      | some account =>
        have hsignIn : d.signIn external username true fresh =
            .error (.usernameTaken username) := by
          rw [signIn, answer, houtage, hbound, hnamed]
          rfl
        rw [hsignIn]
        exact .taken hbound hnamed rfl

theorem outage_attempt (houtage : d.outage = none) (a : Attempt) :
    (d.attempt a).2.outage = none := by
  have heffect := attempt_effect houtage a
  generalize (d.attempt a).1 = answer at heffect
  generalize (d.attempt a).2 = d' at heffect ⊢
  cases heffect with
  | made hbound hnamed hcreate => exact houtage
  | _ => exact houtage

theorem outage_run (houtage : d.outage = none) (attempts : List Attempt) :
    (d.run attempts).outage = none := by
  induction attempts generalizing d with
  | nil => exact houtage
  | cons a attempts ih => exact ih (outage_attempt houtage a)

/-- A history makes the accounts that it is answered to have made. -/
theorem accounts_run (houtage : d.outage = none) (attempts : List Attempt) :
    (d.run attempts).accounts =
      d.accounts ++ (d.history attempts).filterMap fun x => made? x.2 := by
  induction attempts generalizing d with
  | nil => rw [history, List.filterMap_nil, List.append_nil, run]
  | cons a attempts ih =>
    have heffect := attempt_effect houtage a
    rw [run, ih (outage_attempt houtage a), history]
    generalize (d.attempt a).1 = answer at heffect ⊢
    generalize (d.attempt a).2 = d' at heffect ⊢
    cases heffect with
    | made hbound hnamed hcreate =>
      rw [accounts, bind, List.map_append, List.append_assoc]
      simp only [List.filterMap_cons, made?]
      rfl
    | _ => simp only [List.filterMap_cons, made?]

/-- The accounts have distinct external ids and distinct usernames. -/
structure IsKeyed (d : Directory) : Prop where
  externals : (d.bindings.map (·.external)).Nodup
  usernames : (d.bindings.map (·.account.username)).Nodup

theorem find?_map_eq_some_iff {α κ β : Type} [DecidableEq κ] {f : α → κ} {g : α → β} {l : List α}
    (hkeys : (l.map f).Nodup) {k : κ} {b : β} :
    (l.find? fun a => f a = k).map g = some b ↔ ∃ a ∈ l, f a = k ∧ g a = b := by
  rw [Option.map_eq_some_iff]
  constructor
  · rintro ⟨a, hfind, hb⟩
    refine ⟨a, List.mem_of_find?_eq_some hfind, ?_, hb⟩
    simpa only [decide_eq_true_eq] using List.find?_some hfind
  · rintro ⟨a, hmem, hk, hb⟩
    obtain ⟨a', hfind⟩ : ∃ a', (l.find? fun a => f a = k) = some a' := by
      rw [← Option.isSome_iff_exists, List.find?_isSome]
      exact ⟨a, hmem, decide_eq_true hk⟩
    have hk' : f a' = k := by
      simpa only [decide_eq_true_eq] using List.find?_some hfind
    have hsame : a' = a :=
      List.inj_on_of_nodup_map hkeys (List.mem_of_find?_eq_some hfind) hmem (hk'.trans hk.symm)
    exact ⟨a', hfind, hsame ▸ hb⟩

theorem IsKeyed.bound?_eq_some_iff (hkeyed : d.IsKeyed) :
    d.bound? external = some account ↔ ⟨external, account⟩ ∈ d.bindings := by
  rw [bound?, find?_map_eq_some_iff hkeyed.externals]
  constructor
  · rintro ⟨b, hmem, rfl, rfl⟩
    exact hmem
  · exact fun hmem => ⟨_, hmem, rfl, rfl⟩

theorem IsKeyed.named?_eq_some_iff (hkeyed : d.IsKeyed) :
    d.named? username = some account ↔ account ∈ d.accounts ∧ account.username = username := by
  rw [named?, find?_map_eq_some_iff hkeyed.usernames, accounts, List.mem_map]
  constructor
  · rintro ⟨b, hmem, hname, rfl⟩
    exact ⟨⟨b, hmem, rfl⟩, hname⟩
  · rintro ⟨⟨b, hmem, rfl⟩, hname⟩
    exact ⟨b, hmem, hname, rfl⟩

theorem Separates.ofUser?_eq_some_iff {users : List UserId} (hseparates : d.Separates users) :
    d.ofUser? user = some account ↔ account ∈ d.accounts ∧ account.user = user := by
  rw [ofUser?, find?_map_eq_some_iff hseparates.distinct, accounts, List.mem_map]
  constructor
  · rintro ⟨b, hmem, huser, rfl⟩
    exact ⟨⟨b, hmem, rfl⟩, huser⟩
  · rintro ⟨⟨b, hmem, rfl⟩, huser⟩
    exact ⟨b, hmem, huser, rfl⟩

/-- Two external ids have accounts of one name only if they are the same. -/
theorem IsKeyed.username_eq_iff (hkeyed : d.IsKeyed) {external₁ external₂ : ExternalId}
    {account₁ account₂ : Account} (hbound₁ : d.bound? external₁ = some account₁)
    (hbound₂ : d.bound? external₂ = some account₂) :
    account₁.username = account₂.username ↔ external₁ = external₂ := by
  constructor
  · intro hsame
    rw [hkeyed.bound?_eq_some_iff] at hbound₁ hbound₂
    exact congrArg Binding.external
      (List.inj_on_of_nodup_map hkeyed.usernames hbound₁ hbound₂ hsame)
  · rintro rfl
    rw [Option.some.inj (hbound₁.symm.trans hbound₂)]

theorem isKeyed_empty : ({} : Directory).IsKeyed := ⟨List.nodup_nil, List.nodup_nil⟩

theorem not_mem_externals (hbound : d.bound? external = none) :
    external ∉ d.bindings.map (·.external) := by
  rw [bound?, Option.map_eq_none_iff, List.find?_eq_none] at hbound
  rintro hmem
  obtain ⟨b, hb, rfl⟩ := List.mem_map.1 hmem
  exact hbound b hb (decide_eq_true rfl)

theorem not_mem_usernames (hnamed : d.named? username = none) :
    username ∉ d.bindings.map (·.account.username) := by
  rw [named?, Option.map_eq_none_iff, List.find?_eq_none] at hnamed
  rintro hmem
  obtain ⟨b, hb, rfl⟩ := List.mem_map.1 hmem
  exact hnamed b hb (decide_eq_true rfl)

theorem IsKeyed.bind (hkeyed : d.IsKeyed) (hbound : d.bound? external = none)
    (hnamed : d.named? account.username = none) : (d.bind external account).IsKeyed where
  externals := by
    rw [Directory.bind, List.map_append, List.map_singleton, List.nodup_append_comm,
      List.singleton_append, List.nodup_cons]
    exact ⟨not_mem_externals hbound, hkeyed.externals⟩
  usernames := by
    rw [Directory.bind, List.map_append, List.map_singleton, List.nodup_append_comm,
      List.singleton_append, List.nodup_cons]
    exact ⟨not_mem_usernames hnamed, hkeyed.usernames⟩

theorem IsKeyed.signIn {fresh : UserId} {create : Bool} {found : SignedIn} {d' : Directory}
    (hkeyed : d.IsKeyed)
    (hsignIn : d.signIn external username create fresh = .ok (found, d')) : d'.IsKeyed := by
  obtain ⟨-, -, -, rfl⟩ | ⟨hbound, hnamed, -, -, rfl⟩ := signIn_eq_ok hsignIn
  · exact hkeyed
  · exact hkeyed.bind hbound hnamed

/-- What an attempt keeps that changes a directory only by sign-ins. -/
theorem attempt_preserves {p : Directory → Prop} (hp : p d) (a : Attempt)
    (hsignIn : ∀ found d', d.signIn a.external a.username a.create a.fresh = .ok (found, d') →
      p d') : p (d.attempt a).2 := by
  rw [attempt]
  split
  · rename_i found d' h
    exact hsignIn found d' h
  · exact hp

theorem IsKeyed.run (hkeyed : d.IsKeyed) (attempts : List Attempt) :
    (d.run attempts).IsKeyed := by
  induction attempts generalizing d with
  | nil => exact hkeyed
  | cons a attempts ih => exact ih (attempt_preserves hkeyed a fun _ _ => hkeyed.signIn)

theorem Separates.attempt {users : List UserId} (hseparates : d.Separates users)
    (hfresh : a.fresh ∉ users) : (d.attempt a).2.Separates (users ++ [a.fresh]) :=
  attempt_preserves (hseparates.mono (List.subset_append_left _ _)) a
    fun _ _ => hseparates.signIn hfresh

theorem Separates.run {users : List UserId} (hseparates : d.Separates users)
    (hids : (users ++ attempts.map (·.fresh)).Nodup) :
    (d.run attempts).Separates (users ++ attempts.map (·.fresh)) := by
  induction attempts generalizing d users with
  | nil => exact hseparates.mono (List.subset_append_left _ _)
  | cons a attempts ih =>
    rw [List.map_cons, List.append_cons] at hids ⊢
    exact ih (hseparates.attempt (not_mem_of_nodup hids)) hids

theorem bound?_run_of_some (hbound : d.bound? external = some account)
    (attempts : List Attempt) : (d.run attempts).bound? external = some account := by
  induction attempts generalizing d with
  | nil => exact hbound
  | cons a attempts ih =>
    exact ih (attempt_preserves (p := fun d => d.bound? external = some account) hbound a
      fun _ _ h => bound?_signIn_of_some h hbound)

theorem bound?_attempt (houtage : d.outage = none) {found : SignedIn}
    (hanswer : (d.attempt a).1 = .ok found) :
    (d.attempt a).2.bound? a.external = some found.account := by
  have heffect := attempt_effect houtage a
  rw [hanswer] at heffect
  generalize (d.attempt a).2 = d' at heffect ⊢
  cases heffect with
  | found hbound => exact hbound
  | made hbound hnamed hcreate =>
    rw [bound?_bind, hbound, if_pos rfl]
    rfl

/-- Whoever has signed in is bound to the account that they were given. -/
theorem bound?_of_mem_history (houtage : d.outage = none) {found : SignedIn}
    (hmem : (a, .ok found) ∈ d.history attempts) :
    (d.run attempts).bound? a.external = some found.account := by
  induction attempts generalizing d with
  | nil => cases hmem
  | cons first attempts ih =>
    obtain hfirst | hrest := List.mem_cons.1 hmem
    · rw [Prod.mk.injEq] at hfirst
      obtain ⟨rfl, hanswer⟩ := hfirst
      exact bound?_run_of_some (bound?_attempt houtage hanswer.symm) attempts
    · exact ih (outage_attempt houtage first) hrest

/-- An external id that is bound after a history was bound before it, or signed in in it. -/
theorem mem_history_of_bound? (houtage : d.outage = none)
    (hbound : (d.run attempts).bound? external = some account) :
    d.bound? external = some account ∨ ∃ a found, (a, .ok found) ∈ d.history attempts ∧
      a.external = external ∧ found.account = account := by
  induction attempts generalizing d with
  | nil => exact .inl hbound
  | cons first attempts ih =>
    obtain hnext | ⟨a, found, hmem, ha⟩ := ih (outage_attempt houtage first) hbound
    · have heffect := attempt_effect houtage first
      rw [history]
      generalize (d.attempt first).1 = answer at heffect ⊢
      generalize (d.attempt first).2 = d' at heffect hnext ⊢
      cases heffect with
      | made hunbound hnamed hcreate =>
        rw [bound?_bind] at hnext
        cases hbefore : d.bound? external with
        | some account' =>
          rw [hbefore] at hnext
          exact .inl hnext
        | none =>
          rw [hbefore, Option.none_or, Option.ite_none_right_eq_some] at hnext
          obtain ⟨hexternal, haccount⟩ := hnext
          exact .inr ⟨first, _, List.mem_cons_self, hexternal, Option.some.inj haccount⟩
      | _ => exact .inl hnext
    · exact .inr ⟨a, found, List.mem_cons_of_mem _ hmem, ha⟩

/-- Whoever is bound already is given that account, and not as a new one. -/
theorem eq_of_mem_history (houtage : d.outage = none)
    (hbound : d.bound? a.external = some account) {found : SignedIn}
    (hmem : (a, .ok found) ∈ d.history attempts) : found = ⟨account, false⟩ := by
  induction attempts generalizing d with
  | nil => cases hmem
  | cons first attempts ih =>
    obtain hfirst | hrest := List.mem_cons.1 hmem
    · rw [Prod.mk.injEq] at hfirst
      obtain ⟨rfl, hanswer⟩ := hfirst
      have heffect := attempt_effect houtage a
      rw [← hanswer] at heffect
      generalize (d.attempt a).2 = d' at heffect
      cases heffect with
      | found hbound' => rw [Option.some.inj (hbound'.symm.trans hbound)]
      | made hunbound hnamed hcreate => cases hunbound.symm.trans hbound
    · exact ih (outage_attempt houtage first) (bound?_run_of_some hbound [first]) hrest

/-- What the answers to two attempts, the one after the other, have to do with each other: of one
external id they tell the same account, and of two they tell different ones. -/
def OneAccountEach (x y : Attempt × Except IdentityError SignedIn) : Prop :=
  ∀ first later, x.2 = .ok first → y.2 = .ok later →
    if x.1.external = y.1.external then later = ⟨first.account, false⟩
    else first.account.user ≠ later.account.user ∧
      first.account.username ≠ later.account.username

/-- Of two sign-ins in a history, the later one comes to the account of the earlier one if it has
its external id, and to an account with another id and another name if not. -/
theorem pairwise_history (houtage : d.outage = none) {users : List UserId}
    (hkeyed : (d.run attempts).IsKeyed) (hseparates : (d.run attempts).Separates users) :
    (d.history attempts).Pairwise OneAccountEach := by
  induction attempts generalizing d with
  | nil => exact List.Pairwise.nil
  | cons a attempts ih =>
    refine List.pairwise_cons.2 ⟨?_, ih (outage_attempt houtage a) hkeyed hseparates⟩
    rintro ⟨a', answer⟩ hmem first later hfirst hlater
    have hnext := bound?_attempt houtage hfirst
    obtain rfl : answer = .ok later := hlater
    dsimp only
    by_cases hexternal : a.external = a'.external
    · rw [if_pos hexternal]
      exact eq_of_mem_history (outage_attempt houtage a) (hexternal ▸ hnext) hmem
    · rw [if_neg hexternal]
      have hbound := bound?_run_of_some hnext attempts
      have hbound' := bound?_of_mem_history (outage_attempt houtage a) hmem
      exact ⟨fun h => hexternal ((hseparates.user_eq_iff hbound hbound').1 h),
        fun h => hexternal ((hkeyed.username_eq_iff hbound hbound').1 h)⟩

/-- Whether no attempt of a history has succeeded for the external id of another attempt. -/
def IsFirst (past : List (Attempt × Except IdentityError SignedIn)) (a : Attempt) : Prop :=
  ∀ x ∈ past, x.1.external = a.external → ∃ e, x.2 = .error e

/-- An attempt makes an account exactly if it is the first to succeed for its external id. -/
theorem created_iff_of_attempt {d₀ : Directory} (houtage : d₀.outage = none)
    (hunbound : d₀.bound? a.external = none) {before : List Attempt} {found : SignedIn}
    (hanswer : ((d₀.run before).attempt a).1 = .ok found) :
    found.created = true ↔ IsFirst (d₀.history before) a := by
  have heffect := attempt_effect (outage_run houtage before) a
  rw [hanswer] at heffect
  generalize ((d₀.run before).attempt a).2 = d' at heffect
  cases heffect with
  | found hbound =>
    obtain hbefore | ⟨a', found', hmem, hexternal, -⟩ := mem_history_of_bound? houtage hbound
    · rw [hunbound] at hbefore
      cases hbefore
    · refine iff_of_false Bool.false_ne_true fun hall => ?_
      obtain ⟨e, he⟩ := hall _ hmem hexternal
      cases he
  | made hbound hnamed hcreate =>
    refine iff_of_true rfl fun x hmem hexternal => ?_
    obtain ⟨a', answer⟩ := x
    cases answer with
    | error e => exact ⟨e, rfl⟩
    | ok found' =>
      have hbound' := bound?_of_mem_history houtage hmem
      rw [show a'.external = a.external from hexternal, hbound] at hbound'
      cases hbound'

theorem refused_of_attempt (houtage : d.outage = none) {e : IdentityError}
    (hanswer : (d.attempt a).1 = .error e) : a.IsRefusedWith e := by
  have heffect := attempt_effect houtage a
  rw [hanswer] at heffect
  generalize (d.attempt a).2 = d' at heffect
  cases heffect with
  | unknown hbound hcreate => exact .inl ⟨hcreate, rfl⟩
  | taken hbound hnamed hcreate => exact .inr ⟨hcreate, rfl⟩

end Directory

end PlayerHub
