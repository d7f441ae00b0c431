import PlayerHub.Data.KeyMap
import PlayerHub.Proofs.Account.History
import PlayerHub.Proofs.Perform

namespace PlayerHub

/-- Accounts in three tables. -/
structure AccountTables where
  userOf : KeyMap ExternalId UserId := ∅
  userNamed : KeyMap String UserId := ∅
  accountOf : KeyMap UserId Account := ∅

namespace AccountTables

/-- Signs in with the tables. A new account is written into one table after the other. -/
def signIn (a : Attempt) : ExceptT IdentityError (StateM AccountTables) SignedIn := do
  let t ← get
  match t.userOf.get? a.external with
  | some user =>
    match t.accountOf.get? user with
    | some account => return ⟨account, false⟩
    | none => throw (.unavailable ("dangling binding for " ++ a.external.value))
  | none =>
    if !a.create then throw (.accountNotFound a.external.value)
    else if t.userNamed.contains a.username then throw (.usernameTaken a.username)
    else
      modify fun t => { t with userOf := t.userOf.insert a.external a.fresh }
      modify fun t => { t with userNamed := t.userNamed.insert a.username a.fresh }
      modify fun t => { t with accountOf := t.accountOf.insert a.fresh ⟨a.fresh, a.username⟩ }
      return ⟨⟨a.fresh, a.username⟩, true⟩

/-- The answer to an attempt, and the tables after it. -/
def attempt (t : AccountTables) (a : Attempt) : Except IdentityError SignedIn × AccountTables :=
  signIn a t

/-- The tables after some attempts. -/
def run (t : AccountTables) : List Attempt → AccountTables
  | [] => t
  | a :: attempts => (t.attempt a).2.run attempts

/-- Some attempts, each with the answer of the tables. -/
def history (t : AccountTables) : List Attempt → List (Attempt × Except IdentityError SignedIn)
  | [] => []
  | a :: attempts => (a, (t.attempt a).1) :: (t.attempt a).2.history attempts

/-- The account of a username, by way of its user id. -/
def named? (t : AccountTables) (username : String) : Option Account :=
  (t.userNamed.get? username).bind t.accountOf.get?

/-- The account of a user id. -/
def ofUser? (t : AccountTables) (user : UserId) : Option Account := t.accountOf.get? user

/-- Whether every table finds what the directory finds. -/
structure Represents (t : AccountTables) (d : Directory) : Prop where
  userOf : ∀ external, t.userOf.get? external = (d.bound? external).map (·.user)
  userNamed : ∀ username, t.userNamed.get? username = (d.named? username).map (·.user)
  accountOf : ∀ user, t.accountOf.get? user = d.ofUser? user

variable {t : AccountTables} {d : Directory} {a : Attempt} {account : Account}

theorem attempt_of_found (hexternal : t.userOf.get? a.external = some account.user)
    (huser : t.accountOf.get? account.user = some account) :
    t.attempt a = (.ok ⟨account, false⟩, t) := by
  rw [attempt, signIn, Perform.get_bind]
  simp only [hexternal, huser]
  rfl

theorem attempt_of_unknown (hexternal : t.userOf.get? a.external = none)
    (hcreate : a.create = false) :
    t.attempt a = (.error (.accountNotFound a.external.value), t) := by
  rw [attempt, signIn, Perform.get_bind]
  simp only [hexternal, hcreate]
  rfl

theorem attempt_of_taken (hexternal : t.userOf.get? a.external = none)
    (hcreate : a.create = true) (hnamed : t.userNamed.contains a.username = true) :
    t.attempt a = (.error (.usernameTaken a.username), t) := by
  rw [attempt, signIn, Perform.get_bind]
  simp only [hexternal, hcreate, hnamed]
  rfl

theorem attempt_of_new (hexternal : t.userOf.get? a.external = none)
    (hcreate : a.create = true) (hnamed : t.userNamed.contains a.username = false) :
    t.attempt a = (.ok ⟨⟨a.fresh, a.username⟩, true⟩,
      { userOf := t.userOf.insert a.external a.fresh
        userNamed := t.userNamed.insert a.username a.fresh
        accountOf := t.accountOf.insert a.fresh ⟨a.fresh, a.username⟩ }) := by
  rw [attempt, signIn, Perform.get_bind]
  simp only [hexternal, hcreate, hnamed]
  rfl

end AccountTables

namespace Directory

variable {d : Directory} {users : List UserId} {account : Account}

theorem mem_accounts_of_bound? {external : ExternalId}
    (hbound : d.bound? external = some account) : account ∈ d.accounts := by
  obtain ⟨b, hfind, rfl⟩ := Option.map_eq_some_iff.1 hbound
  exact List.mem_map_of_mem (List.mem_of_find?_eq_some hfind)

theorem mem_accounts_of_named? {username : String}
    (hnamed : d.named? username = some account) : account ∈ d.accounts := by
  obtain ⟨b, hfind, rfl⟩ := Option.map_eq_some_iff.1 hnamed
  exact List.mem_map_of_mem (List.mem_of_find?_eq_some hfind)

theorem username_of_named? {username : String} (hnamed : d.named? username = some account) :
    account.username = username := by
  obtain ⟨b, hfind, rfl⟩ := Option.map_eq_some_iff.1 hnamed
  simpa only [decide_eq_true_eq] using List.find?_some hfind

theorem Separates.ofUser?_of_mem (hseparates : d.Separates users) (hmem : account ∈ d.accounts) :
    d.ofUser? account.user = some account :=
  hseparates.ofUser?_eq_some_iff.2 ⟨hmem, rfl⟩

theorem Separates.ofUser?_eq_none {user : UserId} (hseparates : d.Separates users)
    (hfresh : user ∉ users) : d.ofUser? user = none := by
  rw [Option.eq_none_iff_forall_ne_some]
  intro account hfound
  obtain ⟨hmem, rfl⟩ := hseparates.ofUser?_eq_some_iff.1 hfound
  obtain ⟨b, hb, rfl⟩ := List.mem_map.1 hmem
  exact hfresh (hseparates.known b hb)

theorem ofUser?_bind (external : ExternalId) (user : UserId) :
    (d.bind external account).ofUser? user =
      (d.ofUser? user).or (if account.user = user then some account else none) := by
  rw [ofUser?, bind, List.find?_append, Option.map_or, ofUser?]
  by_cases huser : account.user = user
  · simp [huser]
  · simp [huser]

end Directory

namespace AccountTables

variable {t : AccountTables} {d : Directory} {a : Attempt} {users : List UserId}

theorem represents_empty : ({} : AccountTables).Represents {} where
  userOf := fun _ => rfl
  userNamed := fun _ => rfl
  accountOf := fun _ => rfl

/-- Three writes bind an account in the tables. -/
theorem Represents.bind (h : t.Represents d) (hbound : d.bound? a.external = none)
    (hnamed : d.named? a.username = none) (hfresh : d.ofUser? a.fresh = none) :
    Represents
      { userOf := t.userOf.insert a.external a.fresh
        userNamed := t.userNamed.insert a.username a.fresh
        accountOf := t.accountOf.insert a.fresh ⟨a.fresh, a.username⟩ }
      (d.bind a.external ⟨a.fresh, a.username⟩) where
  userOf external := by
    rw [KeyMap.get?_insert, Directory.bound?_bind, h.userOf]
    by_cases hexternal : external = a.external
    · rw [hexternal, hbound]
      simp
    · simp [hexternal, Ne.symm hexternal]
  userNamed username := by
    rw [KeyMap.get?_insert, Directory.named?_bind, h.userNamed]
    by_cases hname : username = a.username
    · rw [hname, hnamed]
      simp
    · simp [hname, Ne.symm hname]
  accountOf user := by
    rw [KeyMap.get?_insert, Directory.ofUser?_bind, h.accountOf]
    by_cases huser : user = a.fresh
    · rw [huser, hfresh]
      simp
    · simp [huser, Ne.symm huser]

/-- The tables answer an attempt as the directory does, and go on like it. A refused attempt leaves
them as they are. -/
theorem Represents.attempt (h : t.Represents d) (houtage : d.outage = none)
    (hseparates : d.Separates users) (hfresh : a.fresh ∉ users) :
    (t.attempt a).1 = (d.attempt a).1 ∧ (t.attempt a).2.Represents (d.attempt a).2 ∧
      ∀ e, (t.attempt a).1 = .error e → (t.attempt a).2 = t := by
  have heffect := Directory.attempt_effect houtage a
  generalize (d.attempt a).1 = answer at heffect ⊢
  generalize (d.attempt a).2 = d' at heffect ⊢
  cases heffect with
  | found hbound =>
    have hexternal := h.userOf a.external
    rw [hbound, Option.map_some] at hexternal
    have huser := hseparates.ofUser?_of_mem (Directory.mem_accounts_of_bound? hbound)
    rw [← h.accountOf] at huser
    rw [attempt_of_found hexternal huser]
    exact ⟨rfl, h, fun _ _ => rfl⟩
  | made hbound hnamed hcreate =>
    have hexternal := h.userOf a.external
    rw [hbound, Option.map_none] at hexternal
    have hunused : t.userNamed.contains a.username = false := by
      rw [KeyMap.contains, h.userNamed, hnamed]
      rfl
    rw [attempt_of_new hexternal hcreate hunused]
    exact ⟨rfl, h.bind hbound hnamed (hseparates.ofUser?_eq_none hfresh), fun _ he => nomatch he⟩
  | unknown hbound hcreate =>
    have hexternal := h.userOf a.external
    rw [hbound, Option.map_none] at hexternal
    rw [attempt_of_unknown hexternal hcreate]
    exact ⟨rfl, h, fun _ _ => rfl⟩
  | taken hbound hnamed hcreate =>
    have hexternal := h.userOf a.external
    rw [hbound, Option.map_none] at hexternal
    have hused : t.userNamed.contains a.username = true := by
      rw [KeyMap.contains, h.userNamed, hnamed]
      rfl
    rw [attempt_of_taken hexternal hcreate hused]
    exact ⟨rfl, h, fun _ _ => rfl⟩

theorem Represents.run (h : t.Represents d) (houtage : d.outage = none)
    (hseparates : d.Separates users) {attempts : List Attempt}
    (hids : (users ++ attempts.map (·.fresh)).Nodup) :
    (t.run attempts).Represents (d.run attempts) ∧ t.history attempts = d.history attempts := by
  induction attempts generalizing t d users with
  | nil => exact ⟨h, rfl⟩
  | cons a attempts ih =>
    rw [List.map_cons, List.append_cons] at hids
    have hfresh := Directory.not_mem_of_nodup hids
    obtain ⟨hanswer, hnext, -⟩ := h.attempt houtage hseparates hfresh
    obtain ⟨hrun, hhistory⟩ := ih hnext (Directory.outage_attempt houtage a)
      (hseparates.attempt hfresh) hids
    exact ⟨hrun, by rw [history, Directory.history, hanswer, hhistory]⟩

theorem Represents.named? (h : t.Represents d) (hseparates : d.Separates users)
    (username : String) : t.named? username = d.named? username := by
  rw [AccountTables.named?, h.userNamed]
  cases hnamed : d.named? username with
  | none => rfl
  | some account =>
    rw [Option.map_some, Option.bind_some, h.accountOf]
    exact hseparates.ofUser?_of_mem (Directory.mem_accounts_of_named? hnamed)

end AccountTables

namespace Directory

/-- Whatever players try in turn, as long as new accounts get distinct ids: every external id has
one account from its first sign-in on, and no other external id has its user id or its username. A
refused attempt changes nothing. The look-ups find the accounts that have been made, by name and by
id. Three tables that are written one after the other answer all of this alike. -/
theorem one_account_for_each_external {attempts : List Attempt}
    (hids : (attempts.map (·.fresh)).Nodup) :
    let d := run {} attempts
    let t := AccountTables.run {} attempts
    let past := history {} attempts
    let made := past.filterMap fun x => made? x.2
    past.Pairwise OneAccountEach ∧
      (∀ before a after, attempts = before ++ a :: after →
        (∀ found, ((run {} before).attempt a).1 = .ok found →
          (found.created = true ↔ IsFirst (history {} before) a)) ∧
        ∀ e, ((run {} before).attempt a).1 = .error e → a.IsRefusedWith e ∧
          ((run {} before).attempt a).2 = run {} before ∧
          ((AccountTables.run {} before).attempt a).2 = AccountTables.run {} before) ∧
      (∀ username, ∃ found, d.lookUpName username = .ok found ∧
        ∀ account, found = some account ↔ account ∈ made ∧ account.username = username) ∧
      (∀ user, ∃ found, d.lookUpUser user = .ok found ∧
        ∀ account, found = some account ↔ account ∈ made ∧ account.user = user) ∧
      AccountTables.history {} attempts = past ∧
      (∀ username, d.lookUpName username = .ok (t.named? username)) ∧
      ∀ user, d.lookUpUser user = .ok (t.ofUser? user) := by
  intro d t past made
  have houtage : ({} : Directory).outage = none := rfl
  have hkeyed : d.IsKeyed := isKeyed_empty.run attempts
  have hseparates : d.Separates (attempts.map (·.fresh)) := separates_empty.run hids
  have hmade : made = d.accounts := (accounts_run houtage attempts).symm
  obtain ⟨hrepresents, hhistory⟩ :=
    AccountTables.represents_empty.run houtage separates_empty hids
  have hname : ∀ username, d.lookUpName username = .ok (d.named? username) := by
    intro username
    rw [lookUpName, answer, outage_run houtage]
  have huser : ∀ user, d.lookUpUser user = .ok (d.ofUser? user) := by
    intro user
    rw [lookUpUser, answer, outage_run houtage]
  refine ⟨pairwise_history houtage hkeyed hseparates, ?_, ?_, ?_, hhistory, ?_, ?_⟩
  · rintro before a after rfl
    refine ⟨fun found hfound => created_iff_of_attempt houtage rfl hfound, fun e he => ?_⟩
    refine ⟨refused_of_attempt (outage_run houtage before) he, ?_, ?_⟩
    · have heffect := attempt_effect (outage_run houtage before) a
      rw [he] at heffect
      generalize ((run {} before).attempt a).2 = d' at heffect ⊢
      cases heffect with
      | unknown hbound hcreate => rfl
      | taken hbound hnamed hcreate => rfl
    · rw [List.map_append, List.map_cons, List.append_cons] at hids
      obtain ⟨hbefore, -⟩ := AccountTables.represents_empty.run houtage separates_empty
        (hids.of_append_left.of_append_left)
      obtain ⟨hanswer, -, hkept⟩ := hbefore.attempt (a := a) (outage_run houtage before)
        (separates_empty.run hids.of_append_left.of_append_left) (not_mem_of_nodup hids)
      exact hkept e (hanswer.trans he)
  · intro username
    rw [hname, hmade]
    exact ⟨_, rfl, fun account => hkeyed.named?_eq_some_iff⟩
  · intro user
    rw [huser, hmade]
    exact ⟨_, rfl, fun account => hseparates.ofUser?_eq_some_iff⟩
  · intro username
    rw [hname, hrepresents.named? hseparates]
  · intro user
    rw [huser, AccountTables.ofUser?, hrepresents.accountOf]

/-- Eve is refused under Ada's name, and under her own as long as she may not have an account. -/
theorem accounts_of_ada_and_eve :
    let ada : UserId := ⟨List.replicate 32 1, List.length_replicate⟩
    let eve : UserId := ⟨List.replicate 32 2, List.length_replicate⟩
    let unused : Fin 16 → UserId := fun digit => ⟨List.replicate 32 digit, List.length_replicate⟩
    let attempts : List Attempt :=
      [⟨⟨"a"⟩, "ada", true, ada⟩, ⟨⟨"e"⟩, "ada", true, unused 3⟩, ⟨⟨"e"⟩, "eve", false, unused 4⟩,
        ⟨⟨"e"⟩, "eve", true, eve⟩, ⟨⟨"a"⟩, "eve", true, unused 5⟩]
    (attempts.map (·.fresh)).Nodup ∧
      (history {} attempts).map (·.2) =
        [.ok ⟨⟨ada, "ada"⟩, true⟩, .error (.usernameTaken "ada"), .error (.accountNotFound "e"),
          .ok ⟨⟨eve, "eve"⟩, true⟩, .ok ⟨⟨ada, "ada"⟩, false⟩] ∧
      (run {} attempts).lookUpUser eve = .ok (some ⟨eve, "eve"⟩) ∧
      (AccountTables.history {} attempts) = history {} attempts := by
  intro ada eve unused attempts
  have hids : (attempts.map (·.fresh)).Nodup := by decide
  obtain ⟨-, -, -, hfind, htables, -, -⟩ := one_account_for_each_external hids
  obtain ⟨found, hlookUp, hfound⟩ := hfind eve
  have hmade : (⟨eve, "eve"⟩ : Account) ∈
      ((history {} attempts).filterMap fun x => made? x.2) := by decide
  refine ⟨hids, rfl, ?_, htables⟩
  rw [hlookUp, (hfound ⟨eve, "eve"⟩).2 ⟨hmade, rfl⟩]

end Directory

end PlayerHub
