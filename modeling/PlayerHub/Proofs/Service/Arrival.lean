import PlayerHub.Proofs.Platform.Answer
import PlayerHub.Proofs.Service.SignIn

namespace PlayerHub

/-- A player who comes with a login code. -/
structure Arrival where
  platform : Platform
  network : Network
  code : LoginCode
  draws : Server.Draws
  now : Int64

namespace Arrival

/-- What comes of an arrival, and the server after it. -/
@[irreducible] def perform (a : Arrival) (s : Server) : Except ServerError Welcome × Server :=
  (Server.signIn a.platform a.network a.code a.draws a.now).perform s

/-- What the platform gives for the code. -/
def exchange (a : Arrival) (settings : ServerSettings) : Except IdentityError ExternalId :=
  a.platform.exchange (settings.social.platform a.platform) a.network a.code

end Arrival

/-- Whether both tokens are tokens of a user. -/
def Welcome.IsFor (w : Welcome) (user : UserId) : Prop :=
  (Token.claims? w.token).map (·.user) = some user ∧
    (Token.claims? w.refreshToken).map (·.user) = some user

theorem Welcome.isFor_make (settings : SessionSettings) (now : Int64) (fresh : String)
    (user : UserId) (username : String) (created : Bool) :
    (Welcome.ofSession (Sessions.make settings now fresh user username) created).IsFor user := by
  constructor
  · rw [ofSession, Sessions.claims?_token_make]
    rfl
  · rw [ofSession, Sessions.claims?_refreshToken_make]
    rfl

namespace Server

/-- The server after some arrivals. -/
def receive (s : Server) : List Arrival → Server
  | [] => s
  | a :: arrivals => (a.perform s).2.receive arrivals

variable {s : Server} {arrivals : List Arrival}

theorem receive_append (before after : List Arrival) :
    s.receive (before ++ after) = (s.receive before).receive after := by
  induction before generalizing s with
  | nil => rfl
  | cons a before ih => rw [List.cons_append, receive, receive, ih]

theorem settings_receive : (s.receive arrivals).settings = s.settings := by
  induction arrivals generalizing s with
  | nil => rfl
  | cons a arrivals ih => rw [receive, ih, Arrival.perform, settings_signIn]

/-- An arrival changes the accounts only by a sign-in with its own draws. -/
theorem directory_perform (a : Arrival) (s : Server) :
    (a.perform s).2.directory = s.directory ∨
      ∃ external found, s.directory.signIn external a.draws.username true a.draws.user =
        .ok (found, (a.perform s).2.directory) := by
  rw [Arrival.perform]
  obtain hsame | ⟨external, found, -, haccount⟩ := directory_signIn
  · exact .inl hsame
  · exact .inr ⟨external, found, haccount⟩

/-- An account stays bound to its external id. -/
theorem bound?_receive {external : ExternalId} {account : Account}
    (hbound : s.directory.bound? external = some account) :
    (s.receive arrivals).directory.bound? external = some account := by
  induction arrivals generalizing s with
  | nil => exact hbound
  | cons a arrivals ih =>
    rw [receive]
    obtain hsame | ⟨external', found, haccount⟩ := directory_perform a s
    · exact ih (hsame ▸ hbound)
    · exact ih (Directory.bound?_signIn_of_some haccount hbound)

theorem separates_receive {users : List UserId} (hseparates : s.directory.Separates users)
    (hids : (users ++ arrivals.map (·.draws.user)).Nodup) :
    (s.receive arrivals).directory.Separates (users ++ arrivals.map (·.draws.user)) := by
  induction arrivals generalizing s users with
  | nil => exact hseparates.mono (List.subset_append_left _ _)
  | cons a arrivals ih =>
    rw [List.map_cons, List.append_cons] at hids ⊢
    rw [receive]
    refine ih ?_ hids
    obtain hsame | ⟨external, found, haccount⟩ := directory_perform a s
    · rw [hsame]
      exact hseparates.mono (List.subset_append_left _ _)
    · exact hseparates.signIn (Directory.not_mem_of_nodup hids) haccount

/-- A player with an account is welcomed unless the session registry has been closed. -/
theorem perform_of_account {a : Arrival} {external : ExternalId} {found : SignedIn}
    {directory : Directory} (hgate : s.sessions.gate = {})
    (hopen : s.sessions.registry.closed = false)
    (hexchange : a.exchange s.settings = .ok external)
    (haccount : s.directory.signIn external a.draws.username true a.draws.user =
      .ok (found, directory)) :
    let o := Sessions.make s.sessions.settings a.now a.draws.session found.account.user
      found.account.username
    a.perform s = (.ok (.ofSession o found.created), { s with
      directory, sessions := s.sessions.enroll s.settings.session.single o }) := by
  intro o
  rw [Arrival.perform, perform_signIn_of_account hexchange haccount,
    Sessions.perform_issue hgate, if_neg (by rw [hopen]; exact Bool.false_ne_true)]

/-- An arrival that is welcomed leaves the external id bound to the user of the tokens. -/
theorem bound?_of_welcome {a : Arrival} {w : Welcome} (hwelcome : (a.perform s).1 = .ok w) :
    ∃ external account, a.exchange s.settings = .ok external ∧
      (a.perform s).2.directory.bound? external = some account ∧ w.IsFor account.user := by
  rw [Arrival.perform] at hwelcome ⊢
  obtain ⟨external, found, hexchange, haccount, rfl⟩ := signIn_eq_ok hwelcome
  exact ⟨external, found.account, hexchange, Directory.bound?_signIn haccount,
    Welcome.isFor_make _ _ _ _ _ _⟩

/-- Two players who come to a new server in turn are welcomed, whatever ids the platforms give. -/
theorem welcomed_in_turn {openid₁ openid₂ : String} {draws₁ draws₂ : Draws}
    (hopenid₁ : openid₁ ≠ "") (hopenid₂ : openid₂ ≠ "")
    (hname : draws₁.username ≠ draws₂.username) :
    let wechat : Arrival :=
      ⟨.wechat, .answering (Platform.wechat.giving openid₁), ⟨"", none⟩, draws₁, 0⟩
    let tiktok : Arrival :=
      ⟨.tiktok, .answering (Platform.tiktok.giving openid₂), ⟨"", none⟩, draws₂, 0⟩
    let s := start {} {} {} {}
    ∃ w₁ w₂, (wechat.perform s).1 = .ok w₁ ∧ (tiktok.perform (s.receive [wechat])).1 = .ok w₂ ∧
      w₁.IsFor draws₁.user ∧
      w₂.IsFor (if openid₁ = openid₂ then draws₁.user else draws₂.user) := by
  intro wechat tiktok s
  have hwechat : wechat.exchange {} = .ok ⟨openid₁⟩ :=
    Platform.exchange_giving rfl hopenid₁
  have htiktok : tiktok.exchange {} = .ok ⟨openid₂⟩ :=
    Platform.exchange_giving rfl hopenid₂
  have hfirst := perform_of_account (a := wechat) (s := s) rfl rfl hwechat rfl
  have hafter : s.receive [wechat] = (wechat.perform s).2 := rfl
  rw [hfirst] at hafter
  have hdirectory : (s.receive [wechat]).directory =
      Directory.bind {} ⟨openid₁⟩ ⟨draws₁.user, draws₁.username⟩ := by
    rw [hafter]
    rfl
  have haccount : ∃ found directory, (s.receive [wechat]).directory.signIn ⟨openid₂⟩
      draws₂.username true draws₂.user = .ok (found, directory) ∧
        found.account.user = if openid₁ = openid₂ then draws₁.user else draws₂.user := by
    rw [hdirectory]
    by_cases hsame : openid₁ = openid₂
    · have hbound : (Directory.bind {} ⟨openid₁⟩ ⟨draws₁.user, draws₁.username⟩).bound?
          ⟨openid₂⟩ = some ⟨draws₁.user, draws₁.username⟩ := by
        rw [Directory.bound?_bind, hsame, if_pos rfl]
        rfl
      exact ⟨_, _, Directory.signIn_of_bound rfl hbound, (if_pos hsame).symm⟩
    · have hbound : (Directory.bind {} ⟨openid₁⟩ ⟨draws₁.user, draws₁.username⟩).bound?
          ⟨openid₂⟩ = none := by
        rw [Directory.bound?_bind, if_neg (fun h => hsame (congrArg ExternalId.value h))]
        rfl
      have hnamed : (Directory.bind {} ⟨openid₁⟩ ⟨draws₁.user, draws₁.username⟩).named?
          draws₂.username = none := by
        rw [Directory.named?_bind, if_neg hname]
        rfl
      exact ⟨_, _, Directory.signIn_of_unbound rfl hbound hnamed, (if_neg hsame).symm⟩
  obtain ⟨found, directory, haccount, huser⟩ := haccount
  have hsecond := perform_of_account (a := tiktok) (s := s.receive [wechat])
    (by rw [hafter]; rfl) (by rw [hafter]; rfl) (by rw [hafter]; exact htiktok) haccount
  rw [← huser]
  exact ⟨_, _, congrArg Prod.fst hfirst, congrArg Prod.fst hsecond,
    Welcome.isFor_make _ _ _ _ _ _, Welcome.isFor_make _ _ _ _ _ _⟩

/-- Two players who sign in at different times, through any platforms, are different users exactly
if the ids that the platforms gave for their codes are different. -/
theorem users_ne_iff_externals_ne {settings : ServerSettings} {supplies : Supplies}
    {store : Store} {before between : List Arrival} {first second : Arrival} {w₁ w₂ : Welcome}
    (hids : ((before ++ first :: (between ++ [second])).map (·.draws.user)).Nodup)
    (hfirst : (first.perform ((start settings supplies store {}).receive before)).1 = .ok w₁)
    (hsecond : (second.perform
      ((start settings supplies store {}).receive (before ++ first :: between))).1 = .ok w₂) :
    ∃ user₁ user₂ external₁ external₂, w₁.IsFor user₁ ∧ w₂.IsFor user₂ ∧
      first.exchange settings = .ok external₁ ∧ second.exchange settings = .ok external₂ ∧
      (user₁ ≠ user₂ ↔ external₁ ≠ external₂) := by
  obtain ⟨external₁, account₁, hexchange₁, hbound₁, hfor₁⟩ := bound?_of_welcome hfirst
  obtain ⟨external₂, account₂, hexchange₂, hbound₂, hfor₂⟩ := bound?_of_welcome hsecond
  rw [settings_receive] at hexchange₁ hexchange₂
  have hlast : (start settings supplies store {}).receive
      (before ++ first :: (between ++ [second])) =
        (second.perform ((start settings supplies store {}).receive
          (before ++ first :: between))).2 := by
    rw [← List.cons_append, ← List.append_assoc, receive_append]
    rfl
  have hbetween : (start settings supplies store {}).receive
      (before ++ first :: (between ++ [second])) =
        (first.perform ((start settings supplies store {}).receive before)).2.receive
          (between ++ [second]) := receive_append _ _
  have hseparates := separates_receive (s := start settings supplies store {})
    Directory.separates_empty hids
  have hkept₁ : ((start settings supplies store {}).receive
      (before ++ first :: (between ++ [second]))).directory.bound? external₁ = some account₁ := by
    rw [hbetween]
    exact bound?_receive hbound₁
  rw [← hlast] at hbound₂
  exact ⟨account₁.user, account₂.user, external₁, external₂, hfor₁, hfor₂, hexchange₁,
    hexchange₂, not_congr (hseparates.user_eq_iff hkept₁ hbound₂)⟩

/-- Two platforms that give different ids sign two users in. -/
theorem two_users_on_two_platforms :
    let ada : Draws := ⟨⟨List.replicate 32 1, List.length_replicate⟩, "ada", "a"⟩
    let eve : Draws := ⟨⟨List.replicate 32 2, List.length_replicate⟩, "eve", "b"⟩
    let wechat : Arrival := ⟨.wechat, .answering (Platform.wechat.giving "o"), ⟨"", none⟩, ada, 0⟩
    let tiktok : Arrival := ⟨.tiktok, .answering (Platform.tiktok.giving "p"), ⟨"", none⟩, eve, 0⟩
    let s := start {} {} {} {}
    ∃ w₁ w₂ user₁ user₂, (wechat.perform s).1 = .ok w₁ ∧
      (tiktok.perform (s.receive [wechat])).1 = .ok w₂ ∧ w₁.IsFor user₁ ∧ w₂.IsFor user₂ ∧
      user₁ ≠ user₂ := by
  intro ada eve wechat tiktok s
  obtain ⟨w₁, w₂, hfirst, hsecond, -, -⟩ :=
    welcomed_in_turn (by decide : "o" ≠ "") (by decide : "p" ≠ "")
      (by decide : ada.username ≠ eve.username)
  obtain ⟨user₁, user₂, external₁, external₂, hfor₁, hfor₂, hexchange₁, hexchange₂, hne⟩ :=
    @users_ne_iff_externals_ne {} {} {} [] [] wechat tiktok w₁ w₂ (by decide) hfirst hsecond
  have hwechat : wechat.exchange {} = .ok ⟨"o"⟩ := Platform.exchange_giving rfl (by decide)
  have htiktok : tiktok.exchange {} = .ok ⟨"p"⟩ := Platform.exchange_giving rfl (by decide)
  cases hwechat.symm.trans hexchange₁
  cases htiktok.symm.trans hexchange₂
  exact ⟨w₁, w₂, user₁, user₂, hfirst, hsecond, hfor₁, hfor₂, hne.2 (by decide)⟩

/-- Two platforms that give the same id sign one user in. -/
theorem one_user_on_two_platforms :
    let ada : Draws := ⟨⟨List.replicate 32 1, List.length_replicate⟩, "ada", "a"⟩
    let eve : Draws := ⟨⟨List.replicate 32 2, List.length_replicate⟩, "eve", "b"⟩
    let wechat : Arrival := ⟨.wechat, .answering (Platform.wechat.giving "o"), ⟨"", none⟩, ada, 0⟩
    let tiktok : Arrival := ⟨.tiktok, .answering (Platform.tiktok.giving "o"), ⟨"", none⟩, eve, 0⟩
    let s := start {} {} {} {}
    ∃ w₁ w₂, (wechat.perform s).1 = .ok w₁ ∧ (tiktok.perform (s.receive [wechat])).1 = .ok w₂ ∧
      w₁.IsFor ada.user ∧ w₂.IsFor ada.user := by
  intro ada eve wechat tiktok s
  obtain ⟨w₁, w₂, hfirst, hsecond, hfor₁, hfor₂⟩ :=
    welcomed_in_turn (by decide : "o" ≠ "") (by decide : "o" ≠ "")
      (by decide : ada.username ≠ eve.username)
  exact ⟨w₁, w₂, hfirst, hsecond, hfor₁, hfor₂⟩

end Server

end PlayerHub
