import Mathlib.Data.List.Induction
import PlayerHub.Proofs.Account.Tables
import PlayerHub.Proofs.Service.SoleSession

namespace PlayerHub

/-- Whether a text is one of the two tokens that a player has been given. -/
def Welcome.Gives (w : Welcome) (token : String) : Prop :=
  token = w.token ∨ token = w.refreshToken

/-- Whether both tokens tell of an account, by its id and by its name. -/
def Welcome.IsOf (w : Welcome) (account : Account) : Prop :=
  ∀ token, w.Gives token → ∃ c, Token.claims? token = some c ∧
    (⟨c.user, c.username⟩ : Account) = account

theorem Welcome.isOf_make (settings : SessionSettings) (now : Int64) (fresh : String)
    (account : Account) (created : Bool) :
    (Welcome.ofSession (Sessions.make settings now fresh account.user account.username)
      created).IsOf account := by
  rintro token (rfl | rfl)
  · exact ⟨_, Sessions.claims?_token_make settings now fresh account.user account.username, rfl⟩
  · exact ⟨_, Sessions.claims?_refreshToken_make settings now fresh account.user
      account.username, rfl⟩

/-- The id that a call may give to a new account. -/
def ServerCall.fresh? : ServerCall → Option UserId
  | .signIn a => some a.draws.user
  | _ => none

namespace Server

variable {s : Server} {a : Arrival} {w : Welcome} {c : ServerCall} {calls : List ServerCall}
  {external : ExternalId} {account : Account}

theorem run_append (before after : List ServerCall) :
    s.run (before ++ after) = (s.run before).run after := by
  induction before generalizing s with
  | nil => rfl
  | cons c before ih => exact ih

theorem welcomes_append (before after : List ServerCall) :
    s.welcomes (before ++ after) = s.welcomes before ++ (s.run before).welcomes after := by
  induction before generalizing s with
  | nil => rfl
  | cons c before ih => rw [List.cons_append, welcomes, ih, welcomes, List.append_assoc, run]

theorem settings_run : (s.run calls).settings = s.settings := by
  induction calls generalizing s with
  | nil => rfl
  | cons c calls ih => exact ih.trans (settings_next c)

theorem next_refresh (fresh : String) (now : Int64) (token : String) :
    (ServerCall.refresh fresh now token).next s = ((refresh fresh now token).perform s).2 :=
  rfl

/-- A call changes the accounts only by a sign-in with the id that it brings. -/
theorem directory_next (c : ServerCall) :
    (c.next s).directory = s.directory ∨ ∃ external username found fresh, c.fresh? = some fresh ∧
      s.directory.signIn external username true fresh = .ok (found, (c.next s).directory) := by
  cases c with
  | signIn a =>
    obtain hsame | ⟨external, found, haccount⟩ := directory_perform a s
    · exact .inl hsame
    · exact .inr ⟨external, a.draws.username, found, a.draws.user, rfl, haccount⟩
  | refresh fresh now token =>
    rw [next_refresh, perform_refresh]
    split
    · exact .inl rfl
    · exact .inl rfl
  | second now =>
    have hnext : (ServerCall.second now).next s = s.second now := rfl
    rw [hnext, second]
    split
    · exact .inl rfl
    · exact .inl rfl
  | verify now token => exact .inl rfl
  | logout p => exact .inl rfl
  | ban users => exact .inl rfl
  | sweep time => exact .inl rfl
  | shutdown => exact .inl rfl

/-- What every sign-in keeps of the accounts, every run keeps. -/
theorem directory_run {p : Directory → Prop} (hp : p s.directory)
    (hsignIn : ∀ d external username fresh found d',
      d.signIn external username true fresh = .ok (found, d') → p d → p d')
    (calls : List ServerCall) : p (s.run calls).directory := by
  induction calls generalizing s with
  | nil => exact hp
  | cons c calls ih =>
    obtain hsame | ⟨external, username, found, fresh, -, haccount⟩ := directory_next (s := s) c
    · exact ih (hsame ▸ hp)
    · exact ih (hsignIn _ _ _ _ _ _ haccount hp)

theorem bound?_run (hbound : s.directory.bound? external = some account)
    (calls : List ServerCall) : (s.run calls).directory.bound? external = some account :=
  directory_run (p := fun d => d.bound? external = some account) hbound
    (fun _ _ _ _ _ _ hsignIn => Directory.bound?_signIn_of_some hsignIn) calls

theorem isKeyed_run (hkeyed : s.directory.IsKeyed) (calls : List ServerCall) :
    (s.run calls).directory.IsKeyed :=
  directory_run hkeyed (fun _ _ _ _ _ _ hsignIn hd => hd.signIn hsignIn) calls

theorem outage_run (houtage : s.directory.outage = none) (calls : List ServerCall) :
    (s.run calls).directory.outage = none := by
  refine directory_run (p := fun d => d.outage = none) houtage ?_ calls
  intro d external username fresh found d' hsignIn hd
  obtain ⟨-, -, -, rfl⟩ | ⟨-, -, -, -, rfl⟩ := Directory.signIn_eq_ok hsignIn
  · exact hd
  · exact hd

theorem separates_run {users : List UserId} (hseparates : s.directory.Separates users)
    (hids : (users ++ calls.filterMap (·.fresh?)).Nodup) :
    (s.run calls).directory.Separates (users ++ calls.filterMap (·.fresh?)) := by
  induction calls generalizing s users with
  | nil => exact hseparates.mono (List.subset_append_left _ _)
  | cons c calls ih =>
    obtain hsame | ⟨external, username, found, fresh, hfresh, haccount⟩ :=
      directory_next (s := s) c
    · have hnext := hsame.symm ▸ hseparates
      cases hc : c.fresh? with
      | none =>
        rw [List.filterMap_cons_none hc] at hids ⊢
        exact ih hnext hids
      | some fresh =>
        rw [List.filterMap_cons_some hc, List.append_cons] at hids ⊢
        exact ih (hnext.mono (List.subset_append_left _ _)) hids
    · rw [List.filterMap_cons_some hfresh, List.append_cons] at hids ⊢
      exact ih (hseparates.signIn (Directory.not_mem_of_nodup hids) haccount) hids

/-- Whether the last call of a run gives tokens that come from the sign-in of an arrival, which is
called after `before`: at once, or by renewing tokens that do. -/
inductive Lineage (s : Server) (before : List ServerCall) (a : Arrival) :
    List ServerCall → Welcome → Prop
  | signIn {w : Welcome} (hwelcome : (ServerCall.signIn a).welcome? (s.run before) = some w) :
      Lineage s before a (before ++ [.signIn a]) w
  | refresh {given between : List ServerCall} {w w' : Welcome} {fresh : String} {now : Int64}
      {token : String} (hlineage : Lineage s before a given w) (htoken : w.Gives token)
      (hwelcome : (ServerCall.refresh fresh now token).welcome? (s.run (given ++ between)) =
        some w') :
      Lineage s before a (given ++ between ++ [.refresh fresh now token]) w'

theorem welcome?_eq_some {result : Except ServerError Welcome}
    (hanswer : c.answer s = .welcomed result) (hwelcome : c.welcome? s = some w) :
    result = .ok w := by
  rw [ServerCall.welcome?, hanswer] at hwelcome
  cases result with
  | ok w' => rw [Option.some.inj hwelcome]
  | error e => cases hwelcome

/-- Tokens that are renewed tell of the account of which the token told that was shown. -/
theorem refresh_eq_ok {fresh token : String} {now : Int64} (hgate : s.sessions.gate = {})
    (hrefresh : ((refresh fresh now token).perform s).1 = .ok w) :
    ∃ claims, Token.claims? token = some claims ∧
      w = .ofSession (Sessions.make s.sessions.settings now fresh claims.user claims.username)
        false := by
  rw [perform_refresh] at hrefresh
  cases hrenew : s.sessions.renewable? now token with
  | none =>
    obtain ⟨e, hperform⟩ := Sessions.perform_refresh_of_not_renewable hrenew fresh
    rw [hperform] at hrefresh
    cases hrefresh
  | some claims =>
    obtain ⟨hcheck, -⟩ := Sessions.renewable?_eq_some_iff.1 hrenew
    refine ⟨claims, Token.claims?_of_check hcheck, ?_⟩
    rw [Sessions.perform_refresh_of_renewable hgate hrenew] at hrefresh
    split at hrefresh
    · rename_i o sessions hissue
      cases hrefresh
      rw [Sessions.eq_make_of_issue hissue]
      rfl
    · cases hrefresh

/-- The refresh token of a session that is on record renews the tokens. -/
theorem perform_refresh_of_registered {now issued : Int64} {id : String} {user : UserId}
    {username : String} {o : OpenedSession} (hgate : s.sessions.gate = {})
    (hopen : s.sessions.registry.closed = false)
    (ho : o = Sessions.make s.sessions.settings issued id user username)
    (hrefresh : 0 ≤ o.refreshExpiry) (htime : now ≤ o.refreshExpiry)
    (hid : s.sessions.registry.expiry? .refresh o.user o.session = some o.refreshExpiry)
    (fresh : String) :
    let left := s.sessions.without ⟨o.session, o.user, username, o.issuedAt, o.refreshExpiry⟩
    let renewed := Sessions.make s.sessions.settings now fresh o.user username
    (refresh fresh now o.refreshToken).perform s = (.ok (.ofSession renewed false),
      { s with sessions := left.enroll s.sessions.settings.single renewed }) := by
  intro left renewed
  have hrenew := Sessions.renewable?_token_make ho hrefresh htime hid
  have hstill : ¬ left.registry.closed = true := by
    rw [Sessions.closed_without, hopen]
    exact Bool.false_ne_true
  have hissue := Sessions.perform_issue (s := left) hgate now fresh o.user username
    s.sessions.settings.single
  rw [if_neg hstill] at hissue
  rw [perform_refresh, Sessions.perform_refresh_of_renewable hgate hrenew, hissue]
  rfl

theorem welcome?_refresh {s' : Server} {fresh token : String} {now : Int64}
    (hperform : (refresh fresh now token).perform s = (.ok w, s')) :
    (ServerCall.refresh fresh now token).welcome? s = some w := by
  have hanswer : (ServerCall.refresh fresh now token).answer s =
      .welcomed ((refresh fresh now token).perform s).1 := rfl
  rw [ServerCall.welcome?, hanswer, hperform]

theorem welcome?_signIn {s' : Server} (hperform : a.perform s = (.ok w, s')) :
    (ServerCall.signIn a).welcome? s = some w := by
  have hanswer : (ServerCall.signIn a).answer s = .welcomed (a.perform s).1 := rfl
  rw [ServerCall.welcome?, hanswer, hperform]

/-- However often tokens have been renewed, they tell of the account to which the sign-in has bound
the external id that the platform gave. -/
theorem Lineage.isOf {before given : List ServerCall} (hlineage : s.Lineage before a given w)
    (hsettled : s.IsSettled) :
    ∃ external account later, given = before ++ [.signIn a] ++ later ∧
      a.exchange s.settings = .ok external ∧
      (s.run (before ++ [.signIn a])).directory.bound? external = some account ∧
      w.IsOf account := by
  induction hlineage with
  | signIn hwelcome =>
    have hsignIn := welcome?_eq_some rfl hwelcome
    rw [Arrival.perform] at hsignIn
    obtain ⟨external, found, hexchange, haccount, rfl⟩ := signIn_eq_ok hsignIn
    refine ⟨external, found.account, [], by rw [List.append_nil], ?_, ?_,
      Welcome.isOf_make _ _ _ _ _⟩
    · rw [Arrival.exchange, ← @settings_run s before, hexchange]
    · have hnext : (ServerCall.signIn a).next (s.run before) = (a.perform (s.run before)).2 := rfl
      rw [run_append, run, run, hnext, Arrival.perform]
      exact Directory.bound?_signIn haccount
  | refresh hlineage htoken hwelcome ih =>
    rename_i given between w w' fresh now token
    obtain ⟨external, account, later, rfl, hexchange, hbound, hof⟩ := ih
    have hrefresh := welcome?_eq_some rfl hwelcome
    obtain ⟨claims, hclaims, rfl⟩ := refresh_eq_ok (hsettled.run _).gate hrefresh
    obtain ⟨claims', hclaims', rfl⟩ := hof token htoken
    cases hclaims.symm.trans hclaims'
    refine ⟨external, _, later ++ between ++ [.refresh fresh now token], ?_, hexchange, hbound,
      Welcome.isOf_make _ _ _ ⟨claims.user, claims.username⟩ _⟩
    simp only [List.append_assoc]

/-- Whether tokens are only ever renewed for a token that has been given to a player before. -/
def RenewsGiven (s : Server) (calls : List ServerCall) : Prop :=
  ∀ before fresh now token after w, calls = before ++ .refresh fresh now token :: after →
    (ServerCall.refresh fresh now token).welcome? (s.run before) = some w →
      ∃ w' ∈ s.welcomes before, w'.Gives token

theorem renewsGiven_of_signIn {s' : Server} {token : String} (hperform : a.perform s = (.ok w, s'))
    (htoken : w.Gives token) (fresh : String) (now : Int64) :
    s.RenewsGiven [.signIn a, .refresh fresh now token] := by
  intro before fresh' now' token' after w' hcalls _
  obtain _ | ⟨c, _ | ⟨c', rest⟩⟩ := before
  · have hhead := (List.cons.inj hcalls).1
    cases hhead
  · obtain ⟨rfl, htail⟩ := List.cons.inj hcalls
    obtain ⟨-, -, rfl⟩ := ServerCall.refresh.inj (List.cons.inj htail).1
    refine ⟨w, ?_, htoken⟩
    rw [welcomes, welcome?_signIn hperform]
    exact List.mem_cons_self
  · have hlength := congrArg List.length hcalls
    simp only [List.length_append, List.length_cons, List.length_nil] at hlength
    omega

/-- Tokens that are renewed any number of times go back to a sign-in, by induction on the run: every
renewal shows a token that was given before. -/
theorem exists_lineage (hgiven : s.RenewsGiven calls) (hmem : w ∈ s.welcomes calls) :
    ∃ before a given later, calls = given ++ later ∧ s.Lineage before a given w := by
  -- The last call has welcomed the player, or the tokens were given before it.
  induction calls using List.reverseRecOn generalizing w with
  | nil => cases hmem
  | append_singleton calls c ih =>
    have hearlier : s.RenewsGiven calls := by
      rintro before fresh now token after w' rfl hwelcome
      exact hgiven before fresh now token (after ++ [c]) w' (by rw [List.append_assoc]; rfl)
        hwelcome
    rw [welcomes_append, List.mem_append, welcomes, welcomes, List.append_nil,
      Option.mem_toList] at hmem
    obtain hbefore | hlast := hmem
    · obtain ⟨before, a, given, later, rfl, hlineage⟩ := ih hearlier hbefore
      exact ⟨before, a, given, later ++ [c], List.append_assoc _ _ _, hlineage⟩
    · cases c with
      | signIn a => exact ⟨calls, a, _, [], (List.append_nil _).symm, .signIn hlast⟩
      | refresh fresh now token =>
        obtain ⟨w', hmem', htoken⟩ := hgiven calls fresh now token [] w rfl hlast
        obtain ⟨before, a, given, between, rfl, hlineage⟩ := ih hearlier hmem'
        exact ⟨before, a, _, [], (List.append_nil _).symm, .refresh hlineage htoken hlast⟩
      | verify now token => cases hlast
      | logout p => cases hlast
      | ban users => cases hlast
      | sweep time => cases hlast
      | second now => cases hlast
      | shutdown => cases hlast

/-- A player who is verified is told by what the session registry has on record. -/
theorem verify_eq_ok {now : Int64} {token : String} {p : Player}
    (hverify : s.verify now token = .ok p) :
    ∃ claims, Token.claims? token = some claims ∧ p = .ofClaims claims ∧
      (s.sessions.registry.sessionsOf p.user).access.get? p.session = some p.expiresAt := by
  rw [verify] at hverify
  split at hverify
  · rename_i claims haccepted
    cases hverify
    obtain ⟨hcheck, hvalid⟩ := Sessions.verify_eq_ok_iff.1 haccepted
    obtain ⟨hid, -⟩ := (Registry.isValidAccess_iff _).1 hvalid
    exact ⟨claims, Token.claims?_of_check hcheck, rfl, hid⟩
  · cases hverify

/-- A player who is verified with tokens that go back to a sign-in, by any number of renewals, is
found by id and by name, and either way it is the account of that sign-in. The session and its
expiry are the ones on record. All tokens of a run go back to a sign-in if only tokens that have
been given to players are renewed. -/
theorem verified_player_is_of_account {settings : ServerSettings} {supplies : Supplies}
    {store : Store} {attempts : List Attempt} {calls : List ServerCall}
    (hids : (attempts.map (·.fresh) ++ calls.filterMap (·.fresh?)).Nodup) :
    let s := start settings supplies store (Directory.run {} attempts)
    let s' := s.run calls
    (∀ before a given later w now p, calls = given ++ later → s.Lineage before a given w →
      s'.verify now w.token = .ok p →
        ∃ external account, a.exchange settings = .ok external ∧
          (s.run (before ++ [.signIn a])).directory.bound? external = some account ∧
          s'.directory.lookUpUser p.user = .ok (some account) ∧
          s'.directory.lookUpName p.username = .ok (some account) ∧
          (s'.sessions.registry.sessionsOf p.user).access.get? p.session = some p.expiresAt) ∧
      (s.RenewsGiven calls → ∀ w ∈ s.welcomes calls,
        ∃ before a given later, calls = given ++ later ∧ s.Lineage before a given w) := by
  intro s s'
  refine ⟨?_, fun hgiven w => exists_lineage hgiven⟩
  intro before a given later w now p hcalls hlineage hverify
  obtain ⟨external, account, between, rfl, hexchange, hbound, hof⟩ :=
    hlineage.isOf (isSettled_start _ _ _ _)
  obtain ⟨claims, hclaims, rfl, hrecord⟩ := verify_eq_ok hverify
  obtain ⟨claims', hclaims', rfl⟩ := hof w.token (.inl rfl)
  cases hclaims.symm.trans hclaims'
  have hkept : s'.directory.bound? external = some ⟨claims.user, claims.username⟩ := by
    rw [show s' = s.run (before ++ [.signIn a] ++ (between ++ later)) by
      rw [← List.append_assoc, ← hcalls], run_append]
    exact bound?_run hbound _
  have hmem := Directory.mem_accounts_of_bound? hkept
  have houtage : s'.directory.outage = none :=
    outage_run (Directory.outage_run rfl attempts) calls
  have hkeyed : s'.directory.IsKeyed := isKeyed_run (Directory.isKeyed_empty.run attempts) calls
  have hseparates : s'.directory.Separates _ :=
    separates_run (Directory.separates_empty.run hids.of_append_left) hids
  refine ⟨external, _, hexchange, hbound, ?_, ?_, hrecord⟩
  · rw [Directory.lookUpUser, Directory.answer, houtage]
    exact congrArg Except.ok (hseparates.ofUser?_of_mem hmem)
  · rw [Directory.lookUpName, Directory.answer, houtage]
    exact congrArg Except.ok (hkeyed.named?_eq_some_iff.2 ⟨hmem, rfl⟩)

/-- Ada has renewed her tokens, and is still Ada. -/
theorem ada_is_found_after_renewal :
    let ada : Account := ⟨⟨List.replicate 32 1, List.length_replicate⟩, "ada"⟩
    let a : Arrival := ⟨.wechat, .answering (Platform.wechat.giving "o"), ⟨"", none⟩,
      ⟨ada.user, "ada", "a"⟩, 100⟩
    let first := Sessions.make {} 100 "a" ada.user "ada"
    let second := Sessions.make {} 200 "b" ada.user "ada"
    let calls : List ServerCall := [.signIn a, .refresh "b" 200 first.refreshToken]
    let s := start {} {} {} {}
    s.RenewsGiven calls ∧ s.Lineage [] a calls (.ofSession second false) ∧
      ∃ p, (s.run calls).verify 300 second.token = .ok p ∧
        (s.run calls).directory.lookUpUser p.user = .ok (some ada) ∧
        (s.run calls).directory.lookUpName p.username = .ok (some ada) := by
  intro ada a first second calls s
  have hexchange : a.exchange {} = .ok ⟨"o"⟩ :=
    Platform.exchange_giving rfl (by decide)
  have hsignIn := perform_of_account (a := a) (s := s) rfl rfl hexchange rfl
  have hfirst : s.run [.signIn a] = (a.perform s).2 := rfl
  have hrefresh := @perform_refresh_of_registered (s.run [.signIn a]) 200 100 "a" ada.user "ada"
    first (by rw [hfirst, hsignIn]; rfl) (by rw [hfirst, hsignIn]; rfl)
    (by rw [hfirst, hsignIn]; rfl) (by decide) (by decide) (by rw [hfirst, hsignIn]; decide) "b"
  have hlineage : s.Lineage [] a calls (.ofSession second false) := by
    have hrenewed := welcome?_refresh hrefresh
    have hsettings : (s.run [.signIn a]).sessions.settings = {} := by
      rw [hfirst, hsignIn]
      rfl
    rw [hsettings] at hrenewed
    have hfrom : s.Lineage [] a [.signIn a] (.ofSession first true) :=
      .signIn (welcome?_signIn hsignIn)
    exact .refresh hfrom (.inr rfl)
      (by rw [List.append_nil]; exact hrenewed)
  have hrun : s.run calls = (ServerCall.refresh "b" 200 first.refreshToken).next
      (s.run [.signIn a]) := run_append [.signIn a] [.refresh "b" 200 first.refreshToken]
  rw [next_refresh, hrefresh] at hrun
  dsimp only at hrun
  rw [hfirst, hsignIn] at hrun
  have hmade : second = Sessions.make (s.run calls).sessions.settings 200 "b" ada.user "ada" := by
    rw [hrun]
    rfl
  have hverify : (s.run calls).verify 300 second.token = .ok ⟨ada.user, "ada", "b", 3800⟩ := by
    have haccepted : (s.run calls).sessions.verify 300 second.token =
        .ok ⟨"b", ada.user, "ada", 200, 3800⟩ := by
      rw [Sessions.verify_token_make hmade (by decide), if_neg (by decide), if_pos]
      · rfl
      · rw [hrun]
        decide
    rw [verify, haccepted]
    rfl
  have hclaim := (@verified_player_is_of_account {} {} {} [] calls (by decide)).1
  obtain ⟨external, account, hexternal, hbound, huser, hname, -⟩ :=
    hclaim [] a calls [] _ 300 _ (List.append_nil _).symm hlineage hverify
  obtain rfl : (⟨"o"⟩ : ExternalId) = external := Except.ok.inj (hexchange.symm.trans hexternal)
  have hada : (s.run [.signIn a]).directory.bound? ⟨"o"⟩ = some ada := by
    rw [hfirst, hsignIn]
    decide
  obtain rfl := Option.some.inj (hada.symm.trans hbound)
  exact ⟨renewsGiven_of_signIn hsignIn (.inr rfl) _ _, hlineage, _, hverify, huser, hname⟩

end Server

end PlayerHub
