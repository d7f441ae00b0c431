import PlayerHub.Proofs.Service.Lineage
import PlayerHub.Proofs.Service.PlayerCall

namespace PlayerHub

/-- Something that happens to the game: a call, or a new server over the same accounts and
documents. -/
inductive ServerEvent where
  | call (c : ServerCall)
  | act (p : Player) (c : PlayerCall)
  | restart (settings : ServerSettings) (supplies : Supplies)

/-- The server after an event. -/
def ServerEvent.next (s : Server) : ServerEvent → Server
  | call c => c.next s
  | act p c => (c.perform p s).2
  | restart settings supplies => Server.start settings supplies s.store s.directory

/-- Whether an arrival is to get an account, but no session. -/
structure Arrival.Strands (a : Arrival) (s : Server) (external : ExternalId) : Prop where
  closed : s.sessions.registry.closed = true
  exchange_eq : a.exchange s.settings = .ok external
  outage : s.directory.outage = none
  unbound : s.directory.bound? external = none
  unnamed : s.directory.named? a.draws.username = none

/-- Whether an event is a sign-in that makes or finds the account of an external id: the player is
welcomed, or stranded with a new account. -/
def ServerEvent.Reaches (s : Server) (external : ExternalId) : ServerEvent → Prop
  | call (.signIn a) => a.exchange s.settings = .ok external ∧
      ((∃ w, (a.perform s).1 = .ok w) ∨ a.Strands s external)
  | _ => False

namespace Server

variable {s : Server} {a : Arrival} {external : ExternalId}

/-- The server after some events. -/
def through (s : Server) : List ServerEvent → Server
  | [] => s
  | e :: events => (e.next s).through events

/-- Whether one of some events reaches the account of an external id. -/
def Reaches (s : Server) (external : ExternalId) : List ServerEvent → Prop
  | [] => False
  | e :: events => e.Reaches s external ∨ (e.next s).Reaches external events

/-- Where the sessions are closed, a player with an account is not welcomed. -/
theorem perform_of_closed {found : SignedIn} {directory : Directory} (hgate : s.sessions.gate = {})
    (hclosed : s.sessions.registry.closed = true) (hexchange : a.exchange s.settings = .ok external)
    (haccount : s.directory.signIn external a.draws.username true a.draws.user =
      .ok (found, directory)) :
    a.perform s = (.error (.session Registry.closedError), { s with directory }) := by
  rw [Arrival.perform, perform_signIn_of_account hexchange haccount,
    Sessions.perform_issue hgate, if_pos hclosed]

theorem perform_of_strands (hgate : s.sessions.gate = {}) (hstrands : a.Strands s external) :
    a.perform s = (.error (.session Registry.closedError),
      { s with directory := s.directory.bind external ⟨a.draws.user, a.draws.username⟩ }) :=
  perform_of_closed hgate hstrands.closed hstrands.exchange_eq
    (Directory.signIn_of_unbound hstrands.outage hstrands.unbound hstrands.unnamed)

/-- A sign-in fails before it gets to an account, or it comes to one and the sessions are closed, or
the player is welcomed. -/
theorem perform_cases (hgate : s.sessions.gate = {}) (a : Arrival) :
    (∃ e, a.perform s = (.error (.identity e), s)) ∨
      ∃ external found directory, a.exchange s.settings = .ok external ∧
        s.directory.signIn external a.draws.username true a.draws.user = .ok (found, directory) ∧
          ((s.sessions.registry.closed = true ∧
              a.perform s = (.error (.session Registry.closedError), { s with directory })) ∨
            ∃ w sessions, w.created = found.created ∧
              a.perform s = (.ok w, { s with directory, sessions })) := by
  cases hexchange : a.exchange s.settings with
  | error e =>
    rw [Arrival.perform, perform_signIn_of_no_exchange hexchange]
    exact .inl ⟨e, rfl⟩
  | ok external =>
    cases haccount : s.directory.signIn external a.draws.username true a.draws.user with
    | error e =>
      rw [Arrival.perform, perform_signIn_of_no_account hexchange haccount]
      exact .inl ⟨e, rfl⟩
    | ok result =>
      obtain ⟨found, directory⟩ := result
      refine .inr ⟨external, found, directory, rfl, haccount, ?_⟩
      cases hclosed : s.sessions.registry.closed with
      | true => exact .inl ⟨rfl, perform_of_closed hgate hclosed hexchange haccount⟩
      | false => exact .inr ⟨_, _, rfl, perform_of_account hgate hclosed hexchange haccount⟩

/-- A sign-in that fails leaves everything as it was, unless it strands the player. -/
theorem perform_of_failure (hgate : s.sessions.gate = {}) {e : ServerError}
    (hfailure : (a.perform s).1 = .error e) :
    (a.perform s).2 = s ∨ ∃ external, a.Strands s external := by
  obtain ⟨e', hperform⟩ | ⟨external, found, directory, hexchange, haccount,
    ⟨hclosed, hperform⟩ | ⟨w, sessions, -, hperform⟩⟩ := perform_cases hgate a
  · exact .inl (congrArg Prod.snd hperform)
  · obtain ⟨account, -, -, rfl⟩ | ⟨hbound, hnamed, -, -, -⟩ := Directory.signIn_eq_ok haccount
    · exact .inl (congrArg Prod.snd hperform)
    · exact .inr ⟨external, hclosed, hexchange, Directory.outage_of_signIn haccount, hbound, hnamed⟩
  · rw [hperform] at hfailure
    cases hfailure

/-- A stranded player has an account that was not there before. -/
theorem directory_ne_of_strands (hgate : s.sessions.gate = {}) (hstrands : a.Strands s external) :
    (a.perform s).2.directory ≠ s.directory := by
  intro hsame
  have hbound := congrArg (·.bound? external) hsame
  rw [perform_of_strands hgate hstrands] at hbound
  simp only [Directory.bound?_bind, hstrands.unbound] at hbound
  cases hbound

/-- A player who is welcomed has a new account exactly if the external id had none. -/
theorem created_iff_unbound {w : Welcome} (hgate : s.sessions.gate = {})
    (hwelcome : (a.perform s).1 = .ok w) (hexternal : a.exchange s.settings = .ok external) :
    w.created = true ↔ s.directory.bound? external = none := by
  obtain ⟨e, hperform⟩ | ⟨external', found, directory, hexchange, haccount,
    ⟨-, hperform⟩ | ⟨w', sessions, hcreated, hperform⟩⟩ := perform_cases hgate a
  · rw [hperform] at hwelcome
    cases hwelcome
  · rw [hperform] at hwelcome
    cases hwelcome
  · cases hexternal.symm.trans hexchange
    rw [hperform] at hwelcome
    cases hwelcome
    rw [hcreated]
    obtain ⟨account, hbound, rfl, -⟩ | ⟨hbound, -, -, rfl, -⟩ := Directory.signIn_eq_ok haccount
    · simp [hbound]
    · simp [hbound]

theorem isSettled_event (hsettled : s.IsSettled) (e : ServerEvent) : (e.next s).IsSettled := by
  cases e with
  | call c => exact hsettled.next c
  | restart settings supplies => exact isSettled_start settings supplies s.store s.directory
  | act p c =>
    rw [ServerEvent.next, c.perform_eq]
    exact ⟨hsettled.gate, hsettled.settings⟩

theorem isSettled_through (hsettled : s.IsSettled) (events : List ServerEvent) :
    (s.through events).IsSettled := by
  induction events generalizing s with
  | nil => exact hsettled
  | cons e events ih => exact ih (isSettled_event hsettled e)

theorem directory_next_of_no_fresh {c : ServerCall} (hfresh : c.fresh? = none) :
    (c.next s).directory = s.directory := by
  obtain hsame | ⟨external, username, found, fresh, hsome, -⟩ := directory_next (s := s) c
  · exact hsame
  · cases hfresh.symm.trans hsome

/-- Once a sign-in has come as far as the accounts, the external id is bound, whether a session is
opened then or not. -/
theorem bound?_signIn_iff (hgate : s.sessions.gate = {}) (a : Arrival) (external : ExternalId) :
    (a.perform s).2.directory.bound? external = none ↔
      s.directory.bound? external = none ∧ ¬ (ServerEvent.call (.signIn a)).Reaches s external := by
  obtain ⟨e, hperform⟩ | ⟨external', found, directory, hexchange, haccount, hends⟩ :=
    perform_cases hgate a
  · have hnot : ¬ (ServerEvent.call (.signIn a)).Reaches s external := by
      rintro ⟨-, ⟨w, hwelcome⟩ | hstrands⟩
      · rw [hperform] at hwelcome
        cases hwelcome
      · cases hperform.symm.trans (perform_of_strands hgate hstrands)
    rw [hperform, and_iff_left hnot]
  · have hdirectory : (a.perform s).2.directory = directory := by
      obtain ⟨-, hperform⟩ | ⟨w, sessions, -, hperform⟩ := hends
      · rw [hperform]
      · rw [hperform]
    rw [hdirectory]
    by_cases hsame : external = external'
    · subst hsame
      rw [Directory.bound?_signIn haccount]
      refine iff_of_false (Option.some_ne_none _) ?_
      rintro ⟨hunbound, hnot⟩
      refine hnot ⟨hexchange, ?_⟩
      obtain ⟨hclosed, hperform⟩ | ⟨w, sessions, -, hperform⟩ := hends
      · obtain ⟨account, hbound, -, -⟩ | ⟨-, hnamed, -, -, -⟩ := Directory.signIn_eq_ok haccount
        · cases hunbound.symm.trans hbound
        · exact .inr ⟨hclosed, hexchange, Directory.outage_of_signIn haccount, hunbound, hnamed⟩
      · exact .inl ⟨w, congrArg Prod.fst hperform⟩
    · rw [Directory.bound?_signIn_of_ne haccount hsame, and_iff_left]
      rintro ⟨hexternal, -⟩
      cases hexternal.symm.trans hexchange
      exact hsame rfl

/-- An event leaves an external id without an account unless it is a sign-in that reaches it. -/
theorem bound?_event_iff (hgate : s.sessions.gate = {}) (e : ServerEvent) (external : ExternalId) :
    (e.next s).directory.bound? external = none ↔
      s.directory.bound? external = none ∧ ¬ e.Reaches s external := by
  have hother : (e.next s).directory = s.directory → ¬ e.Reaches s external →
      ((e.next s).directory.bound? external = none ↔
        s.directory.bound? external = none ∧ ¬ e.Reaches s external) := by
    intro hsame hnot
    rw [hsame, and_iff_left hnot]
  cases e with
  | restart settings supplies => exact hother rfl id
  | act p c =>
    refine hother ?_ id
    rw [ServerEvent.next, c.perform_eq]
  | call c =>
    cases c with
    | signIn a => exact bound?_signIn_iff hgate a external
    | _ => exact hother (directory_next_of_no_fresh rfl) id

theorem bound?_through_iff (hsettled : s.IsSettled) (events : List ServerEvent)
    (external : ExternalId) :
    (s.through events).directory.bound? external = none ↔
      s.directory.bound? external = none ∧ ¬ s.Reaches external events := by
  induction events generalizing s with
  | nil => exact (and_iff_left id).symm
  | cons e events ih =>
    rw [through, ih (isSettled_event hsettled e), bound?_event_iff hsettled.gate, Reaches, not_or,
      and_assoc]

/-- Whatever has happened to the game before: a sign-in that fails leaves the sessions and the
documents as they were, and the accounts, too, exactly if it does not strand the player. A player is
stranded with a new account, and the answer is that the sessions are closed. One who is welcomed is
told of a new account exactly if there was none at the start and no sign-in of the same external id
has been welcomed or stranded since. -/
theorem failed_sign_in_keeps_iff (settings : ServerSettings) (supplies : Supplies) (store : Store)
    (directory : Directory) (events : List ServerEvent) (a : Arrival) :
    let first := start settings supplies store directory
    let s := first.through events
    let s' := (a.perform s).2
    (∀ e, (a.perform s).1 = .error e →
      s'.sessions = s.sessions ∧ s'.store = s.store ∧
        (s'.directory = s.directory ↔ ∀ external, ¬ a.Strands s external)) ∧
    (∀ external, a.Strands s external →
      a.perform s = (.error (.session Registry.closedError),
        { s with directory := s.directory.bind external ⟨a.draws.user, a.draws.username⟩ })) ∧
    (∀ w external, (a.perform s).1 = .ok w → a.exchange s.settings = .ok external →
      (w.created = true ↔ directory.bound? external = none ∧ ¬ first.Reaches external events)) := by
  intro first s s'
  have hfirst : first.IsSettled := isSettled_start settings supplies store directory
  have hgate : s.sessions.gate = {} := (isSettled_through hfirst events).gate
  refine ⟨?_, fun external => perform_of_strands hgate, ?_⟩
  · intro e hfailure
    obtain hsame | ⟨external, hstrands⟩ := perform_of_failure hgate hfailure
    · have hs : s' = s := hsame
      rw [hs]
      refine ⟨rfl, rfl, iff_of_true rfl fun external hstrands => ?_⟩
      exact directory_ne_of_strands hgate hstrands (congrArg (·.directory) hsame)
    · have hs' : s' = _ := congrArg Prod.snd (perform_of_strands hgate hstrands)
      refine ⟨by rw [hs'], by rw [hs'], iff_of_false ?_ fun hnot => hnot external hstrands⟩
      exact directory_ne_of_strands hgate hstrands
  · intro w external hwelcome hexternal
    rw [created_iff_unbound hgate hwelcome hexternal]
    exact bound?_through_iff hfirst events external

/-- Ada is new at her first sign-in. When the sessions are closed, she fails to sign in and nothing
changes, while Bob fails and gets an account. -/
theorem ada_keeps_and_bob_is_stranded :
    let ada : Arrival := ⟨.wechat, .answering (Platform.wechat.giving "a"), ⟨"", none⟩,
      ⟨⟨List.replicate 32 1, List.length_replicate⟩, "ada", "1"⟩, 0⟩
    let bob : Arrival := ⟨.wechat, .answering (Platform.wechat.giving "b"), ⟨"", none⟩,
      ⟨⟨List.replicate 32 2, List.length_replicate⟩, "bob", "2"⟩, 0⟩
    let first := start {} {} {} {}
    let s := first.through [.call (.signIn ada), .call .shutdown]
    (∃ w, (ada.perform first).1 = .ok w ∧ w.created = true) ∧
      (ada.perform s).1 = .error (.session Registry.closedError) ∧
      (ada.perform s).2.sessions = s.sessions ∧ (ada.perform s).2.directory = s.directory ∧
      bob.perform s = (.error (.session Registry.closedError),
        { s with directory := s.directory.bind ⟨"b"⟩ ⟨bob.draws.user, "bob"⟩ }) := by
  intro ada bob first s
  have hada : ada.exchange {} = .ok ⟨"a"⟩ := Platform.exchange_giving rfl (by decide)
  have hbob : bob.exchange {} = .ok ⟨"b"⟩ := Platform.exchange_giving rfl (by decide)
  have hwelcome := perform_of_account (a := ada) (s := first) rfl rfl hada rfl
  have hs : s = (ada.perform first).2.shutdown := rfl
  rw [hwelcome] at hs
  have hdirectory : s.directory = Directory.bind {} ⟨"a"⟩ ⟨ada.draws.user, "ada"⟩ := by
    rw [hs]
    rfl
  have hsettings : s.settings = {} := by rw [hs]; rfl
  have hclosed : s.sessions.registry.closed = true := by rw [hs]; rfl
  have hgate : s.sessions.gate = {} := by rw [hs]; rfl
  rw [← hsettings] at hada hbob
  have hbound : s.directory.bound? ⟨"a"⟩ = some ⟨ada.draws.user, "ada"⟩ := by
    rw [hdirectory]
    decide
  have hfails := perform_of_closed (a := ada) hgate hclosed hada
    (Directory.signIn_of_bound (by rw [hdirectory]; rfl) hbound)
  have hstrands : bob.Strands s ⟨"b"⟩ :=
    ⟨hclosed, hbob, by rw [hdirectory]; rfl, by rw [hdirectory]; decide, by rw [hdirectory]; decide⟩
  obtain ⟨hkeeps, -, -⟩ :=
    failed_sign_in_keeps_iff {} {} {} {} [.call (.signIn ada), .call .shutdown] ada
  obtain ⟨hsessions, -, hiff⟩ := hkeeps _ (congrArg Prod.fst hfails)
  have hsame : (ada.perform s).2.directory = s.directory := by
    refine hiff.2 fun external hada' => ?_
    cases hada.symm.trans hada'.exchange_eq
    cases hbound.symm.trans hada'.unbound
  obtain ⟨-, hleaves, -⟩ :=
    failed_sign_in_keeps_iff {} {} {} {} [.call (.signIn ada), .call .shutdown] bob
  obtain ⟨-, -, hnew⟩ := failed_sign_in_keeps_iff {} {} {} {} [] ada
  refine ⟨⟨_, congrArg Prod.fst hwelcome, ?_⟩, congrArg Prod.fst hfails, hsessions, hsame,
    hleaves _ hstrands⟩
  exact (hnew _ ⟨"a"⟩ (congrArg Prod.fst hwelcome) (hsettings ▸ hada)).2 ⟨rfl, id⟩

/-- Bob fails to sign in where the sessions are closed, and has an account afterwards. When he is
welcomed for the first time, by the next server, he is told that his account is not new. -/
theorem stranded_player_is_not_new :
    let bob : Arrival := ⟨.wechat, .answering (Platform.wechat.giving "b"), ⟨"", none⟩,
      ⟨⟨List.replicate 32 2, List.length_replicate⟩, "bob", "2"⟩, 0⟩
    let s := (start {} {} {} {}).through [.call .shutdown]
    let s' := s.through [.call (.signIn bob), .restart {} {}]
    (bob.perform s).1 = .error (.session Registry.closedError) ∧
      s.directory.bindings.length = 0 ∧ (bob.perform s).2.directory.bindings.length = 1 ∧
      ∃ w, (bob.perform s').1 = .ok w ∧ w.created = false := by
  intro bob s s'
  have hbob : bob.exchange {} = .ok ⟨"b"⟩ := Platform.exchange_giving rfl (by decide)
  have hfails := perform_of_strands (s := s) rfl ⟨rfl, hbob, rfl, rfl, rfl⟩
  have hs' : s' = start {} {} (bob.perform s).2.store (bob.perform s).2.directory := rfl
  rw [hfails] at hs'
  have hbound : s'.directory.bound? ⟨"b"⟩ = some ⟨bob.draws.user, "bob"⟩ := by
    rw [hs']
    decide
  have hwelcome := perform_of_account (a := bob) (s := s') (by rw [hs']; rfl) (by rw [hs']; rfl)
    (by rw [hs']; exact hbob) (Directory.signIn_of_bound (by rw [hs']; rfl) hbound)
  refine ⟨congrArg Prod.fst hfails, rfl, ?_, _, congrArg Prod.fst hwelcome, rfl⟩
  rw [hfails]
  rfl

end Server

end PlayerHub
