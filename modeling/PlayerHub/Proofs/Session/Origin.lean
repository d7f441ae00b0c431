import Mathlib.Data.List.Induction
import PlayerHub.Proofs.Session.Run

namespace PlayerHub

namespace Sessions

/-- Whether some step of a run removes an id with the given expiry from its user. -/
def RemovedIn (s : Sessions) (user : UserId) (id : String) (expiry : Int64) :
    List SessionStep → Prop
  | [] => False
  | st :: steps => st.Removes s user id expiry ∨ (st.next s).RemovedIn user id expiry steps

/-- Whether a session has been opened in a run and its id in one of the tokens has not been removed
since. -/
def HasOpen (s : Sessions) (steps : List SessionStep) (use : TokenUse) (o : OpenedSession) :
    Prop :=
  ∃ before st later, steps = before ++ st :: later ∧ st.opened? (s.run before) = some o ∧
    ¬ (s.run (before ++ [st])).RemovedIn o.user o.session (o.expiry use) later

variable {s : Sessions} {st : SessionStep} {steps : List SessionStep} {use : TokenUse}
  {user : UserId} {id : String} {e : Int64} {o : OpenedSession}

theorem removedIn_append_singleton :
    s.RemovedIn user id e (steps ++ [st]) ↔
      s.RemovedIn user id e steps ∨ st.Removes (s.run steps) user id e := by
  induction steps generalizing s with
  | nil =>
    rw [List.nil_append, RemovedIn, RemovedIn, RemovedIn, or_false, false_or]
    rfl
  | cons first steps ih =>
    rw [List.cons_append, RemovedIn, RemovedIn, ih, or_assoc]
    rfl

theorem HasOpen.append_singleton (hopen : s.HasOpen steps use o)
    (hkept : ¬ st.Removes (s.run steps) o.user o.session (o.expiry use)) :
    s.HasOpen (steps ++ [st]) use o := by
  obtain ⟨before, first, later, rfl, hopened, hlater⟩ := hopen
  refine ⟨before, first, later ++ [st], by rw [List.append_assoc, List.cons_append], hopened, ?_⟩
  have hrun : s.run (before ++ first :: later) = (s.run (before ++ [first])).run later := by
    rw [← run_append, List.append_assoc]
    rfl
  rw [hrun] at hkept
  rw [removedIn_append_singleton, not_or]
  exact ⟨hlater, hkept⟩

/-- Every id that is registered after a run belongs to a session that the run has opened and not
taken it from. -/
theorem hasOpen_of_expiry? {settings : SessionSettings}
    (hid : ((start settings).run steps).registry.expiry? use user id = some e) :
    ∃ o, (start settings).HasOpen steps use o ∧ o.user = user ∧ o.session = id ∧
      o.expiry use = e := by
  -- The last step either has opened the session or has left the id where it was.
  induction steps using List.reverseRecOn with
  | nil =>
    rw [run, start, Registry.expiry?_empty] at hid
    cases hid
  | append_singleton steps st ih =>
    have hgate : ((start settings).run steps).gate = {} := (kept_run rfl).2
    have hrun : (start settings).run (steps ++ [st]) = st.next ((start settings).run steps) :=
      run_append steps [st]
    rw [hrun] at hid
    obtain ⟨hbefore, hkept⟩ | ⟨o, hopened, ho⟩ := SessionStep.kept_or_opened_of_next hgate hid
    · obtain ⟨o, hopen, rfl, rfl, rfl⟩ := ih hbefore
      exact ⟨o, hopen.append_singleton hkept, rfl, rfl, rfl⟩
    · exact ⟨o, ⟨steps, st, [], rfl, hopened, fun hremoved => hremoved⟩, ho⟩

/-- Whoever has written a text: it is verified only if it is signed with the access key, and then it
says what its payload says and speaks of a session that is open. A text that a refresh does not
reject is signed with the refresh key and speaks of a session that is open. -/
theorem accepted_token_is_of_open_session {settings : SessionSettings}
    {steps : List SessionStep} {now : Int64} {token : String} :
    let s := (start settings).run steps
    (∀ c, s.verify now token = .ok c →
      Token.IsSigned settings.accessKey token ∧ Token.claims? token = some c ∧ now ≤ c.expiry ∧
        ∃ o, (start settings).HasOpen steps .access o ∧ o.user = c.user ∧
          o.session = c.session ∧ o.accessExpiry = c.expiry) ∧
      ∀ fresh, (∃ e, ((refresh now fresh token).perform s).1 = .error e ∧ e.IsRejection) ∨
        ∃ c, Token.IsSigned settings.refreshKey token ∧ Token.claims? token = some c ∧
          now ≤ c.expiry ∧ ∃ o, (start settings).HasOpen steps .refresh o ∧ o.user = c.user ∧
            o.session = c.session ∧ o.refreshExpiry = c.expiry := by
  intro s
  have hsettings : s.settings = settings := (kept_run rfl).1
  constructor
  · intro c hverify
    obtain ⟨hcheck, hvalid⟩ := verify_eq_ok_iff.1 hverify
    obtain ⟨hid, htime⟩ := (Registry.isValidAccess_iff _).1 hvalid
    rw [hsettings] at hcheck
    exact ⟨Token.isSigned_of_check hcheck, Token.claims?_of_check hcheck, htime,
      hasOpen_of_expiry? hid⟩
  · intro fresh
    cases hrenew : s.renewable? now token with
    | none =>
      obtain ⟨e, hperform, hrejection⟩ := perform_refresh_rejected hrenew fresh
      exact .inl ⟨e, congrArg Prod.fst hperform, hrejection⟩
    | some c =>
      obtain ⟨hcheck, -⟩ := renewable?_eq_some_iff.1 hrenew
      rw [hsettings] at hcheck
      exact .inr ⟨c, Token.isSigned_of_check hcheck, Token.claims?_of_check hcheck,
        Token.le_expiry_of_check hcheck, hasOpen_of_expiry? (expiry?_of_renewable hrenew)⟩

/-- A session beside which another one has been opened is still the one that its token is of. -/
theorem accepted_token_is_of_first_session :
    let ada : UserId := ⟨List.replicate 32 1, List.length_replicate⟩
    let token := (make {} 100 "a" ada "ada").token
    let steps : List SessionStep :=
      [⟨100, .issue "a" ada "ada" true⟩, ⟨150, .issue "b" ada "ada" false⟩]
    ((start {}).run steps).verify 200 token = .ok ⟨"a", ada, "ada", 100, 3700⟩ ∧
      Token.IsSigned "defaultencryptionkey" token ∧
      ∃ o, (start {}).HasOpen steps .access o ∧ o.user = ada ∧ o.session = "a" := by
  intro ada token steps
  have hverify : ((start {}).run steps).verify 200 token = .ok ⟨"a", ada, "ada", 100, 3700⟩ := by
    have hmade : ((start {}).run steps).verify 200 token = _ := verify_token_make rfl (by decide)
    rw [hmade, if_neg (by decide), if_pos (by decide)]
    rfl
  obtain ⟨haccepted, -⟩ := @accepted_token_is_of_open_session {} steps 200 token
  obtain ⟨hsigned, -, -, o, hopen, huser, hsession, -⟩ := haccepted _ hverify
  exact ⟨hverify, hsigned, o, hopen, huser, hsession⟩

end Sessions

end PlayerHub
