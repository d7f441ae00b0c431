import PlayerHub.Proofs.Data.KeyMap
import PlayerHub.Session.Registry

namespace PlayerHub

/-- What the token is for that carries an id. -/
inductive TokenUse where
  | access
  | refresh
deriving DecidableEq, Repr

/-- What there is for a kind of token, given what there is for each. -/
def TokenUse.of {α : Type} (access refresh : α) : TokenUse → α
  | .access => access
  | .refresh => refresh

@[simp] theorem TokenUse.of_self {α : Type} (a : α) (use : TokenUse) : use.of a a = a := by
  cases use with
  | access => rfl
  | refresh => rfl

namespace SessionEntry

/-- The id in a token of a session. -/
def id (e : SessionEntry) : TokenUse → String
  | .access => e.access
  | .refresh => e.refresh

/-- The last second at which a token of a session is good. -/
def expiry (e : SessionEntry) : TokenUse → Int64
  | .access => e.accessExpiry
  | .refresh => e.refreshExpiry

end SessionEntry

namespace UserSessions

/-- The registered ids of one kind of token. -/
def ids (u : UserSessions) : TokenUse → KeyMap String Int64
  | .access => u.access
  | .refresh => u.refresh

@[simp] theorem get?_ids_empty (use : TokenUse) (id : String) :
    (({} : UserSessions).ids use).get? id = none := by
  cases use <;> rfl

theorem get?_ids_insert (u : UserSessions) (e : SessionEntry) (use : TokenUse) (id : String) :
    ((u.insert e).ids use).get? id =
      if id = e.id use then some (e.expiry use) else (u.ids use).get? id := by
  cases use with
  | access => exact KeyMap.get?_insert _ _ _ _
  | refresh => exact KeyMap.get?_insert _ _ _ _

theorem get?_ids_erase (u : UserSessions) (access refresh : String) (use : TokenUse)
    (id : String) :
    ((u.erase access refresh).ids use).get? id =
      if id = use.of access refresh then none else (u.ids use).get? id := by
  cases use with
  | access => exact KeyMap.get?_erase _ _ _
  | refresh => exact KeyMap.get?_erase _ _ _

theorem get?_ids_sweep (u : UserSessions) (now : Int64) (use : TokenUse) (id : String) :
    ((u.sweep now).ids use).get? id =
      ((u.ids use).get? id).filter fun expiry => now ≤ expiry := by
  cases use with
  | access => exact KeyMap.get?_filter (fun _ expiry => now ≤ expiry) u.access id
  | refresh => exact KeyMap.get?_filter (fun _ expiry => now ≤ expiry) u.refresh id

theorem eq_empty_of_isEmpty {u : UserSessions} (h : u.isEmpty = true) : u = {} := by
  obtain ⟨access, refresh⟩ := u
  rw [isEmpty, Bool.and_eq_true] at h
  have haccess : access = ∅ := KeyMap.eq_empty_of_isEmpty h.1
  have hrefresh : refresh = ∅ := KeyMap.eq_empty_of_isEmpty h.2
  rw [haccess, hrefresh]

end UserSessions

namespace Registry

variable (r : Registry)

@[simp] theorem sessionsOf_empty (user : UserId) : ({} : Registry).sessionsOf user = {} := rfl

theorem sessionsOf_removeAll (ended user : UserId) :
    (r.removeAll ended).sessionsOf user = if user = ended then {} else r.sessionsOf user := by
  rw [sessionsOf, removeAll, KeyMap.get?_erase]
  split
  · rfl
  · rfl

theorem sessionsOf_ban (users : List UserId) (user : UserId) :
    (r.ban users).sessionsOf user = if user ∈ users then {} else r.sessionsOf user := by
  induction users generalizing r with
  | nil => simp only [ban, List.foldl_nil, List.not_mem_nil, if_false]
  | cons first users ih =>
    have hban : r.ban (first :: users) = (r.removeAll first).ban users := rfl
    rw [hban, ih, sessionsOf_removeAll]
    by_cases hmem : user ∈ users
    · simp only [hmem, List.mem_cons, or_true, if_true]
    · simp only [hmem, List.mem_cons, or_false, if_false]

/-- A user whose last id goes away is forgotten, and has no id all the same. -/
theorem sessionsOf_remove (owner : UserId) (access refresh : String) (user : UserId) :
    (r.remove owner access refresh).sessionsOf user =
      if user = owner then (r.sessionsOf owner).erase access refresh
      else r.sessionsOf user := by
  unfold remove
  dsimp only
  split
  · rename_i hempty
    rw [sessionsOf_removeAll, UserSessions.eq_empty_of_isEmpty hempty]
  · rw [sessionsOf, KeyMap.get?_insert]
    split
    · rfl
    · rfl

@[simp] theorem closed_remove (owner : UserId) (access refresh : String) :
    (r.remove owner access refresh).closed = r.closed := by
  unfold remove
  dsimp only
  split
  · rfl
  · rfl

/-- The users whom a sweep forgets have no id left. -/
theorem sessionsOf_sweep (now : Int64) (user : UserId) :
    (r.sweep now).sessionsOf user = (r.sessionsOf user).sweep now := by
  simp only [sessionsOf, sweep, KeyMap.get?_filter, KeyMap.get?_map]
  cases r.users.get? user with
  | none => rfl
  | some u =>
    by_cases hempty : (u.sweep now).isEmpty = true
    · have hswept := UserSessions.eq_empty_of_isEmpty hempty
      simp only [Option.map_some, Option.filter_some, Option.getD_some, hswept]
      rfl
    · simp only [Option.map_some, Option.filter_some, hempty, Option.getD_some]
      rfl

/-- The registry with one more session of a user, which is the only one if `single` is set. -/
def enroll (single : Bool) (user : UserId) (e : SessionEntry) : Registry :=
  let beside := if single then {} else r.sessionsOf user
  { r with users := r.users.insert user (beside.insert e) }

theorem add_or_replace_eq (single : Bool) (user : UserId) (e : SessionEntry) :
    (if single then r.replace user e else r.add user e) =
      if r.closed then .error closedError else .ok (r.enroll single user e) := by
  cases single with
  | false => rfl
  | true => rfl

theorem sessionsOf_enroll (single : Bool) (owner : UserId) (e : SessionEntry) (user : UserId) :
    (r.enroll single owner e).sessionsOf user =
      if user = owner then (if single then {} else r.sessionsOf owner).insert e
      else r.sessionsOf user := by
  rw [sessionsOf, enroll, KeyMap.get?_insert]
  split
  · rfl
  · rfl

/-- The expiry of an id that a user has in a registry. -/
def expiry? (use : TokenUse) (user : UserId) (id : String) : Option Int64 :=
  ((r.sessionsOf user).ids use).get? id

@[simp] theorem expiry?_empty (use : TokenUse) (user : UserId) (id : String) :
    ({} : Registry).expiry? use user id = none := by
  rw [expiry?, sessionsOf_empty, UserSessions.get?_ids_empty]

theorem expiry?_removeAll (ended : UserId) (use : TokenUse) (user : UserId) (id : String) :
    (r.removeAll ended).expiry? use user id =
      if user = ended then none else r.expiry? use user id := by
  rw [expiry?, sessionsOf_removeAll]
  split
  · exact UserSessions.get?_ids_empty _ _
  · rfl

theorem expiry?_ban (users : List UserId) (use : TokenUse) (user : UserId) (id : String) :
    (r.ban users).expiry? use user id =
      if user ∈ users then none else r.expiry? use user id := by
  rw [expiry?, sessionsOf_ban]
  split
  · exact UserSessions.get?_ids_empty _ _
  · rfl

theorem expiry?_remove (owner : UserId) (access refresh : String) (use : TokenUse)
    (user : UserId) (id : String) :
    (r.remove owner access refresh).expiry? use user id =
      if user = owner ∧ id = use.of access refresh then none else r.expiry? use user id := by
  rw [expiry?, sessionsOf_remove]
  by_cases howner : user = owner
  · subst howner
    simp only [true_and, if_true]
    exact UserSessions.get?_ids_erase _ _ _ _ _
  · simp only [howner, false_and, if_false]
    rfl

theorem expiry?_sweep (now : Int64) (use : TokenUse) (user : UserId) (id : String) :
    (r.sweep now).expiry? use user id =
      (r.expiry? use user id).filter fun expiry => now ≤ expiry := by
  rw [expiry?, sessionsOf_sweep]
  exact UserSessions.get?_ids_sweep _ _ _ _

/-- A sweep keeps just the ids that have not expired. -/
theorem expiry?_sweep_eq_some_iff {now : Int64} {use : TokenUse} {user : UserId} {id : String}
    {e : Int64} :
    (r.sweep now).expiry? use user id = some e ↔ r.expiry? use user id = some e ∧ now ≤ e := by
  rw [expiry?_sweep, Option.filter_eq_some_iff, decide_eq_true_eq]

/-- A registry is seen through the expiries of the ids that a user has in it. A new session replaces
what its ids had before and, where a user has a single session, all else of the user. -/
theorem expiry?_enroll (single : Bool) (owner : UserId) (e : SessionEntry) (use : TokenUse)
    (user : UserId) (id : String) :
    (r.enroll single owner e).expiry? use user id =
      if user = owner then
        if id = e.id use then some (e.expiry use)
        else if single then none
        else r.expiry? use owner id
      else r.expiry? use user id := by
  rw [expiry?, sessionsOf_enroll]
  by_cases howner : user = owner
  · simp only [howner, if_true]
    rw [UserSessions.get?_ids_insert]
    cases single with
    | false => rfl
    | true => rw [if_pos rfl, UserSessions.get?_ids_empty, if_pos rfl]
  · simp only [howner, if_false]
    rfl

/-- An access token is alive as long as its id is registered with its expiry, up to that. -/
theorem isValidAccess_iff {now : Int64} {user : UserId} {expiry : Int64} {id : String} :
    r.isValidAccess now user expiry id = true ↔
      r.expiry? .access user id = some expiry ∧ now ≤ expiry := by
  rw [isValidAccess, isAlive, Bool.and_eq_true, decide_eq_true_eq, decide_eq_true_eq]
  rfl

/-- A refresh token is alive as long as its id is registered with its expiry, up to that. -/
theorem isValidRefresh_iff {now : Int64} {user : UserId} {expiry : Int64} {id : String} :
    r.isValidRefresh now user expiry id = true ↔
      r.expiry? .refresh user id = some expiry ∧ now ≤ expiry := by
  rw [isValidRefresh, isAlive, Bool.and_eq_true, decide_eq_true_eq, decide_eq_true_eq]
  rfl

theorem has_iff {user : UserId} {access refresh : String} :
    r.has user access refresh = true ↔
      (∃ e, r.expiry? .access user access = some e) ∨
        ∃ e, r.expiry? .refresh user refresh = some e := by
  rw [has, Bool.or_eq_true, KeyMap.contains_eq_true_iff, KeyMap.contains_eq_true_iff]
  rfl

theorem has_of_isValidRefresh {now : Int64} {user : UserId} {expiry : Int64} {id : String}
    (h : r.isValidRefresh now user expiry id = true) : r.has user id id = true := by
  obtain ⟨hid, -⟩ := (r.isValidRefresh_iff).1 h
  exact (r.has_iff).2 (.inr ⟨expiry, hid⟩)

end Registry

/-- Whether a sweeper sweeps a registry in the next second. -/
def Sweeper.isDue (w : Sweeper) (r : Registry) : Bool :=
  !w.finished && w.period ≤ w.elapsed + 1 && !r.closed

theorem Sweeper.registry_second (w : Sweeper) (r : Registry) (now : Int64) :
    (w.second r now).2 = if w.isDue r then r.sweep now else r := by
  rw [second, isDue]
  cases w.finished with
  | true => rfl
  | false =>
    by_cases hperiod : w.elapsed + 1 < w.period
    · rw [if_neg Bool.false_ne_true, if_pos hperiod, decide_eq_false (by omega)]
      rfl
    · rw [if_neg Bool.false_ne_true, if_neg hperiod, decide_eq_true (by omega)]
      cases r.closed with
      | true => rfl
      | false => rfl

end PlayerHub
