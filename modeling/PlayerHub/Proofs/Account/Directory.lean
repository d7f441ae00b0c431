import Mathlib.Data.List.Nodup
import PlayerHub.Account.Basic

namespace PlayerHub

namespace Directory

/-- The directory with an account for an external id. -/
def bind (d : Directory) (external : ExternalId) (account : Account) : Directory :=
  { d with bindings := d.bindings ++ [⟨external, account⟩] }

variable {d d' : Directory} {external : ExternalId} {username : String} {create : Bool}
  {fresh : UserId} {found : SignedIn}

theorem signIn_of_bound {account : Account} (houtage : d.outage = none)
    (hbound : d.bound? external = some account) :
    d.signIn external username create fresh = .ok (⟨account, false⟩, d) := by
  rw [signIn, answer, houtage, hbound]
  rfl

theorem signIn_of_unbound (houtage : d.outage = none) (hbound : d.bound? external = none)
    (hnamed : d.named? username = none) :
    d.signIn external username true fresh =
      .ok (⟨⟨fresh, username⟩, true⟩, d.bind external ⟨fresh, username⟩) := by
  rw [signIn, answer, houtage, hbound, hnamed, bind, houtage]
  rfl

/-- A sign-in finds the account of the external id, or makes one with an unused name. -/
theorem signIn_eq_ok (hsignIn : d.signIn external username create fresh = .ok (found, d')) :
    (∃ account, d.bound? external = some account ∧ found = ⟨account, false⟩ ∧ d' = d) ∨
      (d.bound? external = none ∧ d.named? username = none ∧ create = true ∧
        found = ⟨⟨fresh, username⟩, true⟩ ∧ d' = d.bind external ⟨fresh, username⟩) := by
  rw [signIn, answer] at hsignIn
  cases houtage : d.outage with
  | some reason =>
    rw [houtage] at hsignIn
    cases hsignIn
  | none =>
    rw [houtage] at hsignIn
    cases hbound : d.bound? external with
    | some account =>
      rw [hbound] at hsignIn
      cases hsignIn
      exact .inl ⟨account, rfl, rfl, rfl⟩
    | none =>
      rw [hbound] at hsignIn
      cases create with
      | false => cases hsignIn
      | true =>
        cases hnamed : d.named? username with
        | some account =>
          rw [hnamed] at hsignIn
          cases hsignIn
        | none =>
          rw [hnamed] at hsignIn
          cases hsignIn
          exact .inr ⟨rfl, rfl, rfl, rfl, by rw [bind, houtage]⟩

/-- Accounts that cannot be reached sign nobody in. -/
theorem outage_of_signIn (hsignIn : d.signIn external username create fresh = .ok (found, d')) :
    d.outage = none := by
  rw [signIn, answer] at hsignIn
  cases houtage : d.outage with
  | none => rfl
  | some reason =>
    rw [houtage] at hsignIn
    cases hsignIn

private theorem map_find?_append_singleton {α β : Type} (p : α → Bool) (f : α → β)
    (l : List α) (a : α) :
    ((l ++ [a]).find? p).map f = ((l.find? p).map f).or (if p a then some (f a) else none) := by
  rw [List.find?_append, Option.map_or]
  congr 1
  cases hp : p a with
  | false => simp [hp]
  | true => simp [hp]

theorem bound?_bind (account : Account) (external' : ExternalId) :
    (d.bind external account).bound? external' =
      (d.bound? external').or (if external = external' then some account else none) := by
  rw [bound?, bind, map_find?_append_singleton]
  simp only [decide_eq_true_eq]
  rfl

theorem named?_bind (account : Account) (username' : String) :
    (d.bind external account).named? username' =
      (d.named? username').or (if account.username = username' then some account else none) := by
  rw [named?, bind, map_find?_append_singleton]
  simp only [decide_eq_true_eq]
  rfl

theorem bound?_signIn (hsignIn : d.signIn external username create fresh = .ok (found, d')) :
    d'.bound? external = some found.account := by
  obtain ⟨account, hbound, rfl, rfl⟩ | ⟨hbound, -, -, rfl, rfl⟩ := signIn_eq_ok hsignIn
  · exact hbound
  · rw [bound?_bind, hbound, if_pos rfl]
    rfl

/-- An external id keeps its account whoever else signs in. -/
theorem bound?_signIn_of_some {external' : ExternalId} {account : Account}
    (hsignIn : d.signIn external username create fresh = .ok (found, d'))
    (hbound : d.bound? external' = some account) : d'.bound? external' = some account := by
  obtain ⟨-, -, -, rfl⟩ | ⟨-, -, -, -, rfl⟩ := signIn_eq_ok hsignIn
  · exact hbound
  · rw [bound?_bind, hbound]
    rfl

/-- A sign-in makes no account for another external id. -/
theorem bound?_signIn_of_ne {external' : ExternalId}
    (hsignIn : d.signIn external username create fresh = .ok (found, d'))
    (hne : external' ≠ external) : d'.bound? external' = d.bound? external' := by
  obtain ⟨-, -, -, rfl⟩ | ⟨-, -, -, -, rfl⟩ := signIn_eq_ok hsignIn
  · rfl
  · rw [bound?_bind, if_neg (Ne.symm hne), Option.or_none]

/-- A username keeps its account whoever else signs in. -/
theorem named?_signIn_of_some {username' : String} {account : Account}
    (hsignIn : d.signIn external username create fresh = .ok (found, d'))
    (hnamed : d.named? username' = some account) : d'.named? username' = some account := by
  obtain ⟨-, -, -, rfl⟩ | ⟨-, -, -, -, rfl⟩ := signIn_eq_ok hsignIn
  · exact hnamed
  · rw [named?_bind, hnamed]
    rfl

/-- The accounts have distinct user ids, all of them among those given. -/
structure Separates (d : Directory) (users : List UserId) : Prop where
  distinct : (d.bindings.map (·.account.user)).Nodup
  known : ∀ b ∈ d.bindings, b.account.user ∈ users

theorem separates_empty : ({} : Directory).Separates [] where
  distinct := List.nodup_nil
  known := fun _ hmem => absurd hmem List.not_mem_nil

theorem Separates.mono {users users' : List UserId} (hseparates : d.Separates users)
    (hsubset : users ⊆ users') : d.Separates users' where
  distinct := hseparates.distinct
  known := fun b hmem => hsubset (hseparates.known b hmem)

theorem not_mem_of_nodup {user : UserId} {users ids : List UserId}
    (hids : (users ++ [user] ++ ids).Nodup) : user ∉ users := by
  intro hmem
  have hdisjoint := (List.nodup_append.1 hids.of_append_left).2.2
  exact hdisjoint _ hmem _ (List.mem_singleton_self user) rfl

/-- As long as new accounts get unused ids, a sign-in leaves every account with one external id. -/
theorem Separates.signIn {users : List UserId} (hseparates : d.Separates users)
    (hfresh : fresh ∉ users)
    (hsignIn : d.signIn external username create fresh = .ok (found, d')) :
    d'.Separates (users ++ [fresh]) := by
  obtain ⟨-, -, -, rfl⟩ | ⟨-, -, -, -, rfl⟩ := signIn_eq_ok hsignIn
  · exact hseparates.mono (List.subset_append_left _ _)
  · constructor
    · rw [bind, List.map_append, List.nodup_append]
      refine ⟨hseparates.distinct, List.nodup_singleton _, ?_⟩
      intro user huser user' huser' hsame
      obtain ⟨b, hmem, rfl⟩ := List.mem_map.1 huser
      rw [List.map_singleton, List.mem_singleton] at huser'
      have hknown := hseparates.known b hmem
      rw [hsame, huser'] at hknown
      exact hfresh hknown
    · intro b hmem
      rw [bind, List.mem_append, List.mem_singleton] at hmem
      obtain hold | rfl := hmem
      · exact List.mem_append_left _ (hseparates.known b hold)
      · exact List.mem_append_right _ List.mem_cons_self

/-- Two external ids have the same user only if they are the same. -/
theorem Separates.user_eq_iff {users : List UserId} (hseparates : d.Separates users)
    {external₁ external₂ : ExternalId} {account₁ account₂ : Account}
    (hbound₁ : d.bound? external₁ = some account₁)
    (hbound₂ : d.bound? external₂ = some account₂) :
    account₁.user = account₂.user ↔ external₁ = external₂ := by
  constructor
  · intro hsame
    rw [bound?, Option.map_eq_some_iff] at hbound₁ hbound₂
    obtain ⟨b₁, hfind₁, rfl⟩ := hbound₁
    obtain ⟨b₂, hfind₂, rfl⟩ := hbound₂
    have hbinding : b₁ = b₂ := List.inj_on_of_nodup_map hseparates.distinct
      (List.mem_of_find?_eq_some hfind₁) (List.mem_of_find?_eq_some hfind₂) hsame
    have hexternal₁ : b₁.external = external₁ := by
      simpa only [decide_eq_true_eq] using List.find?_some hfind₁
    have hexternal₂ : b₂.external = external₂ := by
      simpa only [decide_eq_true_eq] using List.find?_some hfind₂
    rw [← hexternal₁, ← hexternal₂, hbinding]
  · rintro rfl
    cases hbound₁.symm.trans hbound₂
    rfl

end Directory

end PlayerHub
