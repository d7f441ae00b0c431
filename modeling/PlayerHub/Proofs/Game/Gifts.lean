import PlayerHub.Proofs.Game.Basic

namespace PlayerHub.Game

open Calendar (Instant)

/-- Whether a call redeems a code for a user. -/
def redeems (g : Game) (user : UserId) (code : String) (c : GameCall) : Bool :=
  match c, g.answer c with
  | .redeem _ user' code' _, .redeem (.ok .redeemed) => user' = user && code' = code
  | _, _ => false

/-- How often a code is redeemed for a user in a run. -/
def redemptions (g : Game) (user : UserId) (code : String) : List GameCall → Nat
  | [] => 0
  | c :: calls => (g.redeems user code c).toNat + (g.next c).redemptions user code calls

/-- Whether a code has been redeemed for a user in a run, and when. -/
def RedeemedIn (g : Game) (user : UserId) (code : String) (now : Instant) :
    List GameCall → Prop
  | [] => False
  | c :: calls =>
    (∃ catalog, c = .redeem catalog user code now ∧ g.answer c = .redeem (.ok .redeemed)) ∨
      (g.next c).RedeemedIn user code now calls

/-- The redeemed codes of a user, as the storage has them. -/
def redeemed (g : Game) (user : UserId) : Except StoreError Redeemed :=
  g.store.storage.look Redeemed user

variable {g : Game} {user : UserId} {code : String} {c : GameCall} {calls : List GameCall}

theorem redeems_eq_true_iff :
    g.redeems user code c = true ↔
      ∃ catalog now, c = .redeem catalog user code now ∧ g.answer c = .redeem (.ok .redeemed) := by
  constructor
  · intro h
    unfold redeems at h
    split at h
    · rename_i hanswer
      simp only [Bool.and_eq_true, decide_eq_true_eq] at h
      obtain ⟨rfl, rfl⟩ := h
      exact ⟨_, _, rfl, hanswer⟩
    · cases h
  · rintro ⟨catalog, now, rfl, hanswer⟩
    simp [redeems, hanswer]

private theorem redeemed_next_of_not_redeem (hcodec : g.store.codec = {})
    (hc : ∀ catalog code now, c ≠ .redeem catalog user code now) :
    (g.next c).redeemed user = g.redeemed user := by
  by_cases hkey : c.key? = some (Document.key Redeemed)
  · cases c with
    | redeem catalog user' code now =>
      have huser : user ≠ user' := fun h => hc catalog code now (by rw [h])
      obtain ⟨answer, s', -, hstorage, heffect⟩ := redeem_next hcodec catalog user' code now
      rw [redeemed, hstorage, redeemed]
      cases heffect with
      | redeemed hlook hcode hnew => exact Storage.look_keep_of_user_ne _ _ huser
      | failed e => rfl
      | invalid hcode => rfl
      | again hlook hcode hold => rfl
    | _ => simp [GameCall.key?, Document.key] at hkey
  · exact look_next_of_key_ne hcodec hkey user

/-- A call redeems a code that is new to the record of a user and adds it, or it leaves the record
alone. -/
theorem redeemed_next (hcodec : g.store.codec = {}) (user : UserId) (c : GameCall) :
    (∃ catalog code now r, c = .redeem catalog user code now ∧
        g.answer c = .redeem (.ok .redeemed) ∧ g.redeemed user = .ok r ∧
        r.records.get? code = none ∧ (g.next c).redeemed user = .ok (r.add code now)) ∨
      ((g.next c).redeemed user = g.redeemed user ∧
        ∀ catalog code now, c = .redeem catalog user code now →
          g.answer c ≠ .redeem (.ok .redeemed)) := by
  by_cases hc : ∃ catalog code now, c = .redeem catalog user code now
  · obtain ⟨catalog, code, now, rfl⟩ := hc
    obtain ⟨answer, s', hanswer, hstorage, heffect⟩ := redeem_next hcodec catalog user code now
    rw [hanswer, redeemed, redeemed, hstorage]
    cases heffect with
    | redeemed hlook hcode hnew =>
      exact .inl ⟨catalog, code, now, _, rfl, rfl, hlook, hnew, Storage.look_keep_self _ _ _⟩
    | failed e => exact .inr ⟨rfl, by simp⟩
    | invalid hcode => exact .inr ⟨rfl, by simp⟩
    | again hlook hcode hold => exact .inr ⟨rfl, by simp⟩
  · have hnot : ∀ catalog code now, c ≠ .redeem catalog user code now :=
      fun catalog code now h => hc ⟨catalog, code, now, h⟩
    exact .inr ⟨redeemed_next_of_not_redeem hcodec hnot,
      fun catalog code now h => absurd h (hnot catalog code now)⟩

theorem get?_add (r : Redeemed) (code : String) (now : Instant) (k : String) :
    (r.add code now).records.get? k = if k = code then some ⟨code, now⟩ else r.records.get? k :=
  NameMap.get?_insert r.records code k ⟨code, now⟩

/-- After a run, a record holds what it held before and what has been redeemed in the run. -/
theorem redeemed_run (hcodec : g.store.codec = {}) {r : Redeemed}
    (hr : g.redeemed user = .ok r) (calls : List GameCall) :
    ∃ r', (g.run calls).redeemed user = .ok r' ∧ ∀ code x, r'.records.get? code = some x ↔
      r.records.get? code = some x ∨ ∃ now, g.RedeemedIn user code now calls ∧ x = ⟨code, now⟩ := by
  induction calls generalizing g r with
  | nil => exact ⟨r, hr, fun code x => by simp [RedeemedIn]⟩
  | cons c calls ih =>
    have hcodec' := codec_next hcodec c
    obtain ⟨catalog, code, now, r₀, hc, hanswer, hlook, hnew, hnext⟩ | ⟨hsame, hnone⟩ :=
      redeemed_next hcodec user c
    · obtain rfl : r₀ = r := Except.ok.inj (hlook.symm.trans hr)
      obtain ⟨r', hrun, hrecords⟩ := ih hcodec' hnext
      refine ⟨r', hrun, fun k x => ?_⟩
      rw [hrecords k x, get?_add]
      by_cases hk : k = code
      · subst hk
        simp only [if_true, hnew, reduceCtorEq, false_or, Option.some.injEq, RedeemedIn]
        constructor
        · rintro (rfl | ⟨now', hin, rfl⟩)
          · exact ⟨now, .inl ⟨catalog, hc, hanswer⟩, rfl⟩
          · exact ⟨now', .inr hin, rfl⟩
        · rintro ⟨now', ⟨catalog', hc', -⟩ | hin, rfl⟩
          · rw [hc, GameCall.redeem.injEq] at hc'
            rw [hc'.2.2.2]
            exact .inl rfl
          · exact .inr ⟨now', hin, rfl⟩
      · have hother : ∀ now', ¬ ∃ catalog', c = .redeem catalog' user k now' ∧
            g.answer c = .redeem (.ok .redeemed) := by
          rintro now' ⟨catalog', hc', -⟩
          rw [hc, GameCall.redeem.injEq] at hc'
          exact hk hc'.2.2.1.symm
        simp only [hk, if_false, RedeemedIn, hother, false_or]
    · obtain ⟨r', hrun, hrecords⟩ := ih hcodec' (hsame.trans hr)
      refine ⟨r', hrun, fun k x => ?_⟩
      have hother : ∀ now', ¬ ∃ catalog', c = .redeem catalog' user k now' ∧
          g.answer c = .redeem (.ok .redeemed) := by
        rintro now' ⟨catalog', hc', hanswer⟩
        exact hnone catalog' k now' hc' hanswer
      rw [hrecords k x]
      simp only [RedeemedIn, hother, false_or]

/-- A code in the record of a user is not redeemed for the user again. -/
theorem answer_redeem_of_recorded (hcodec : g.store.codec = {}) {r : Redeemed} {x : Redemption}
    (hr : g.redeemed user = .ok r) (hx : r.records.get? code = some x) (catalog : Catalog)
    (now : Instant) :
    ∃ answer, g.answer (.redeem catalog user code now) = .redeem answer ∧
      ((∃ e, answer = .error e) ∨ (catalog.find? code = none ∧ answer = .ok .invalidCode) ∨
        (catalog.find? code ≠ none ∧ answer = .ok .alreadyRedeemed)) := by
  obtain ⟨answer, s', hanswer, -, heffect⟩ := redeem_next hcodec catalog user code now
  refine ⟨answer, hanswer, ?_⟩
  cases heffect with
  | failed e => exact .inl ⟨e, rfl⟩
  | invalid hcode => exact .inr (.inl ⟨hcode, rfl⟩)
  | again hlook hcode hold => exact .inr (.inr ⟨hcode, rfl⟩)
  | redeemed hlook hcode hnew =>
    cases hlook.symm.trans hr
    cases hnew.symm.trans hx

/-- A code on record is never redeemed again, whatever other calls come between and whichever calls
to the storage fail. -/
theorem redemptions_of_recorded (hcodec : g.store.codec = {}) {r : Redeemed} {x : Redemption}
    (hr : g.redeemed user = .ok r) (hx : r.records.get? code = some x) (calls : List GameCall) :
    g.redemptions user code calls = 0 := by
  induction calls generalizing g r with
  | nil => rfl
  | cons c calls ih =>
    have hcodec' := codec_next hcodec c
    have hnot : g.redeems user code c = false := by
      rw [← Bool.not_eq_true, redeems_eq_true_iff]
      rintro ⟨catalog, now, rfl, hredeemed⟩
      obtain ⟨answer, hanswer, hcases⟩ := answer_redeem_of_recorded hcodec hr hx catalog now
      cases hanswer.symm.trans hredeemed
      simp at hcases
    -- The record of the code stays where it is.
    obtain ⟨r', hrun, hrecords⟩ := redeemed_run hcodec hr [c]
    have hx' : r'.records.get? code = some x := (hrecords code x).2 (.inl hx)
    rw [redemptions, hnot, ih hcodec' hrun hx']
    rfl

theorem redemptions_le_one (hcodec : g.store.codec = {}) (user : UserId) (code : String)
    (calls : List GameCall) : g.redemptions user code calls ≤ 1 := by
  induction calls generalizing g with
  | nil => exact Nat.zero_le 1
  | cons c calls ih =>
    have hcodec' := codec_next hcodec c
    rw [redemptions]
    cases hredeems : g.redeems user code c with
    | false =>
      have hrest := ih hcodec'
      rw [Bool.toNat_false]
      omega
    | true =>
      obtain ⟨catalog, now, hc, hanswer⟩ := redeems_eq_true_iff.1 hredeems
      obtain ⟨_, code', now', r, hc', -, -, -, hnext⟩ | ⟨-, hnone⟩ := redeemed_next hcodec user c
      · rw [hc, GameCall.redeem.injEq] at hc'
        obtain ⟨-, -, rfl, rfl⟩ := hc'
        have hx : (r.add code now).records.get? code = some ⟨code, now⟩ := by
          rw [get?_add, if_pos rfl]
        rw [redemptions_of_recorded hcodec' hnext hx]
        exact Nat.le_refl 1
      · exact absurd hanswer (hnone catalog code now hc)

/-- Whatever players do and whichever calls to the storage fail: a user redeems a code once at
most. The record of a user holds the codes redeemed for the user, each under its own name. From
then on, an attempt to redeem such a code again fails, or is told that the code is not in the
catalog or redeemed already. -/
theorem code_redeemed_at_most_once (gate : Gate) (calls : List GameCall) (user : UserId) :
    (∀ code, (start gate).redemptions user code calls ≤ 1) ∧
      (∃ r, ((start gate).run calls).redeemed user = .ok r ∧
        ∀ code x, r.records.get? code = some x ↔
          ∃ now, (start gate).RedeemedIn user code now calls ∧ x = ⟨code, now⟩) ∧
      ∀ code time, (start gate).RedeemedIn user code time calls → ∀ catalog now,
        ∃ answer, ((start gate).run calls).answer (.redeem catalog user code now) =
            .redeem answer ∧
          ((∃ e, answer = .error e) ∨ (catalog.find? code = none ∧ answer = .ok .invalidCode) ∨
            (catalog.find? code ≠ none ∧ answer = .ok .alreadyRedeemed)) := by
  have hfresh : (start gate).redeemed user = .ok {} := Storage.look_empty user
  obtain ⟨r, hrun, hrecords⟩ := @redeemed_run (start gate) user rfl {} hfresh calls
  have hexact : ∀ code x, r.records.get? code = some x ↔
      ∃ now, (start gate).RedeemedIn user code now calls ∧ x = ⟨code, now⟩ := by
    intro code x
    have hnone : ({} : Redeemed).records.get? code = none := rfl
    rw [hrecords code x, hnone]
    simp only [reduceCtorEq, false_or]
  refine ⟨fun code => redemptions_le_one rfl user code calls, ⟨r, hrun, hexact⟩, ?_⟩
  intro code time hin catalog now
  have hx := (hexact code ⟨code, time⟩).2 ⟨time, hin, rfl⟩
  exact answer_redeem_of_recorded (codec_run_start gate calls) hrun hx catalog now

/-- A code whose first redemption could not be saved is redeemed at the second attempt. -/
theorem code_redeemed_after_refused_save :
    let ada : UserId := ⟨List.replicate 32 1, List.length_replicate⟩
    let day : Calendar.Date := ⟨2024, 2, 29, by decide, by decide⟩
    let noon : Instant :=
      ⟨day, 12, 0, 0, 0, by decide, by decide, by decide, by decide, by decide⟩
    let gate : Gate := fun n _ => if n = 1 then some "write rejected" else none
    let call : GameCall := .redeem (.ofList [{ id := "GIFT" }]) ada "GIFT" noon
    (start gate).redeems ada "GIFT" call = false ∧
      ((start gate).next call).redeems ada "GIFT" call = true ∧
      (start gate).redemptions ada "GIFT" [call, call, call] ≤ 1 ∧
      ∃ r, ((start gate).run [call, call, call]).redeemed ada = .ok r ∧
        r.records.get? "GIFT" = some ⟨"GIFT", noon⟩ := by
  intro ada day noon gate call
  have hsecond : ((start gate).next call).answer call = .redeem (.ok .redeemed) := rfl
  have hin : (start gate).RedeemedIn ada "GIFT" noon [call, call, call] :=
    .inr (.inl ⟨_, rfl, hsecond⟩)
  obtain ⟨honce, ⟨r, hrun, hrecords⟩, -⟩ :=
    code_redeemed_at_most_once gate [call, call, call] ada
  exact ⟨rfl, rfl, honce "GIFT", r, hrun, (hrecords "GIFT" _).2 ⟨noon, hin, rfl⟩⟩

end PlayerHub.Game
