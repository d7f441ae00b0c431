import PlayerHub.Proofs.Platform.Answer
import PlayerHub.Proofs.Platform.Verdict
import PlayerHub.Service.Failure

namespace PlayerHub

open Json (Tells Value)

namespace Platform

/-- The name under which a platform gives the number of the error. -/
def numberName : Platform → String
  | .wechat => "errcode"
  | .tiktok => "err_no"

/-- The name under which a platform says something about the error. -/
def messageName : Platform → String
  | .wechat => "errmsg"
  | .tiktok => "err_tips"

/-- Whether what a platform gives for an id is of its kind. Only the data of TikTok may be
`null`. -/
def IdIsTyped (p : Platform) (members : List (Option String × Value)) : Prop :=
  match p with
  | .wechat => ∀ v, (some "openid", v) ∈ members → ∃ openid, v = .str openid
  | .tiktok => ∀ v, (some "data", v) ∈ members → ∃ openid, DataTells (some v) openid

/-- Whether what is read from an answer beside the number of the error is of its kind. -/
def IsTyped (p : Platform) (members : List (Option String × Value)) : Prop :=
  (∀ m ∈ members, m.1 ≠ none) ∧
    (∀ v, (some p.messageName, v) ∈ members → ∃ text, v = .str text) ∧ p.IdIsTyped members

variable {p : Platform} {s : PlatformSettings} {network : Network} {c : LoginCode}
  {members : List (Option String × Value)} {verdict : Verdict} {number : Int64}

theorem gives_three {a b d : String} {x y z : Option Value} :
    (Value.record members).Gives [a, b, d] [x, y, z] ↔ (∀ m ∈ members, m.1 ≠ none) ∧
      Value.GivesAt members a x ∧ Value.GivesAt members b y ∧ Value.GivesAt members d z := by
  simp only [Value.Gives, List.forall₂_cons, List.forall₂_nil_left_iff, and_true]

theorem exists_dataTells_iff {m : Option Value} (h : Value.GivesAt members "data" m) :
    (∃ openid, DataTells m openid) ↔
      ∀ v, (some "data", v) ∈ members → ∃ openid, DataTells (some v) openid := by
  simp only [← h.2]
  constructor
  · rintro hdata v rfl
    exact hdata
  · intro hall
    cases m with
    | none => exact ⟨"", .absent⟩
    | some v => exact hall v rfl

theorem eq_of_tells_int {m : Option Value} {n : Int64}
    (hm : m = some (.int number.toInt)) (h : Tells 0 (fun n : Int64 => .int n.toInt) m n) :
    n = number := by
  obtain hn | ⟨hnone, -⟩ := h
  · have hint := congrArg Value.int? (Option.some.inj (hn.symm.trans hm))
    exact Int64.toInt_inj.1 (Option.some.inj hint)
  · cases hnone.symm.trans hm

/-- The number that is said is the one that stands there. -/
theorem number_of_says (hnumber : (some p.numberName, .int number.toInt) ∈ members)
    (hsaid : p.Says (.record members) verdict) : verdict.number = number := by
  cases hsaid with
  | wechat hmembers htells =>
    obtain ⟨-, -, hgives, -⟩ := gives_three.1 hmembers
    exact eq_of_tells_int ((hgives.2 _).2 hnumber) htells
  | tiktok hmembers htells =>
    obtain ⟨-, hgives, -⟩ := gives_three.1 hmembers
    exact eq_of_tells_int ((hgives.2 _).2 hnumber) htells

/-- Where the number of an error stands, something is said exactly if the rest is of its kind. -/
theorem exists_says_iff (hnames : (members.filterMap (·.1)).Nodup)
    (hnumber : (some p.numberName, .int number.toInt) ∈ members) :
    (∃ verdict, p.Says (.record members) verdict) ↔ p.IsTyped members := by
  constructor
  · rintro ⟨verdict, hsaid⟩
    cases hsaid with
    | wechat hmembers hnumber hmessage hopenid =>
      obtain ⟨htexts, hgivesId, -, hgivesMessage⟩ := gives_three.1 hmembers
      exact ⟨htexts, (Json.exists_tells_iff hgivesMessage).1 ⟨_, hmessage⟩,
        (Json.exists_tells_iff hgivesId).1 ⟨_, hopenid⟩⟩
    | tiktok hmembers hnumber hmessage hdata =>
      obtain ⟨htexts, -, hgivesMessage, hgivesData⟩ := gives_three.1 hmembers
      exact ⟨htexts, (Json.exists_tells_iff hgivesMessage).1 ⟨_, hmessage⟩,
        (exists_dataTells_iff hgivesData).1 ⟨_, hdata⟩⟩
  · rintro ⟨htexts, hmessages, hids⟩
    have hgiven (name : String) : ∃ given, Value.GivesAt members name given :=
      Value.exists_givesAt (Value.count_names_le_one hnames name)
    obtain ⟨n, hgivesNumber⟩ := hgiven p.numberName
    obtain ⟨m, hgivesMessage⟩ := hgiven p.messageName
    have htells : Tells 0 (fun n : Int64 => .int n.toInt) n number :=
      .inl ((hgivesNumber.2 _).2 hnumber)
    obtain ⟨message, hmessage⟩ := (Json.exists_tells_iff (d := "") hgivesMessage).2 hmessages
    cases p with
    | wechat =>
      obtain ⟨o, hgivesId⟩ := hgiven "openid"
      obtain ⟨openid, hopenid⟩ := (Json.exists_tells_iff (d := "") hgivesId).2 hids
      exact ⟨⟨number, message, openid⟩,
        .wechat (gives_three.2 ⟨htexts, hgivesId, hgivesNumber, hgivesMessage⟩) htells hmessage
          hopenid⟩
    | tiktok =>
      obtain ⟨d, hgivesData⟩ := hgiven "data"
      obtain ⟨openid, hdata⟩ := (exists_dataTells_iff hgivesData).2 hids
      exact ⟨⟨number, message, openid⟩,
        .tiktok (gives_three.2 ⟨htexts, hgivesNumber, hgivesMessage, hgivesData⟩) htells hmessage
          hdata⟩

theorem Answers.unique {v w : Value} (hv : p.Answers s network c v) (hw : p.Answers s network c w) :
    v = w := by
  obtain ⟨request, status, body, hrequest, hnetwork, -, hbody⟩ := hv
  obtain ⟨request', status', body', hrequest', hnetwork', -, hbody'⟩ := hw
  cases hrequest.symm.trans hrequest'
  cases hnetwork.symm.trans hnetwork'
  exact Option.some.inj (hbody.symm.trans hbody')

/-- An answer with the number of an error comes to the refusal of the code, with just that number,
exactly if everything else that is read from it is of its kind, and then the player is at fault. In
any case it is an error. -/
theorem refusal_is_told_iff_typed (hanswers : p.Answers s network c (.record members))
    (hnames : (members.filterMap (·.1)).Nodup)
    (hnumber : (some p.numberName, .int number.toInt) ∈ members) (herror : number ≠ 0) :
    let answer := p.exchange s network c
    ((∃ message, answer = .error (.provider p.name number.toInt message)) ↔ p.IsTyped members) ∧
      ∃ e, answer = .error e ∧
        ((ServerError.identity e).isPlayersFault = true ↔ p.IsTyped members) := by
  intro answer
  by_cases htyped : p.IsTyped members
  · obtain ⟨verdict, hsaid⟩ := (exists_says_iff hnames hnumber).2 htyped
    have hverdict := number_of_says hnumber hsaid
    have hjudge : answer = .error (.provider p.name number.toInt verdict.message) := by
      rw [← hverdict]
      exact (exchange_eq_judge ⟨_, hanswers, hsaid⟩).trans (judge_of_error (hverdict ▸ herror))
    exact ⟨iff_of_true ⟨_, hjudge⟩ htyped, _, hjudge, iff_of_true rfl htyped⟩
  · obtain ⟨reason, hreason⟩ : ∃ reason, answer = .error (.network p.name reason) := by
      apply exchange_of_not_brings
      rintro verdict ⟨v, hv, hsaid⟩
      cases hv.unique hanswers
      exact htyped ((exists_says_iff hnames hnumber).1 ⟨verdict, hsaid⟩)
    refine ⟨iff_of_false ?_ htyped, _, hreason, iff_of_false nofun htyped⟩
    rintro ⟨message, hmessage⟩
    cases hreason.symm.trans hmessage

theorem answers_answering {v : Value} (hrequest : (p.request? s c).isSome = true) :
    p.Answers s (.answering v) c v := by
  obtain ⟨request, hrequest⟩ := Option.isSome_iff_exists.1 hrequest
  refine ⟨request, 200, _, hrequest, rfl, by omega, ?_⟩
  rw [Utf8.decodeLossy_encode]
  exact Value.parse?_print v

/-- TikTok refuses a code with data that are `null`, and with members that nobody reads. -/
theorem refusal_with_null_data_is_told :
    let members : List (Option String × Value) :=
      [(some "log_id", .list [.null, .number (.other none)]), (some "err_no", .int 40014),
        (some "data", .null), (some "err_tips", .str "bad \"code\"")]
    let answer := Platform.tiktok.exchange {} (.answering (.record members)) ⟨"zzz", none⟩
    ((some "err_no", .int 40014) ∈ members ∧ Platform.tiktok.IsTyped members) ∧
      (∃ message, answer = .error (.provider "tiktok" 40014 message)) ∧
        ∃ e, answer = .error e ∧ (ServerError.identity e).isPlayersFault = true := by
  intro members answer
  have hnumber : (some "err_no", Value.int 40014) ∈ members := by simp [members]
  have htyped : Platform.tiktok.IsTyped members := by
    refine ⟨by simp [members], ?_, ?_⟩
    · intro v hv
      have hv : v = .str "bad \"code\"" := by simpa [members, messageName] using hv
      exact ⟨_, hv⟩
    · intro v hv
      have hv : v = .null := by simpa [members] using hv
      exact hv ▸ ⟨"", .null⟩
  have hanswers : Platform.tiktok.Answers {} (.answering (.record members)) ⟨"zzz", none⟩
      (.record members) := answers_answering (isSome_request?_of_public rfl)
  have hnames : (members.filterMap (·.1)).Nodup := by decide
  obtain ⟨htold, e, he, hfault⟩ :=
    @refusal_is_told_iff_typed _ _ _ _ _ 40014 hanswers hnames hnumber (by decide)
  exact ⟨⟨hnumber, htyped⟩, htold.2 htyped, e, he, hfault.2 htyped⟩

/-- WeChat refuses a code and gives `null` for the id, and the network is blamed. -/
theorem refusal_with_null_id_is_no_refusal :
    let v := Value.ofMembers
      [("openid", .null), ("errcode", .int 40029), ("errmsg", .str "invalid code")]
    let answer := Platform.wechat.exchange {} (.answering v) ⟨"bad", none⟩
    v.print = "\x7b\"openid\":null,\"errcode\":40029,\"errmsg\":\"invalid code\"\x7d" ∧
      ∃ reason, answer = .error (.network "wechat" reason) ∧
        (ServerError.identity (.network "wechat" reason)).isPlayersFault = false := by
  intro v answer
  have hanswers : Platform.wechat.Answers {} (.answering v) ⟨"bad", none⟩ v :=
    answers_answering (isSome_request?_of_public rfl)
  have hread : Platform.wechat.verdict? v = none := by decide
  have hnot : ∀ verdict, ¬ Platform.wechat.Brings {} (.answering v) ⟨"bad", none⟩ verdict := by
    rintro verdict ⟨w, hw, hsaid⟩
    obtain rfl := hw.unique hanswers
    cases hread.symm.trans (verdict?_eq_some_iff.2 hsaid)
  obtain ⟨reason, hreason⟩ := exchange_of_not_brings hnot
  exact ⟨by decide +kernel, reason, hreason, rfl⟩

end Platform

end PlayerHub
