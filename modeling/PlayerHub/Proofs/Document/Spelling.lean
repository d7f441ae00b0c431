import PlayerHub.Proofs.Document.Shelf

namespace PlayerHub

namespace DocumentKind

/-- Whether a value is a JSON form of a document, with the entries of its map in some order. -/
def Spells : (kind : DocumentKind) → kind.Carrier → Json.Value → Prop
  | feedback, (f : Feedback), v => v = f.toJson
  | redeemed, (r : Redeemed), v =>
    ∃ entries, entries.Perm r.records.toList ∧ v = Redeemed.spelled entries
  | invites, (i : Invites), v =>
    ∃ entries, entries.Perm i.invitees.toList ∧ v = i.spelled entries
  | progress, (p : Progress), v => v = p.toJson

/-- The form in which a document is written is a spelling of it. -/
theorem spells_toJson (kind : DocumentKind) (d : kind.Carrier) :
    kind.Spells d (Document.toJson d) :=
  match kind with
  | feedback => rfl
  | redeemed => ⟨_, .refl _, rfl⟩
  | invites => ⟨_, .refl _, rfl⟩
  | progress => rfl

theorem ofJson?_of_spells {kind : DocumentKind} {d : kind.Carrier} {v : Json.Value}
    (hspells : kind.Spells d v) : Document.ofJson? v = some d := by
  cases kind with
  | feedback => exact hspells ▸ Feedback.ofJson?_toJson d
  | progress => exact hspells ▸ Progress.ofJson?_toJson d
  | redeemed =>
    obtain ⟨entries, horder, rfl⟩ := hspells
    exact Redeemed.ofJson?_spelled horder
  | invites =>
    obtain ⟨entries, horder, rfl⟩ := hspells
    exact Invites.ofJson?_spelled horder

theorem decode_print_of_spells {kind : DocumentKind} {d : kind.Carrier} {v : Json.Value}
    (hspells : kind.Spells d v) : Codec.decode kind.Carrier {} v.print = .ok d := by
  have hdecode : Document.decode? kind.Carrier v.print = some d := by
    rw [Document.decode?, Json.Value.parse?_print, Option.bind_some, ofJson?_of_spells hspells]
  simp only [Codec.decode, hdecode]

/-- Every document of every kind is read back from what is written for it, and from each of its
spellings. So a text that is read, written again and read again gives what it gave at first. -/
theorem documents_survive_rewriting (kind : DocumentKind) :
    (∀ d : kind.Carrier, (Codec.encode {} d).bind (Codec.decode kind.Carrier {}) = .ok d) ∧
    (∀ (d : kind.Carrier) (v : Json.Value), kind.Spells d v →
      Codec.decode kind.Carrier {} v.print = .ok d) ∧
    (∀ text : String,
      ((Codec.decode kind.Carrier {} text).bind fun d =>
        (Codec.encode {} d).bind (Codec.decode kind.Carrier {})) =
      Codec.decode kind.Carrier {} text) := by
  have hread (d : kind.Carrier) :
      (Codec.encode {} d).bind (Codec.decode kind.Carrier {}) = .ok d :=
    decode_print_of_spells (kind.spells_toJson d)
  refine ⟨hread, fun d v => decode_print_of_spells, fun text => ?_⟩
  cases Codec.decode kind.Carrier {} text with
  | error cause => rfl
  | ok d => exact hread d

/-- Two redemptions, of the empty code in a leap second before the year 0 and of a code with a quote
and a control character, are read back in either order. -/
theorem redemptions_read_in_either_order :
    let leap : Calendar.Instant :=
      ⟨⟨-1, 12, 31, by decide, by decide⟩, 23, 59, 60, 1000,
        by decide, by decide, by decide, by decide, by decide⟩
    let first : String × Redemption := ("", ⟨"", leap⟩)
    let second : String × Redemption := ("\"\x01", ⟨"é", leap⟩)
    let r : Redeemed := ⟨(NameMap.empty.insert "\"\x01" second.2).insert "" first.2⟩
    let text := "\x7b\"records\":\x7b" ++
      "\"\\\"\\u0001\":\x7b\"code\":\"é\",\"time\":\"-0001-12-31T23:59:60.000001Z\"\x7d," ++
      "\"\":\x7b\"code\":\"\",\"time\":\"-0001-12-31T23:59:60.000001Z\"\x7d\x7d\x7d"
    r.records.toList = [first, second] ∧
      (Redeemed.spelled [second, first]).print = text ∧
      Codec.decode Redeemed {} text = .ok r ∧
      Document.encode r ≠ text ∧
      (Codec.encode {} r).bind (Codec.decode Redeemed {}) = .ok r := by
  intro leap first second r text
  have hentries : r.records.toList = [first, second] := by decide +kernel
  have hspells : DocumentKind.redeemed.Spells r (Redeemed.spelled [second, first]) :=
    ⟨_, hentries ▸ .swap first second [], rfl⟩
  obtain ⟨hwritten, hread, -⟩ := documents_survive_rewriting .redeemed
  have htext : (Redeemed.spelled [second, first]).print = text := by decide +kernel
  exact ⟨hentries, htext, htext ▸ hread r _ hspells, by decide +kernel, hwritten r⟩

end DocumentKind

end PlayerHub
