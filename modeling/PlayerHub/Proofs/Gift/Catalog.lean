import PlayerHub.Proofs.Gift.Redeem
import PlayerHub.Proofs.Json.Members
import PlayerHub.Proofs.Json.RoundTrip

namespace PlayerHub

open Json (Value)

namespace Catalog

/-- Whether every gift is filed under its own id, and so under one code only. -/
def IsKeyed (c : Catalog) : Prop := ∀ code g, c.find? code = some g → g.id = code

/-- The entries that a text writes, in the order of the text. -/
def written? (text : String) : Option (List (String × Gift)) :=
  if text.toList.all Text.isBlank then some []
  else (Value.parse? text).bind (·.entries? Gift.ofJson?)

theorem parse?_eq (text : String) :
    parse? text = (written? text).map fun entries => ⟨.ofList entries⟩ := by
  rw [parse?, written?]
  split
  · rfl
  · simp only [Option.bind_eq_bind, Option.pure_def, Option.map_eq_bind, Option.bind_assoc]
    rfl

/-- The entries of a text are those of the value that it writes. -/
theorem written?_of_parse? {text : String} {v : Value} (h : Value.parse? text = some v) :
    written? text = v.entries? Gift.ofJson? := by
  have hblank : ¬ text.toList.all Text.isBlank = true := by
    intro hblank
    rw [Value.parse?_of_blanks hblank] at h
    cases h
  rw [written?, if_neg hblank, h, Option.bind_some]

/-- The text that a load reads: what the storage has, or else what the file has. -/
def loadedText? (s : Store) (file : Option (List UInt8)) : Option String :=
  match s.refusal? (.read .server [⟨collection, key, .shared⟩]),
      s.storage.find? .server ⟨collection, key, .shared⟩ with
  | none, some o => some o.content.value
  | _, _ => (file.bind Utf8.decode?).map String.ofList

/-- The file counts where the storage holds no catalog or does not answer. A catalog in the storage
that cannot be read is no reason to ask the file. -/
theorem load_eq (s : Store) (file : Option (List UInt8)) :
    load file s = (((loadedText? s file).bind parse?).getD {},
      s.noting (.read .server [⟨collection, key, .shared⟩])) := by
  have hread := @Store.read_eq s .server ⟨collection, key, .shared⟩
  have hfile : ofFile file = (((file.bind Utf8.decode?).map String.ofList).bind parse?).getD {} := by
    rw [ofFile, Option.bind_map]
    rfl
  rw [load, loadedText?, StoreM.perform, Store.readText]
  cases hrefusal : s.refusal? (.read .server [⟨collection, key, .shared⟩]) with
  | some e =>
    rw [hrefusal] at hread
    rw [Perform.bind_of_error hread, hfile]
  | none =>
    rw [hrefusal] at hread
    rw [Perform.bind_of_ok hread]
    cases s.storage.find? .server ⟨collection, key, .shared⟩ with
    | none => exact congrArg (·, _) hfile
    | some o => rfl

/-- Where a catalog may come from. -/
inductive Source where
  | listed (gifts : List Gift)
  | written (text : String)
  | loaded (s : Store) (file : Option (List UInt8))

namespace Source

/-- The catalog that comes from a source, if its text is accepted. -/
def catalog? : Source → Option Catalog
  | .listed gifts => some (ofList gifts)
  | .written text => parse? text
  | .loaded s file => some (load file s).1

/-- The entries that a source gives, in their order. -/
def entries? : Source → Option (List (String × Gift))
  | .listed gifts => some (gifts.map fun g => (g.id, g))
  | .written text => written? text
  | .loaded s file => some (((loadedText? s file).bind written?).getD [])

theorem catalog?_eq (source : Source) :
    source.catalog? = source.entries?.map fun entries => ⟨.ofList entries⟩ := by
  cases source with
  | listed gifts => rfl
  | written text => exact parse?_eq text
  | loaded s file =>
    rw [catalog?, entries?, load_eq]
    cases loadedText? s file with
    | none => rfl
    | some text =>
      rw [Option.bind_some, Option.bind_some, parse?_eq]
      cases written? text <;> rfl

end Source

theorem isKeyed_mk_ofList_iff {entries : List (String × Gift)} :
    IsKeyed ⟨.ofList entries⟩ ↔ ∀ before code g after, entries = before ++ (code, g) :: after →
      code ∉ after.map (·.1) → g.id = code := by
  simp only [IsKeyed, find?, NameMap.get?_ofList_eq_some_iff]
  constructor
  · intro hkeyed before code g after hentries hlast
    exact hkeyed code g ⟨before, after, hentries, hlast⟩
  · rintro hentries code g ⟨before, after, rfl, hlast⟩
    exact hentries before code g after rfl hlast

theorem isKeyed_ofList (gifts : List Gift) : (ofList gifts).IsKeyed := by
  rw [ofList, isKeyed_mk_ofList_iff]
  intro before code g after hentries _
  have hmem : (code, g) ∈ gifts.map fun g => (g.id, g) := by
    rw [hentries]
    exact List.mem_append_right _ List.mem_cons_self
  obtain ⟨g', -, heq⟩ := List.mem_map.1 hmem
  cases heq
  rfl

/-- Listed gifts are filed under their own ids. What comes from a text is so exactly if its entries
are, where of the entries of one code only the last one counts. Then every code that is redeemed is
the id of the gift that it stands for. -/
theorem isKeyed_iff_last_entries_keyed {source : Source} {c : Catalog}
    (h : source.catalog? = some c) :
    (∀ gifts, source = .listed gifts → c.IsKeyed) ∧
    (c.IsKeyed ↔ ∃ entries, source.entries? = some entries ∧
      ∀ before code g after, entries = before ++ (code, g) :: after →
        code ∉ after.map (·.1) → g.id = code) ∧
    (c.IsKeyed → ∀ user code now (s : Store),
      ((c.redeem user code now).perform s).1 = .ok .redeemed →
        ∃ g, c.find? code = some g ∧ g.id = code) := by
  refine ⟨?_, ?_, ?_⟩
  · rintro gifts rfl
    obtain rfl := Option.some.inj h
    exact isKeyed_ofList gifts
  · rw [Source.catalog?_eq] at h
    obtain ⟨entries, hentries, rfl⟩ := Option.map_eq_some_iff.1 h
    rw [isKeyed_mk_ofList_iff, hentries]
    simp only [Option.some.injEq, exists_eq_left']
  · intro hkeyed user code now s hredeemed
    obtain ⟨g, hg⟩ := exists_find?_of_redeemed hredeemed
    exact ⟨g, hg, hkeyed code g hg⟩

/-- A text that gives a code to another gift first, and then to the gift with this id. -/
theorem corrected_gift_is_filed_under_its_id :
    let other : Gift := { id := "SPRING", coupon := 2 }
    let gift : Gift := { id := "WELCOME", coin := 100 }
    let text := (Value.ofMembers [("WELCOME", other.toJson), ("WELCOME", gift.toJson)]).print
    let c := ofList [gift]
    (Source.written text).catalog? = some c ∧ c.IsKeyed := by
  intro other gift text c
  have hentries : (Source.written text).entries? = some [("WELCOME", other), ("WELCOME", gift)] :=
    (written?_of_parse? (Value.parse?_print _)).trans rfl
  have hcatalog : (Source.written text).catalog? = some c := by
    rw [Source.catalog?_eq, hentries]
    decide +kernel
  obtain ⟨-, hkeyed, -⟩ := isKeyed_iff_last_entries_keyed hcatalog
  refine ⟨hcatalog, hkeyed.2 ⟨_, hentries, ?_⟩⟩
  rintro (_ | ⟨e, before⟩) code g after heq hlast
  · cases heq
    exact absurd List.mem_cons_self hlast
  · cases before with
    | nil =>
      cases heq
      rfl
    | cons e' before => simp at heq

/-- Eve redeems one gift under two codes, and neither of them is the id of the gift. -/
theorem one_gift_is_redeemed_under_two_codes :
    let eve : UserId := ⟨List.replicate 32 2, List.length_replicate⟩
    let day : Calendar.Date := ⟨2024, 2, 29, by decide, by decide⟩
    let noon : Calendar.Instant :=
      ⟨day, 12, 0, 0, 0, by decide, by decide, by decide, by decide, by decide⟩
    let gift : Gift := { id := "X", coin := 100 }
    let member := Value.ofMembers [("id", .str "X"), ("coin", .int 100)]
    let text := (Value.ofMembers [("A", member), ("B", member)]).print
    ∃ c, (Source.written text).catalog? = some c ∧
      c.find? "A" = some gift ∧ c.find? "B" = some gift ∧ c.find? "X" = none ∧
      ∃ s, (c.redeem eve "A" noon).perform {} = (.ok .redeemed, s) ∧
        ((c.redeem eve "B" noon).perform s).1 = .ok .redeemed := by
  intro eve day noon gift member text
  have hentries : (Source.written text).entries? = some [("A", gift), ("B", gift)] :=
    (written?_of_parse? (Value.parse?_print _)).trans rfl
  obtain ⟨c, hcatalog, hfind⟩ : ∃ c, (Source.written text).catalog? = some c ∧
      ∀ code, c.find? code = [("B", gift), ("A", gift)].lookup code := by
    refine ⟨⟨.ofList [("A", gift), ("B", gift)]⟩, ?_, NameMap.get?_ofList _⟩
    rw [Source.catalog?_eq, hentries, Option.map_some]
  have hfirst : c.find? "A" = some gift := hfind "A"
  have hsecond : c.find? "B" = some gift := hfind "B"
  have hopen : Store.IsOpen {} := ⟨rfl, fun _ _ => rfl, rfl⟩
  have hempty : ({} : Store).storage.look Redeemed eve = .ok {} := Storage.look_empty eve
  obtain ⟨s, hopen', hstorage, hredeemed⟩ := redeem_of_isOpen noon hopen hempty
    (hfirst ▸ Option.some_ne_none gift) rfl
  have hlook : s.storage.look Redeemed eve = .ok (Redeemed.add {} "A" noon) := by
    rw [hstorage]
    exact Storage.look_keep_self _ eve _
  obtain ⟨s', -, -, hagain⟩ := redeem_of_isOpen noon hopen' hlook
    (hsecond ▸ Option.some_ne_none gift) rfl
  exact ⟨c, hcatalog, hfirst, hsecond, hfind "X", s, hredeemed, by rw [hagain]⟩

end Catalog

end PlayerHub
