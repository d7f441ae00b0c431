import PlayerHub.Json.Reader
import PlayerHub.Proofs.Json.Scan
import PlayerHub.Proofs.Text.Utf8

namespace PlayerHub.Json

namespace Value

/-- Induction on values: a container has the property if what it holds has it. -/
theorem induct {motive : Value → Prop} (null : motive .null) (bool : ∀ b, motive (.bool b))
    (number : ∀ n, motive (.number n)) (text : ∀ q, motive (.text q))
    (list : ∀ items, (∀ v ∈ items, motive v) → motive (.list items))
    (record : ∀ members : List (Option String × Value), (∀ m ∈ members, motive m.2) →
      motive (.record members)) (v : Value) : motive v := by
  apply @Value.rec motive (fun items => ∀ v ∈ items, motive v)
    (fun members => ∀ m ∈ members, motive m.2) (fun m => motive m.2)
  · exact null
  · exact bool
  · exact number
  · exact text
  · exact list
  · exact record
  · intro v hv
    cases hv
  · intro v items hv hitems w hw
    rcases List.mem_cons.1 hw with rfl | hw
    · exact hv
    · exact hitems w hw
  · intro m hm
    cases hm
  · intro m members hm hmembers n hn
    rcases List.mem_cons.1 hn with rfl | hn
    · exact hm
    · exact hmembers n hn
  · intro name v hv
    exact hv

end Value

theorem endsNumber_nil : EndsNumber [] := by
  intro c h
  cases h

theorem endsNumber_cons {c : Char} (h : c = ',' ∨ c = ']' ∨ c = '\x7d') (s : List Symbol) :
    EndsNumber (some c :: s) := by
  intro d hd
  cases hd
  rcases h with rfl | rfl | rfl <;> decide

theorem Scans.cons {t : Token} {ts : List Token} {s : List Symbol} (ht : ∀ n, t ≠ .number n)
    (h : Scans ts s) : Scans (t :: ts) s :=
  .append (.singleton t fun n hn => absurd hn (ht n)) h

namespace Value

private theorem scans_itemTokens {items : List Value}
    (h : ∀ v ∈ items, ∀ s, EndsNumber s → Scans v.tokens s) {s : List Symbol}
    (hs : EndsNumber s) : Scans (itemTokens items) s := by
  induction items with
  | nil => exact .nil s
  | cons v items ih =>
    have hv := h v List.mem_cons_self
    cases items with
    | nil => exact hv s hs
    | cons w vs =>
      have hrest := ih fun v hv => h v (List.mem_cons_of_mem _ hv)
      rw [itemTokens]
      apply Scans.append (hv _ (endsNumber_cons (.inl rfl) _))
      exact .cons (by simp) hrest

private theorem scans_memberTokens {members : List (Option String × Value)}
    (h : ∀ m ∈ members, ∀ s, EndsNumber s → Scans m.2.tokens s) {s : List Symbol}
    (hs : EndsNumber s) : Scans (memberTokens members) s := by
  induction members with
  | nil => exact .nil s
  | cons m members ih =>
    obtain ⟨name, v⟩ := m
    have hv := h (name, v) List.mem_cons_self
    cases members with
    | nil =>
      rw [memberTokens]
      exact .cons (by simp) (.cons (by simp) (hv s hs))
    | cons m members =>
      have hrest := ih fun v hv => h v (List.mem_cons_of_mem _ hv)
      rw [memberTokens]
      apply Scans.cons (by simp)
      apply Scans.cons (by simp)
      apply Scans.append (hv _ (endsNumber_cons (.inl rfl) _))
      exact .cons (by simp) hrest

/-- The tokens of a value are found if no number goes on behind it. -/
theorem scans_tokens (v : Value) : ∀ s, EndsNumber s → Scans v.tokens s := by
  induction v using induct with
  | null => exact fun s h => .singleton _ fun _ _ => h
  | bool b => exact fun s h => .singleton _ fun _ _ => h
  | number n => exact fun s h => .singleton _ fun _ _ => h
  | text q => exact fun s h => .singleton _ fun _ _ => h
  | list items ih =>
    intro s h
    rw [tokens]
    apply Scans.cons (by simp)
    apply Scans.append (scans_itemTokens ih (endsNumber_cons (.inr (.inl rfl)) s))
    exact .cons (by simp) (.nil s)
  | record members ih =>
    intro s h
    rw [tokens]
    apply Scans.cons (by simp)
    apply Scans.append (scans_memberTokens ih (endsNumber_cons (.inr (.inr rfl)) s))
    exact .cons (by simp) (.nil s)

theorem tokens?_printChars (v : Value) : tokens? (v.printChars.map some) = some v.tokens := by
  have h := scans_tokens v [] endsNumber_nil
  rw [Scans, List.append_nil, tokens?] at h
  rw [printChars, ← symbols, h, Option.map_some, List.append_nil]

/-- No item starts with the end of an array, so the first one is read like any other. -/
private theorem foldlM_itemOrEnd (v : Value) (vs : List Value) (outer : Context)
    (ts : List Token) :
    (itemTokens (v :: vs) ++ ts).foldlM State.next (.itemOrEnd outer) =
      (itemTokens (v :: vs) ++ ts).foldlM State.next (.value (.list [] outer)) := by
  obtain ⟨t, us, hitems, ht⟩ : ∃ t us, itemTokens (v :: vs) = t :: us ∧ t ≠ .closeList := by
    cases vs <;> cases v <;> exact ⟨_, _, rfl, by simp⟩
  have hnext : (State.itemOrEnd outer).next t = (State.value (.list [] outer)).next t := by
    cases t with
    | closeList => exact absurd rfl ht
    | _ => rfl
  rw [hitems, List.cons_append, List.foldlM_cons, List.foldlM_cons, hnext]

private theorem foldlM_nameOrEnd (m : Option String × Value)
    (members : List (Option String × Value)) (outer : Context) (ts : List Token) :
    (memberTokens (m :: members) ++ ts).foldlM State.next (.nameOrEnd outer) =
      (memberTokens (m :: members) ++ ts).foldlM State.next (.name [] outer) := by
  cases members <;> rfl

/-- The tokens of a value are read where it is due: it is put into its place. -/
def Reads (v : Value) : Prop :=
  ∀ (place : Context) (ts : List Token),
    (v.tokens ++ ts).foldlM State.next (.value place) = ts.foldlM State.next (place.fill v)

private theorem foldlM_itemTokens {v : Value} {items : List Value} (hv : Reads v)
    (h : ∀ v ∈ items, Reads v) (read : List Value) (outer : Context) (ts : List Token) :
    (itemTokens (v :: items) ++ .closeList :: ts).foldlM State.next (.value (.list read outer)) =
      ts.foldlM State.next (outer.fill (.list (read.reverse ++ v :: items))) := by
  induction items generalizing v read with
  | nil =>
    rw [itemTokens, hv, List.foldlM_cons]
    simp [Context.fill, State.next]
  | cons w vs ih =>
    have hrest := ih (h w List.mem_cons_self) (fun v hv => h v (List.mem_cons_of_mem _ hv))
      (v :: read)
    rw [itemTokens, List.append_assoc, hv, List.cons_append, List.foldlM_cons]
    simp only [Context.fill, State.next, Option.bind_eq_bind, Option.bind_some, hrest]
    simp

private theorem foldlM_memberTokens {m : Option String × Value}
    {members : List (Option String × Value)} (hm : Reads m.2) (h : ∀ m ∈ members, Reads m.2)
    (read : List (Option String × Value)) (outer : Context) (ts : List Token) :
    (memberTokens (m :: members) ++ .closeRecord :: ts).foldlM State.next (.name read outer) =
      ts.foldlM State.next (outer.fill (.record (read.reverse ++ m :: members))) := by
  induction members generalizing m read with
  | nil =>
    obtain ⟨name, v⟩ := m
    simp only [memberTokens, List.cons_append, List.foldlM_cons, State.next, Quoted.text?_ofText,
      Option.bind_eq_bind, Option.bind_some, hm _ _, Context.fill]
    simp
  | cons m' members ih =>
    obtain ⟨name, v⟩ := m
    have hrest := ih (h m' List.mem_cons_self) (fun m hm => h m (List.mem_cons_of_mem _ hm))
      ((name, v) :: read)
    simp only [memberTokens, List.cons_append, List.append_assoc, List.foldlM_cons, State.next,
      Quoted.text?_ofText, Option.bind_eq_bind, Option.bind_some, hm _ _, Context.fill, hrest]
    simp

/-- The tokens of a value take the reader from the place of the value to the state in which it is
filled in. The induction is on the value: each container is read with the containers around it kept
as they are. -/
theorem reads (v : Value) : Reads v := by
  induction v using induct with
  | null => exact fun place ts => rfl
  | bool b => exact fun place ts => rfl
  | number n => exact fun place ts => rfl
  | text q => exact fun place ts => rfl
  | list items ih =>
    intro place ts
    cases items with
    | nil => rfl
    | cons v vs =>
      have hv := ih v List.mem_cons_self
      have hvs := fun w hw => ih w (List.mem_cons_of_mem v hw)
      rw [tokens, List.cons_append, List.append_assoc, List.foldlM_cons]
      exact (foldlM_itemOrEnd v vs place _).trans (foldlM_itemTokens hv hvs [] place ts)
  | record members ih =>
    intro place ts
    cases members with
    | nil => rfl
    | cons m ms =>
      have hm := ih m List.mem_cons_self
      have hms := fun n hn => ih n (List.mem_cons_of_mem m hn)
      rw [tokens, List.cons_append, List.append_assoc, List.foldlM_cons]
      exact (foldlM_nameOrEnd m ms place _).trans (foldlM_memberTokens hm hms [] place ts)

theorem ofTokens?_tokens (v : Value) : ofTokens? v.tokens = some v := by
  have h := reads v .top []
  rw [List.append_nil] at h
  rw [ofTokens?, h]
  rfl

/-- Every value is read back from its compact text. -/
theorem parse?_print (v : Value) : parse? v.print = some v := by
  rw [parse?, print, String.toList_ofList, ofSymbols?, tokens?_printChars, Option.bind_some,
    ofTokens?_tokens]

/-- A text of nothing but blanks has no value. -/
theorem parse?_of_blanks {text : String} (h : text.toList.all Text.isBlank = true) :
    parse? text = none := by
  rw [parse?, ofSymbols?]
  cases htokens : tokens? (text.toList.map some) with
  | none => rfl
  | some ts =>
    obtain rfl := tokens?_of_blanks h ts htokens
    rfl

/-- Every value is read back from the bytes of its compact text. -/
theorem ofBytes?_encode_printChars (v : Value) :
    ofBytes? (Utf8.encode v.printChars) = some v := by
  rw [ofBytes?, Utf8.scalars_encode, ofSymbols?, tokens?_printChars, Option.bind_some,
    ofTokens?_tokens]

end Value

end PlayerHub.Json
