import Mathlib.Data.List.TakeWhile
import PlayerHub.Proofs.Text.Utf8
import PlayerHub.Text.Form

namespace PlayerHub

theorem Hex.byte_ofNat (b : UInt8) : byte (ofNat (b.toNat / 16)) (ofNat b.toNat) = b := by
  have hlt := b.toNat_lt
  have hvalue : b.toNat / 16 % 16 * 16 + b.toNat % 16 = b.toNat := by omega
  calc byte (ofNat (b.toNat / 16)) (ofNat b.toNat)
      = UInt8.ofNat (b.toNat / 16 % 16 * 16 + b.toNat % 16) := rfl
    _ = b := by rw [hvalue, UInt8.ofNat_toNat]

/-- What holds of the bytes below 256, one after the other, holds of every byte. -/
theorem forall_byte {p : UInt8 → Prop} (h : ∀ n : Fin 256, p (UInt8.ofNat n.val)) (b : UInt8) :
    p b := by
  have hb := h ⟨b.toNat, b.toNat_lt⟩
  rwa [UInt8.ofNat_toNat] at hb

namespace Form

variable {plus : UInt8}

theorem percentDecode_plus (s : List Char) :
    percentDecode plus ('+' :: s) = plus :: percentDecode plus s := by
  rw [percentDecode]

theorem percentDecode_hex {a b : Char} {x y : Fin 16} (ha : Hex.digit? a = some x)
    (hb : Hex.digit? b = some y) (s : List Char) :
    percentDecode plus ('%' :: a :: b :: s) = Hex.byte x y :: percentDecode plus s := by
  rw [percentDecode, ha, hb]

/-- A character stands for itself unless it is a plus sign or starts an escape. -/
theorem percentDecode_cons {c : Char} {s : List Char} (hplus : c ≠ '+') (hpercent : c ≠ '%') :
    percentDecode plus (c :: s) = Utf8.encode [c] ++ percentDecode plus s := by
  rw [percentDecode]
  · exact hplus
  · intro a b t hc
    exact absurd hc hpercent

/-- A byte that stands for itself is a character of its own, and that has no other meaning. -/
theorem isPlain_spec {b : UInt8} (h : isPlain b = true) :
    Utf8.encode [Char.ofNat b.toNat] = [b] ∧ Char.ofNat b.toNat ∉ ['+', '%', '&', '='] := by
  have hall : ∀ b : UInt8, isPlain b = true →
      Utf8.encode [Char.ofNat b.toNat] = [b] ∧ Char.ofNat b.toNat ∉ ['+', '%', '&', '='] :=
    forall_byte (by decide +kernel)
  exact hall b h

theorem unescape_escapeByte_append (b : UInt8) (s : List Char) :
    unescape (escapeByte b ++ s) = b :: unescape s := by
  unfold escapeByte unescape
  split
  · rename_i hplain
    obtain ⟨hencode, hnot⟩ := isPlain_spec hplain
    simp only [List.mem_cons, not_or] at hnot
    rw [List.singleton_append, percentDecode_cons hnot.1 hnot.2.1, hencode]
    rfl
  split
  · rename_i hspace
    rw [List.singleton_append, percentDecode_plus, beq_iff_eq.1 hspace]
  · rw [Hex.ofByte, List.cons_append, List.cons_append, List.singleton_append,
      percentDecode_hex (Hex.digit?_upper _) (Hex.digit?_upper _), Hex.byte_ofNat]

theorem unescape_escape (s : String) : unescape (escape s) = Utf8.ofString s := by
  rw [escape]
  induction Utf8.ofString s with
  | nil => rw [List.flatMap_nil, unescape, percentDecode]
  | cons b bytes ih => rw [List.flatMap_cons, unescape_escapeByte_append, ih]

theorem text_escape (s : String) : text (escape s) = s := by
  rw [text, unescape_escape, Utf8.ofString, Utf8.decodeLossy_encode, String.ofList_toList]

theorem separators_not_mem_escape (s : String) : '&' ∉ escape s ∧ '=' ∉ escape s := by
  have hbyte : ∀ b, '&' ∉ escapeByte b ∧ '=' ∉ escapeByte b := forall_byte (by decide +kernel)
  simp only [escape, List.mem_flatMap, not_exists, not_and]
  exact ⟨fun b _ => (hbyte b).1, fun b _ => (hbyte b).2⟩

theorem splitOn_of_not_mem {sep : Char} {s : List Char} (h : sep ∉ s) : splitOn sep s = [s] := by
  induction s with
  | nil => rfl
  | cons c s ih =>
    rw [List.mem_cons, not_or] at h
    rw [splitOn, if_neg (Ne.symm h.1), ih h.2]

theorem splitOn_ne_nil (sep : Char) (s : List Char) : splitOn sep s ≠ [] := by
  cases s with
  | nil => exact List.cons_ne_nil _ _
  | cons c s =>
    rw [splitOn]
    split
    · exact List.cons_ne_nil _ _
    · split <;> exact List.cons_ne_nil _ _

/-- What stands before and behind a separator is taken apart by itself. -/
theorem splitOn_append_cons (sep : Char) (s t : List Char) :
    splitOn sep (s ++ sep :: t) = splitOn sep s ++ splitOn sep t := by
  induction s with
  | nil => exact if_pos rfl
  | cons c s ih =>
    rw [List.cons_append, splitOn, splitOn, ih]
    by_cases hc : c = sep
    · rw [if_pos hc, if_pos hc, List.cons_append]
    · rw [if_neg hc, if_neg hc]
      cases hsplit : splitOn sep s with
      | nil => exact absurd hsplit (splitOn_ne_nil sep s)
      | cons part parts => rfl

theorem decode_append_cons (s t : List Char) :
    decode (s ++ '&' :: t) = decode s ++ decode t := by
  rw [decode, splitOn_append_cons, List.filter_append, List.map_append]
  rfl

theorem ne_of_not_mem {c : Char} {s : List Char} (h : c ∉ s) : ∀ d ∈ s, (d != c) = true := by
  intro d hd
  exact bne_iff_ne.2 fun heq => h (heq ▸ hd)

theorem decodePair_append_cons {name : List Char} (h : '=' ∉ name) (value : List Char) :
    decodePair (name ++ '=' :: value) = (text name, text value) := by
  rw [decodePair, List.takeWhile_append_of_pos (ne_of_not_mem h),
    List.takeWhile_cons_of_neg (by decide), List.append_nil,
    List.dropWhile_append_of_pos (ne_of_not_mem h), List.dropWhile_cons_of_neg (by decide),
    List.drop_one, List.tail_cons]

theorem decodePair_of_not_mem {name : List Char} (h : '=' ∉ name) :
    decodePair name = (text name, text []) := by
  rw [decodePair, List.takeWhile_eq_self_iff.2 (ne_of_not_mem h),
    List.dropWhile_eq_nil_iff.2 (ne_of_not_mem h), List.drop_nil]

theorem decode_of_not_mem {s : List Char} (h : '&' ∉ s) (hne : s ≠ []) :
    decode s = [decodePair s] := by
  have hpart : [s].filter (· != []) = [s] := List.filter_cons_of_pos (bne_iff_ne.2 hne)
  rw [decode, splitOn_of_not_mem h, hpart, List.map_singleton]

theorem decode_encodePair (p : String × String) : decode (encodePair p) = [p] := by
  have hsep : '&' ∉ encodePair p := by
    simp [encodePair, (separators_not_mem_escape p.1).1, (separators_not_mem_escape p.2).1]
  have hne : encodePair p ≠ [] := List.append_ne_nil_of_right_ne_nil _ (List.cons_ne_nil _ _)
  rw [decode_of_not_mem hsep hne, encodePair,
    decodePair_append_cons (separators_not_mem_escape p.1).2, text_escape, text_escape]

/-- The pairs that are written are read back, whatever their texts are. -/
theorem decode_encode (pairs : List (String × String)) : decode (encode pairs) = pairs := by
  induction pairs with
  | nil => rfl
  | cons p pairs ih =>
    cases pairs with
    | nil =>
      rw [encode, List.map_singleton, List.intercalate_singleton]
      exact decode_encodePair p
    | cons q pairs =>
      have hencode : encode (p :: q :: pairs) = encodePair p ++ '&' :: encode (q :: pairs) := by
        rw [encode, List.map_cons, List.map_cons, List.intercalate_cons_cons, List.append_assoc]
        rfl
      rw [hencode, decode_append_cons, decode_encodePair, ih]
      rfl

end Form

end PlayerHub
