import PlayerHub.Calendar.Written
import PlayerHub.Proofs.Text.Decimal

namespace PlayerHub

theorem Text.isBlank_of_isDigit {c : Char} (h : Decimal.isDigit c = true) : isBlank c = false := by
  simp only [Decimal.isDigit, Bool.and_eq_true, decide_eq_true_eq, Char.le_def,
    UInt32.le_iff_toNat_le] at h
  have hlo : 48 ≤ c.toNat := h.1
  have hhi : c.toNat ≤ 57 := h.2
  simp only [isBlank, Bool.or_eq_false_iff, Bool.and_eq_false_iff, decide_eq_false_iff_not,
    beq_eq_false_iff_ne]
  omega

namespace Calendar

open Decimal
open Text (isBlank skipBlanks)

/-- Whether a text does not go on with a digit. -/
def NoDigit (s : List Char) : Prop := ∀ c ∈ s.head?, isDigit c = false

variable {ds s : List Char}

theorem noDigit_cons {c : Char} (h : isDigit c = false) : NoDigit (c :: s) := by
  intro c' hmem
  rw [List.head?_cons, Option.mem_some] at hmem
  rwa [← hmem]

theorem takeWhile_isDigit (hds : ∀ c ∈ ds, isDigit c = true) (hs : NoDigit s) :
    (ds ++ s).takeWhile isDigit = ds := by
  rw [List.takeWhile_append_of_pos hds]
  cases s with
  | nil => rw [List.takeWhile_nil, List.append_nil]
  | cons c s =>
    have hc : isDigit c = false := hs c rfl
    rw [List.takeWhile_cons_of_neg (by rw [hc]; exact Bool.false_ne_true), List.append_nil]

theorem dropWhile_isDigit (hds : ∀ c ∈ ds, isDigit c = true) (hs : NoDigit s) :
    (ds ++ s).dropWhile isDigit = s := by
  rw [List.dropWhile_append_of_pos hds]
  cases s with
  | nil => rfl
  | cons c s =>
    have hc : isDigit c = false := hs c rfl
    rw [List.dropWhile_cons_of_neg (by rw [hc]; exact Bool.false_ne_true)]

theorem NoDigit.take (hs : NoDigit s) (n : Nat) : NoDigit (s.take n) := by
  intro c hmem
  apply hs c
  cases n with
  | zero => cases hmem
  | succ n => rwa [List.head?_take, if_neg (Nat.succ_ne_zero n)] at hmem

theorem readNumber_append {width : Nat} (hne : ds ≠ []) (hds : ∀ c ∈ ds, isDigit c = true)
    (hwidth : ds.length ≤ width) (hs : NoDigit s) :
    readNumber width (ds ++ s) = some (value ds, s) := by
  rw [readNumber, List.take_append, List.take_of_length_le hwidth,
    takeWhile_isDigit hds (hs.take _)]
  simp only [hne, if_false, List.drop_left]

theorem readNumber_padded {width filled n : Nat} (hwidth : (padded filled n).length ≤ width)
    (hs : NoDigit s) : readNumber width (padded filled n ++ s) = some (n, s) := by
  have h := readNumber_append (padded_ne_nil filled n) (fun _ => isDigit_of_mem_padded) hwidth hs
  rwa [value_padded] at h

theorem skipBlanks_cons {c : Char} (h : isBlank c = false) : skipBlanks (c :: s) = c :: s := by
  rw [skipBlanks, List.dropWhile_cons_of_neg (by rw [h]; exact Bool.false_ne_true)]

/-- A numeral starts with a digit. -/
theorem padded_append_eq_cons (filled n : Nat) (s : List Char) :
    ∃ c cs, padded filled n ++ s = c :: cs ∧ isDigit c = true := by
  obtain ⟨c, cs, hcs⟩ := List.exists_cons_of_ne_nil (padded_ne_nil filled n)
  refine ⟨c, cs ++ s, by rw [hcs, List.cons_append], ?_⟩
  exact isDigit_of_mem_padded (by rw [hcs]; exact List.mem_cons_self)

theorem skipBlanks_padded (filled n : Nat) (s : List Char) :
    skipBlanks (padded filled n ++ s) = padded filled n ++ s := by
  obtain ⟨c, cs, hcs, hc⟩ := padded_append_eq_cons filled n s
  rw [hcs, skipBlanks_cons (Text.isBlank_of_isDigit hc)]

theorem readPart_padded {n : Nat} (hn : n < 100) (hs : NoDigit s) :
    readPart (padded 2 n ++ s) = some (n, s) := by
  have hlength : (padded 2 n).length = 2 := length_padded (by omega) (by decide)
  rw [readPart, skipBlanks_padded, readNumber_padded (Nat.le_of_eq hlength) hs]

theorem readMark_cons {c : Char} (h : isBlank c = false) : readMark c (c :: s) = some s := by
  rw [readMark, skipBlanks_cons h]
  exact if_pos rfl

/-- A written year is followed by no digit, so that a reader which takes all the digits it can get
stops in time. -/
theorem readYear_printYear (year : Int) (hs : NoDigit s) :
    readYear (printYear year ++ s) = some (year, s) := by
  have hsigned : readNumber (padded 4 year.natAbs ++ s).length (padded 4 year.natAbs ++ s) =
      some (year.natAbs, s) := by
    apply readNumber_padded _ hs
    rw [List.length_append]
    omega
  unfold printYear
  split
  · rename_i hneg
    rw [List.cons_append, readYear, skipBlanks_cons (by decide)]
    simp only [hsigned, Option.map_some, Option.some.injEq, Prod.mk.injEq, and_true]
    omega
  split
  · rename_i hneg hlarge
    rw [List.cons_append, readYear, skipBlanks_cons (by decide)]
    simp only [hsigned, Option.map_some, Option.some.injEq, Prod.mk.injEq, and_true]
    omega
  · rename_i hneg hlarge
    have hlength : (padded 4 year.natAbs).length = 4 := length_padded (by omega) (by decide)
    have hread := readNumber_padded (Nat.le_of_eq hlength) hs
    obtain ⟨c, cs, hcs, hc⟩ := padded_append_eq_cons 4 year.natAbs s
    rw [readYear, skipBlanks_padded]
    rw [hcs] at hread ⊢
    split
    · rename_i hminus
      cases hminus
      cases hc
    · rename_i hplus
      cases hplus
      cases hc
    · simp only [hread, Option.map_some, Option.some.injEq, Prod.mk.injEq, and_true]
      omega

theorem Date.of?_self (d : Date) : of? d.year d.month d.day = some d := by
  rw [of?, dif_pos ⟨d.month_mem, d.day_mem⟩]

theorem readDate_append (d : Date) (hs : NoDigit s) :
    readDate (printYear d.year ++ '-' :: (padded 2 d.month ++ '-' :: (padded 2 d.day ++ s))) =
      some (d, s) := by
  have hmonth := d.month_mem
  have hday : d.day < 100 := by
    have hle := d.day_mem.2
    have hlength : monthLength d.year d.month ≤ 31 := by
      unfold monthLength
      split <;> split <;> omega
    omega
  have hdash : ∀ s, NoDigit ('-' :: s) := fun _ => noDigit_cons (by decide)
  simp only [readDate, readYear_printYear d.year (hdash _),
    readMark_cons (by decide : isBlank '-' = false), readPart_padded hday hs,
    readPart_padded (by omega : d.month < 100) (hdash _), Date.of?_self,
    Option.bind_eq_bind, Option.bind_some, Option.pure_def]

private theorem readFraction_padded {width n : Nat} (hn : n < 10 ^ width) (hpos : 0 < width)
    (hwidth : width ≤ 9) (hs : NoDigit s) :
    readFraction ('.' :: (padded width n ++ s)) = some (n * 10 ^ (9 - width), s) := by
  have hlength := length_padded hn hpos
  have htake : (padded width n).take 9 = padded width n := List.take_of_length_le (by omega)
  rw [readFraction, takeWhile_isDigit (fun _ => isDigit_of_mem_padded) hs,
    dropWhile_isDigit (fun _ => isDigit_of_mem_padded) hs]
  simp only [padded_ne_nil, if_false, fractionValue, htake, value_padded, hlength]
  rfl

theorem readFraction_printFraction {nanos : Nat} (hnanos : nanos < 1000000000) :
    readFraction (printFraction nanos ++ ['Z']) = some (nanos, ['Z']) := by
  have hs : NoDigit ['Z'] := noDigit_cons (by decide)
  unfold printFraction
  split
  · rename_i hzero
    rw [hzero]
    rfl
  split
  · rename_i hmillis
    rw [List.cons_append, readFraction_padded (by omega) (by decide) (by decide) hs]
    congr 2
    omega
  split
  · rename_i hmicros
    rw [List.cons_append, readFraction_padded (by omega) (by decide) (by decide) hs]
    congr 2
    omega
  · rw [List.cons_append, readFraction_padded (by omega) (by decide) (by decide) hs, Nat.sub_self,
      Nat.pow_zero, Nat.mul_one]

namespace Instant

/-- A clock without an offset shows the instant itself. -/
theorem ofLocal?_self (t : Instant) :
    ofLocal? t.date t.hour t.minute t.second t.nanos 0 = some t := by
  have hhour := t.hour_lt
  have hminute := t.minute_lt
  have htotal : (60 * (t.hour : Int) + t.minute - 0).fmod 1440 = 60 * t.hour + t.minute := by
    rw [Int.fmod_eq_emod_of_nonneg _ (by decide)]
    omega
  have hrest : (60 * (t.hour : Int) + t.minute).toNat = 60 * t.hour + t.minute := by omega
  have hdiv : (60 * t.hour + t.minute) / 60 = t.hour := by omega
  have hmod : (60 * t.hour + t.minute) % 60 = t.minute := by omega
  have hearly : ¬ 60 * (t.hour : Int) + t.minute - 0 < 0 := by omega
  have hlate : ¬ (1440 : Int) ≤ 60 * t.hour + t.minute - 0 := by omega
  simp only [ofLocal?, htotal, hrest, hdiv, hmod, hearly, hlate, if_false]
  rw [if_pos t.year_mem, of?,
    dif_pos ⟨t.year_mem, t.hour_lt, t.minute_lt, t.second_le, t.nanos_lt⟩]

theorem noDigit_fraction (nanos : Nat) : NoDigit (printFraction nanos ++ ['Z']) := by
  unfold printFraction
  split
  · exact noDigit_cons (by decide)
  split
  · exact noDigit_cons (by decide)
  split
  · exact noDigit_cons (by decide)
  · exact noDigit_cons (by decide)

theorem readChars?_printChars (t : Instant) : readChars? t.printChars = some t := by
  have hhour := t.hour_lt
  have hminute := t.minute_lt
  have hsecond := t.second_le
  have hoffset : readOffset (skipBlanks ['Z']) = some (0, []) := by decide
  have hend : skipBlanks [] = [] := rfl
  have hgap : ∀ s, NoDigit ('T' :: s) := fun _ => noDigit_cons (by decide)
  have hcolon : ∀ s, NoDigit (':' :: s) := fun _ => noDigit_cons (by decide)
  simp only [readChars?, printChars, readDate_append t.date (hgap _), readGap,
    readPart_padded (by omega : t.hour < 100) (hcolon _),
    readPart_padded (by omega : t.minute < 100) (hcolon _),
    readPart_padded (by omega : t.second < 100) (noDigit_fraction t.nanos),
    readMark_cons (by decide : isBlank ':' = false), readFraction_printFraction t.nanos_lt,
    Option.bind_eq_bind, Option.bind_some, hoffset, hend, hhour, hminute, and_self, if_true,
    ofLocal?_self]

/-- Every instant is read back from its written form. -/
theorem parse?_print (t : Instant) : parse? t.print = some t := by
  rw [parse?, print, String.toList_ofList, readChars?_printChars]

@[simp] theorem ofJson?_toJson (t : Instant) : ofJson? t.toJson = some t := by
  rw [ofJson?, toJson, Json.Value.str?_str, Option.bind_some, parse?_print]

end Instant

end Calendar

end PlayerHub
