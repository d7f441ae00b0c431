import PlayerHub.Platform.Settings

namespace PlayerHub

namespace Duration

/-- The empty span. -/
instance : Zero Duration := ⟨⟨0, 0, by decide⟩⟩

/-- Spans are ordered by their seconds, and then by their nanoseconds. -/
instance : LE Duration where
  le d d' := d.seconds < d'.seconds ∨ d.seconds = d'.seconds ∧ d.nanos ≤ d'.nanos

/-- The length of a span in nanoseconds. -/
def totalNanos (d : Duration) : Nat := d.seconds.toNat * 1000000000 + d.nanos

variable {d d' : Duration}

theorem le_iff : d ≤ d' ↔ d.seconds < d'.seconds ∨ d.seconds = d'.seconds ∧ d.nanos ≤ d'.nanos :=
  Iff.rfl

theorem eq_zero_iff : d = 0 ↔ d.seconds = 0 ∧ d.nanos = 0 := Duration.ext_iff

theorem isZero_iff : d.isZero = true ↔ d = 0 := by
  rw [isZero, Bool.and_eq_true, beq_iff_eq, beq_iff_eq, eq_zero_iff]

theorem le_iff_totalNanos_le : d ≤ d' ↔ d.totalNanos ≤ d'.totalNanos := by
  have hnanos := d.nanos_lt
  have hnanos' := d'.nanos_lt
  rw [le_iff, UInt64.lt_iff_toNat_lt, ← UInt64.toNat_inj, totalNanos, totalNanos]
  omega

theorem ne_zero_iff : d ≠ 0 ↔ 0 < d.totalNanos := by
  rw [ne_eq, eq_zero_iff, ← UInt64.toNat_inj, UInt64.toNat_zero, totalNanos]
  omega

theorem wholeMillis_eq (d : Duration) : d.wholeMillis = d.totalNanos / 1000000 := by
  rw [wholeMillis, totalNanos]
  omega

end Duration

namespace PlatformSettings

variable (s : PlatformSettings) {d : Duration}

theorem limitMs_withLimit_zero : (s.withLimit 0).limitMs = 0 := by
  have hmillis : (0 : Duration).wholeMillis = 0 := by decide
  rw [withLimit]
  dsimp only
  rw [if_pos hmillis, if_pos (Duration.isZero_iff.2 rfl)]

theorem toNat_limitMs_withLimit (hd : d ≠ 0) :
    (s.withLimit d).limitMs.toNat = max 1 (min (d.totalNanos / 1000000) (UInt64.size - 1)) := by
  rw [← d.wholeMillis_eq, withLimit]
  dsimp only
  split
  · rename_i hmillis
    rw [if_neg (mt Duration.isZero_iff.1 hd), hmillis]
    decide
  split
  · rename_i hmillis hfits
    rw [UInt64.toNat_ofNat_of_lt' hfits]
    omega
  · rename_i hmillis hfits
    have hone : 1 ≤ UInt64.size - 1 := by decide
    rw [UInt64.toNat_ofNat_of_lt' (by decide)]
    omega

theorem limitMs_withLimit_eq_zero_iff (d : Duration) : (s.withLimit d).limitMs = 0 ↔ d = 0 := by
  by_cases hd : d = 0
  · rw [hd]
    exact iff_of_true s.limitMs_withLimit_zero rfl
  · refine iff_of_false ?_ hd
    rw [← UInt64.toNat_inj, s.toNat_limitMs_withLimit hd, UInt64.toNat_zero]
    omega

/-- The default is not looked at once a span has been set. -/
theorem limit_eq_toNat_limitMs (hd : d ≠ 0) :
    (s.withLimit d).limit = (s.withLimit d).limitMs.toNat := by
  rw [limit, if_neg (mt (s.limitMs_withLimit_eq_zero_iff d).1 hd)]

theorem limit_withLimit (hd : d ≠ 0) :
    (s.withLimit d).limit = max 1 (min (d.totalNanos / 1000000) (UInt64.size - 1)) := by
  rw [s.limit_eq_toNat_limitMs hd, s.toNat_limitMs_withLimit hd]

theorem limit_withLimit_mono {d' : Duration} (hd : d ≠ 0) (hle : d ≤ d') :
    (s.withLimit d).limit ≤ (s.withLimit d').limit := by
  have hnanos := Duration.le_iff_totalNanos_le.1 hle
  have hpos := Duration.ne_zero_iff.1 hd
  have hd' : d' ≠ 0 := Duration.ne_zero_iff.2 (Nat.lt_of_lt_of_le hpos hnanos)
  have hmillis : d.totalNanos / 1000000 ≤ d'.totalNanos / 1000000 := Nat.div_le_div_right hnanos
  rw [s.limit_withLimit hd, s.limit_withLimit hd']
  omega

/-- Only the empty span stands for the default. Of any other span its whole milliseconds count, but
one if it has none, and as many as a word holds if it has more. So a longer span never makes for a
shorter limit. -/
theorem limit_follows_span (s : PlatformSettings) (d : Duration) :
    ((s.withLimit d).limitMs = 0 ↔ d = 0) ∧
      (d ≠ 0 →
        1 ≤ (s.withLimit d).limit ∧
          (d.totalNanos < 1000000 → (s.withLimit d).limit = 1) ∧
          (1000000 ≤ d.totalNanos → d.totalNanos / 1000000 < UInt64.size →
            (s.withLimit d).limit = d.totalNanos / 1000000) ∧
          (UInt64.size ≤ d.totalNanos / 1000000 → (s.withLimit d).limit = UInt64.size - 1) ∧
          (s.withLimit d).limit = (s.withLimit d).limitMs.toNat ∧
          ∀ d', d ≤ d' → (s.withLimit d).limit ≤ (s.withLimit d').limit) := by
  refine ⟨s.limitMs_withLimit_eq_zero_iff d, fun hd => ?_⟩
  have hlimit := s.limit_withLimit hd
  refine ⟨?_, ?_, ?_, ?_, s.limit_eq_toNat_limitMs hd, fun d' => s.limit_withLimit_mono hd⟩
  · omega
  · intro hshort
    omega
  · intro hlong hfits
    omega
  · intro hlong
    have hone : 1 ≤ UInt64.size - 1 := by decide
    omega

/-- The last millisecond that a word holds is kept, and the next one counts as it. -/
theorem limit_of_longest_span :
    let s : PlatformSettings := {}
    let short : Duration := ⟨0, 999999, by decide⟩
    let last : Duration := ⟨18446744073709551, 615999999, by decide⟩
    let next : Duration := ⟨18446744073709551, 616000000, by decide⟩
    (s.withLimit short).limit = 1 ∧
      (s.withLimit last).limit = 18446744073709551615 ∧
      (s.withLimit next).limit = 18446744073709551615 ∧
      (s.withLimit short).limit ≤ (s.withLimit next).limit := by
  intro s short last next
  have hshort := (limit_follows_span s short).2 (by decide)
  have hlast := (limit_follows_span s last).2 (by decide)
  have hnext := (limit_follows_span s next).2 (by decide)
  refine ⟨hshort.2.1 (by decide), ?_, ?_, hshort.2.2.2.2.2 next (.inl (by decide))⟩
  · exact (hlast.2.2.1 (by decide) (by decide)).trans (by decide)
  · exact hnext.2.2.2.1 (by decide)

end PlatformSettings

end PlayerHub
