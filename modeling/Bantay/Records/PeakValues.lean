import Bantay.Lib.Rollup
import Bantay.Records.SystemStats

/-!
# Peaks Survive Every Tier

Longer records are averages of shorter ones, and those are averages themselves.  The averages
lose the extremes, so each record carries peak fields beside them.  Read as a roll-up, the peak
fields of an average are the largest values of all records below it, however many tiers lie
between.

Main result: `peaks_of_averages`.
-/

namespace Bantay.Records

open Bantay.Lib List

/-! ## Peak fields -/

def Stats.fs (s : Stats) (key : String) : Option FsStats := s.extraFs.bind (·.lookup key)

/-- The peak fields that are floats, each with the field of its current value. -/
inductive FloatPeak where
  | cpu
  | mem
  | networkSent
  | networkRecv
  | diskReadPs
  | diskWritePs
  | diskIoStats (i : Fin 6)
  | fsDiskReadPs (key : String)
  | fsDiskWritePs (key : String)
  | fsDiskIoStats (key : String) (i : Fin 6)

inductive BytePeak where
  | bandwidth (i : Fin 2)
  | diskIo (i : Fin 2)
  | fsDiskReadBytes (key : String)
  | fsDiskWriteBytes (key : String)

/-- A record that lacks the filesystem does not carry its fields. -/
def FloatPeak.view : FloatPeak → Stats → Option (Reading ℚ)
  | .cpu, s => some ⟨s.cpu, s.maxCpu⟩
  | .mem, s => some ⟨s.memUsed, s.maxMem⟩
  | .networkSent, s => some ⟨s.networkSent, s.maxNetworkSent⟩
  | .networkRecv, s => some ⟨s.networkRecv, s.maxNetworkRecv⟩
  | .diskReadPs, s => some ⟨s.diskReadPs, s.maxDiskReadPs⟩
  | .diskWritePs, s => some ⟨s.diskWritePs, s.maxDiskWritePs⟩
  | .diskIoStats i, s => some ⟨s.diskIoStats i, s.maxDiskIoStats i⟩
  | .fsDiskReadPs key, s => (s.fs key).map fun fs => ⟨fs.diskReadPs, fs.maxDiskReadPS⟩
  | .fsDiskWritePs key, s => (s.fs key).map fun fs => ⟨fs.diskWritePs, fs.maxDiskWritePS⟩
  | .fsDiskIoStats key i, s => (s.fs key).map fun fs => ⟨fs.diskIoStats i, fs.maxDiskIoStats i⟩

def BytePeak.view : BytePeak → Stats → Option (Reading ℕ)
  | .bandwidth i, s => some ⟨s.bandwidth i, s.maxBandwidth i⟩
  | .diskIo i, s => some ⟨s.diskIo i, s.maxDiskIo i⟩
  | .fsDiskReadBytes key, s =>
    (s.fs key).map fun fs => ⟨fs.diskReadBytes, fs.maxDiskReadBytes⟩
  | .fsDiskWriteBytes key, s =>
    (s.fs key).map fun fs => ⟨fs.diskWriteBytes, fs.maxDiskWriteBytes⟩

/-! ## The means -/

theorem foldl_add_eq_sum (xs : List ℚ) : xs.foldl (· + ·) 0 = xs.sum :=
  sum_eq_foldl.symm

theorem floatMean : MeanLaw (· + ·) (fun count sum => twoDecimals (sum / (count : ℚ)))
    (IsDecimal 100) fun _ => True where
  nonneg := by
    intro n xs hxs
    rw [foldl_add_eq_sum]
    exact roundTo_nonneg (div_nonneg (sum_nonneg hxs) (Nat.cast_nonneg n))
  le_bound := by
    intro n xs bound hn hlen hxs _ hexact hbound hle
    have hpos : (0 : ℚ) < n := by exact_mod_cast hn
    have hsum : xs.sum ≤ bound * n := by
      calc xs.sum ≤ xs.length • bound := sum_le_card_nsmul xs bound hle
        _ = bound * xs.length := by rw [nsmul_eq_mul, mul_comm]
        _ ≤ bound * n := by gcongr
    rw [foldl_add_eq_sum]
    apply roundTo_le (by norm_num) _ hexact
    · exact (div_le_iff₀ hpos).mpr hsum
    · exact div_nonneg (sum_nonneg hxs) hpos.le

theorem foldl_addUint64 (xs : List ℕ) (acc : ℕ) (hfits : acc + xs.sum < 2 ^ 64) :
    xs.foldl addUint64 acc = acc + xs.sum := by
  induction xs generalizing acc with
  | nil => rfl
  | cons x xs ih =>
    rw [sum_cons, ← Nat.add_assoc] at hfits
    have hx : addUint64 acc x = acc + x := Nat.mod_eq_of_lt (by omega)
    rw [foldl_cons, hx, ih _ hfits, sum_cons, Nat.add_assoc]

theorem byteMean : MeanLaw addUint64 (fun count sum => sum / count) (fun _ => True)
    fun xs => xs.sum < 2 ^ 64 where
  nonneg _ _ _ := Nat.zero_le _
  le_bound := by
    intro n xs bound hn hlen _ hfits _ _ hle
    rw [foldl_addUint64 xs 0 (by omega), Nat.zero_add]
    apply Nat.div_le_of_le_mul
    calc xs.sum ≤ xs.length • bound := sum_le_card_nsmul xs bound hle
      _ = xs.length * bound := nsmul_eq_mul ..
      _ ≤ n * bound := Nat.mul_le_mul_right bound hlen

/-! ## The loop at one field -/

theorem lookup_accumulateMap {β γ : Type} (f : Option β → γ → β)
    (acc : Option (GoMap String β)) (m : Option (GoMap String γ)) (key : String) :
    (accumulateMap f acc m).bind (·.lookup key) =
      (m.bind (·.lookup key)).elim (acc.bind (·.lookup key)) fun value =>
        some (f (acc.bind (·.lookup key)) value) := by
  cases m with
  | none => rfl
  | some m =>
    have hacc : (acc.getD ∅).lookup key = acc.bind (·.lookup key) := by
      cases acc <;> rfl
    rw [accumulateMap, Option.bind_some, GoMap.lookup_accumulate, hacc, Option.bind_some]

theorem fs_accumulateTotals (totals : Totals) (stats : Stats) (key : String) :
    (accumulateTotals totals stats).sum.fs key =
      (stats.fs key).elim (totals.sum.fs key) fun value =>
        some (addFsStats (totals.sum.fs key) value) :=
  lookup_accumulateMap addFsStats totals.sum.extraFs stats.extraFs key

theorem fs_computeAverages (count : ℕ) (totals : Totals) (key : String) :
    (computeAverages count totals).fs key = (totals.sum.fs key).map (averageFsStats count) := by
  show (totals.sum.extraFs.map _).bind _ = (totals.sum.extraFs.bind _).map _
  cases totals.sum.extraFs with
  | none => rfl
  | some m => exact GoMap.lookup_mapValues (averageFsStats count) m key

variable {α : Type*} {f : BytePeak} (add : α → α → α)

/-- What `addFsStats` does to a reading is what the loop does. -/
theorem tally_fs [LinearOrder α] [Zero α] (read : FsStats → Reading α) (hzero : read {} = ⟨0, 0⟩)
    (hadd : ∀ fs value, read (addFsStats (some fs) value) =
      ⟨add (read fs).current (read value).current,
        max3 (read fs).peak (read value).peak (read value).current⟩) (totals : Totals)
    (stats : Stats) (key : String) :
    ((accumulateTotals totals stats).sum.fs key).map read =
      ((stats.fs key).map read).elim ((totals.sum.fs key).map read)
        (Reading.tally add ((totals.sum.fs key).map read)) := by
  rw [fs_accumulateTotals]
  cases stats.fs key with
  | none => rfl
  | some value =>
    cases totals.sum.fs key with
    | none =>
      -- a new entry starts with zeros
      have hnew := hadd {} value
      rw [hzero] at hnew
      exact congrArg some hnew
    | some fs => exact congrArg some (hadd fs value)

theorem FloatPeak.view_accumulateTotals (f : FloatPeak) (totals : Totals) (stats : Stats) :
    f.view (accumulateTotals totals stats).sum =
      (f.view stats).elim (f.view totals.sum) (Reading.tally (· + ·) (f.view totals.sum)) := by
  cases f with
  | cpu | mem | networkSent | networkRecv | diskReadPs | diskWritePs | diskIoStats i => rfl
  | fsDiskReadPs key | fsDiskWritePs key | fsDiskIoStats key i =>
    apply tally_fs
    · rfl
    · exact fun _ _ => rfl

theorem BytePeak.view_accumulateTotals (f : BytePeak) (totals : Totals) (stats : Stats) :
    f.view (accumulateTotals totals stats).sum =
      (f.view stats).elim (f.view totals.sum) (Reading.tally addUint64 (f.view totals.sum)) := by
  cases f with
  | bandwidth i | diskIo i => rfl
  | fsDiskReadBytes key | fsDiskWriteBytes key =>
    apply tally_fs
    · rfl
    · exact fun _ _ => rfl

theorem FloatPeak.view_computeAverages (f : FloatPeak) (count : ℕ) (totals : Totals) :
    f.view (computeAverages count totals) =
      (f.view totals.sum).map fun v => ⟨twoDecimals (v.current / count), v.peak⟩ := by
  cases f with
  | cpu | mem | networkSent | networkRecv | diskReadPs | diskWritePs | diskIoStats i => rfl
  | fsDiskReadPs key | fsDiskWritePs key | fsDiskIoStats key i =>
    simp only [FloatPeak.view, fs_computeAverages, Option.map_map]
    rfl

theorem BytePeak.view_computeAverages (f : BytePeak) (count : ℕ) (totals : Totals) :
    f.view (computeAverages count totals) =
      (f.view totals.sum).map fun v => ⟨v.current / count, v.peak⟩ := by
  cases f with
  | bandwidth i | diskIo i => rfl
  | fsDiskReadBytes key | fsDiskWriteBytes key =>
    simp only [BytePeak.view, fs_computeAverages, Option.map_map]
    rfl

/-! ## Averages at one field -/

theorem view_foldl [LinearOrder α] [Zero α] (view : Stats → Option (Reading α))
    (hview : ∀ totals stats, view (accumulateTotals totals stats).sum =
      (view stats).elim (view totals.sum) (Reading.tally add (view totals.sum)))
    (records : List Stats) :
    view (records.foldl accumulateTotals {}).sum =
      (records.filterMap view).foldl (Reading.tally add) (view {}) := by
  rw [foldl_filterMap]
  symm
  refine @foldl_hom _ _ _ (fun totals : Totals => view totals.sum) _ _ records {} ?_
  intro totals stats
  rw [hview]
  cases view stats <;> rfl

/-- A field is either carried by every record, or not by the empty one. -/
def FromZero {α : Type*} [Zero α] (view : Stats → Option (Reading α)) : Prop :=
  view {} = none ∨ (view {} = some ⟨0, 0⟩ ∧ ∀ stats, (view stats).isSome)

theorem FloatPeak.fromZero (f : FloatPeak) : FromZero f.view := by
  cases f with
  | cpu | mem | networkSent | networkRecv | diskReadPs | diskWritePs | diskIoStats i =>
    exact .inr ⟨rfl, fun _ => rfl⟩
  | fsDiskReadPs key | fsDiskWritePs key | fsDiskIoStats key i => exact .inl rfl

theorem BytePeak.fromZero (f : BytePeak) : FromZero f.view := by
  cases f with
  | bandwidth i | diskIo i => exact .inr ⟨rfl, fun _ => rfl⟩
  | fsDiskReadBytes key | fsDiskWriteBytes key => exact .inl rfl

variable {records : List Stats}

theorem view_averageSystemStatsSlice [LinearOrder α] [Zero α] (scale : ℕ → α → α)
    (view : Stats → Option (Reading α))
    (hloop : ∀ totals stats, view (accumulateTotals totals stats).sum =
      (view stats).elim (view totals.sum) (Reading.tally add (view totals.sum)))
    (haverages : ∀ count totals, view (computeAverages count totals) =
      (view totals.sum).map fun v => ⟨scale count v.current, v.peak⟩) (hzero : FromZero view)
    (hne : records ≠ []) :
    view (averageSystemStatsSlice records) =
      Reading.average add scale records.length (records.filterMap view) := by
  have hlen : records.length ≠ 0 := fun h => hne (length_eq_zero_iff.mp h)
  rw [averageSystemStatsSlice, if_neg hlen, haverages, view_foldl add view hloop]
  apply Reading.map_foldl_tally
  rcases hzero with hnone | ⟨hsome, hall⟩
  · exact .inl hnone
  · refine .inr ⟨hsome, ?_⟩
    -- every record carries the field, and there is a record
    obtain ⟨first, rest, rfl⟩ := exists_cons_of_ne_nil hne
    obtain ⟨v, hv⟩ := Option.isSome_iff_exists.mp (hall first)
    rw [filterMap_cons_some hv]
    exact cons_ne_nil _ _

/-! ## Roll-ups -/

/-- Both values of a reading are at least zero and have at most two decimals. -/
def TwoDecimals (v : Reading ℚ) : Prop :=
  v.Nonneg ∧ IsDecimal 100 v.current ∧ IsDecimal 100 v.peak

instance (v : Reading ℚ) : Decidable (TwoDecimals v) :=
  inferInstanceAs (Decidable ((0 ≤ v.current ∧ 0 ≤ v.peak) ∧ _ ∧ _))

/-- The numbers that the float peaks are made of are at least zero and have at most two
    decimals. -/
def Measured (stats : Stats) : Prop := ∀ f : FloatPeak, ∀ v ∈ f.view stats, TwoDecimals v

/-- No sum of byte counts overflows when the records are averaged. -/
def SumsFit (records : List Stats) : Prop :=
  ∀ f : BytePeak, ReadingsFit f.view (fun xs => xs.sum < 2 ^ 64) records

theorem FloatPeak.view_average (f : FloatPeak) (records : List Stats) (hne : records ≠ []) :
    f.view (averageSystemStatsSlice records) =
      Reading.average (· + ·) (fun count sum => twoDecimals (sum / (count : ℚ)))
        records.length (records.filterMap f.view) :=
  view_averageSystemStatsSlice (· + ·) _ f.view f.view_accumulateTotals f.view_computeAverages
    f.fromZero hne

theorem BytePeak.view_average (f : BytePeak) (records : List Stats) (hne : records ≠ []) :
    f.view (averageSystemStatsSlice records) =
      Reading.average addUint64 (fun count sum => sum / count) records.length
        (records.filterMap f.view) :=
  view_averageSystemStatsSlice addUint64 _ f.view f.view_accumulateTotals
    f.view_computeAverages f.fromZero hne

/-- **Peaks survive every tier**: a peak field of an average is the largest stored peak or current
    value of all records below it that carry the field, and missing if none does. -/
theorem peaks_of_averages (first : Rollup Stats) (rest : List (Rollup Stats))
    (hleaves : ∀ stats ∈ (Rollup.node first rest).leaves, Measured stats)
    (hfits : (Rollup.node first rest).EveryNode averageSystemStatsSlice SumsFit) :
    (∀ f : FloatPeak,
      (f.view ((Rollup.node first rest).eval averageSystemStatsSlice)).map Reading.peak =
        peakOf f.view (Rollup.node first rest).leaves) ∧
    (∀ f : BytePeak,
      (f.view ((Rollup.node first rest).eval averageSystemStatsSlice)).map Reading.peak =
        peakOf f.view (Rollup.node first rest).leaves) := by
  constructor
  · intro f
    apply peak_eval_node floatMean f.view_average
    · exact fun stats hstats v hv => (hleaves stats hstats f v hv).1
    · exact fun stats hstats v hv => (hleaves stats hstats f v hv).2
    · exact hfits.mono fun _ _ => trivial
  · intro f
    apply peak_eval_node byteMean f.view_average
    · exact fun _ _ v _ => ⟨Nat.zero_le _, Nat.zero_le _⟩
    · exact fun _ _ _ _ => ⟨trivial, trivial⟩
    · exact hfits.mono fun _ hsums => hsums f

def busyStats : Stats where
  cpu := 25 / 2
  maxCpu := 9999 / 100
  memUsed := 3
  bandwidth := ![100, 200]
  extraFs := some (AList.singleton "sdb" { diskReadPs := 29 / 4, diskReadBytes := 700 })

def idleStats : Stats where
  cpu := 1 / 2
  memUsed := 2
  bandwidth := ![10, 0]

theorem busyStats_fs {key : String} (hkey : key ≠ "sdb") : busyStats.fs key = none := by
  show (AList.insert "sdb" _ ∅).lookup key = none
  exact AList.lookup_insert_ne hkey

theorem measured_busyStats : Measured busyStats := by
  intro f v hv
  cases f with
  | cpu | mem | networkSent | networkRecv | diskReadPs | diskWritePs | diskIoStats i =>
    cases hv
    decide +kernel +revert
  | fsDiskReadPs key | fsDiskWritePs key | fsDiskIoStats key i =>
    rcases eq_or_ne key "sdb" with rfl | hkey
    · cases hv
      decide +kernel +revert
    · simp [FloatPeak.view, busyStats_fs hkey] at hv

theorem measured_idleStats : Measured idleStats := by
  intro f v hv
  cases f with
  | cpu | mem | networkSent | networkRecv | diskReadPs | diskWritePs | diskIoStats i =>
    cases hv
    decide +kernel +revert
  | fsDiskReadPs key | fsDiskWritePs key | fsDiskIoStats key i => cases hv

def sampleTiers : Rollup Stats :=
  .node (.node (.leaf idleStats) [.leaf busyStats]) [.leaf idleStats]

theorem readingsFit_of_missing (hmiss : ∀ stats ∈ records, f.view stats = none) :
    ReadingsFit f.view (fun xs => xs.sum < 2 ^ 64) records := by
  rw [ReadingsFit, filterMap_eq_nil_iff.mpr hmiss]
  decide

theorem BytePeak.view_average_of_missing (hne : records ≠ [])
    (hmiss : ∀ stats ∈ records, f.view stats = none) :
    f.view (averageSystemStatsSlice records) = none := by
  rw [f.view_average records hne, filterMap_eq_nil_iff.mpr hmiss]
  rfl

/-- Records with no other filesystem than `sdb`. -/
theorem sumsFit_of_sdb (hmiss : ∀ key, key ≠ "sdb" → ∀ stats ∈ records, stats.fs key = none)
    (hsums : ∀ i : Fin 2, ∀ f ∈ [BytePeak.bandwidth i, .diskIo i, .fsDiskReadBytes "sdb",
      .fsDiskWriteBytes "sdb"], ReadingsFit f.view (fun xs => xs.sum < 2 ^ 64) records) :
    SumsFit records := by
  intro f
  cases f with
  | bandwidth i => exact hsums i _ (by simp)
  | diskIo i => exact hsums i _ (by simp)
  | fsDiskReadBytes key | fsDiskWriteBytes key =>
    rcases eq_or_ne key "sdb" with rfl | hkey
    · exact hsums 0 _ (by simp)
    · apply readingsFit_of_missing
      intro stats hstats
      rw [BytePeak.view, hmiss key hkey stats hstats, Option.map_none]

theorem sumsFit_sampleTiers : sampleTiers.EveryNode averageSystemStatsSlice SumsFit := by
  have hmiss : ∀ key, key ≠ "sdb" → ∀ stats ∈ [idleStats, busyStats],
      stats.fs key = none := by
    intro key hkey stats hstats
    rcases mem_pair.mp hstats with rfl | rfl
    · rfl
    · exact busyStats_fs hkey
  -- what is missing in both records is missing in their average
  have havg : ∀ key, key ≠ "sdb" → ∀ stats ∈
      [averageSystemStatsSlice [idleStats, busyStats], idleStats], stats.fs key = none := by
    intro key hkey stats hstats
    rcases mem_pair.mp hstats with rfl | rfl
    · have hview : (BytePeak.fsDiskReadBytes key).view
          (averageSystemStatsSlice [idleStats, busyStats]) = none := by
        apply BytePeak.view_average_of_missing (cons_ne_nil _ _)
        intro stats hstats
        rw [BytePeak.view, hmiss key hkey stats hstats, Option.map_none]
      exact Option.map_eq_none_iff.mp hview
    · rfl
  have hinner : SumsFit [idleStats, busyStats] := by
    apply sumsFit_of_sdb hmiss
    simp only [ReadingsFit]
    decide +kernel
  have houter : SumsFit [averageSystemStatsSlice [idleStats, busyStats], idleStats] := by
    apply sumsFit_of_sdb havg
    simp only [ReadingsFit]
    decide +kernel
  exact ⟨houter, ⟨hinner, trivial, trivial, trivial⟩, trivial, trivial⟩

theorem busy_record_peaks :
    (FloatPeak.cpu.view (sampleTiers.eval averageSystemStatsSlice)).map Reading.peak =
      some (9999 / 100) ∧
    ((FloatPeak.fsDiskReadPs "sdb").view (sampleTiers.eval averageSystemStatsSlice)).map
      Reading.peak = some (29 / 4) ∧
    ((BytePeak.bandwidth 1).view (sampleTiers.eval averageSystemStatsSlice)).map
      Reading.peak = some 200 := by
  have hleaves : ∀ stats ∈ sampleTiers.leaves, Measured stats := by
    intro stats hstats
    simp only [sampleTiers, Rollup.leaves, Rollup.leavesAll, append_nil,
      cons_append, nil_append, mem_cons, not_mem_nil, or_false] at hstats
    rcases hstats with rfl | rfl | rfl
    · exact measured_idleStats
    · exact measured_busyStats
    · exact measured_idleStats
  have hpeaks := peaks_of_averages _ _ hleaves sumsFit_sampleTiers
  refine ⟨(hpeaks.1 .cpu).trans ?_, (hpeaks.1 (.fsDiskReadPs "sdb")).trans ?_,
    (hpeaks.2 (.bandwidth 1)).trans ?_⟩
  · decide +kernel
  · decide +kernel
  · decide +kernel

end Bantay.Records
