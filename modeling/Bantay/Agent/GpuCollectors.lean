import Mathlib.Data.List.Nodup

/-!
# Selection of the GPU Collectors

A model of `startCollectorsByPriority` in `agent/gpu.go`.  One list of sources is tried in order,
with at most one source for each group of vendors.  Two sources have no group: `nvtop` is used
alone, and if it fails later, the rest of the list is tried; `drm_fdinfo` is skipped next to
vendor collectors, and does not keep any from starting after it.
-/

namespace Bantay.Agent.Collectors

open List

/-- `collectorSource`, with the names that are not defined. -/
inductive CollectorSource
  | nvtop
  | nvml
  | nvidiaSmi
  | intelGpuTop
  | amdSysfs
  | drmFdinfo
  | rocmSmi
  | macmon
  | powermetrics
  | undefined (name : String)
deriving DecidableEq

inductive CollectorGroup
  | nvidia
  | intel
  | amd
  | apple
deriving DecidableEq

structure GpuCapabilities where
  hasNvidiaSmi : Bool
  hasRocmSmi : Bool
  hasAmdSysfs : Bool
  hasDrmFdinfo : Bool
  hasIntelGpuTop : Bool
  hasNvtop : Bool
  hasMacmon : Bool
  hasPowermetrics : Bool

/-! ## `collectorDefinitions` -/

def CollectorSource.group : CollectorSource → Option CollectorGroup
  | .nvml | .nvidiaSmi => some .nvidia
  | .intelGpuTop => some .intel
  | .amdSysfs | .rocmSmi => some .amd
  | .macmon | .powermetrics => some .apple
  | .drmFdinfo | .nvtop | .undefined _ => none

def CollectorSource.available (caps : GpuCapabilities) : CollectorSource → Bool
  | .nvml => true
  | .nvidiaSmi => caps.hasNvidiaSmi
  | .intelGpuTop => caps.hasIntelGpuTop
  | .amdSysfs => caps.hasAmdSysfs
  | .drmFdinfo => caps.hasDrmFdinfo
  | .rocmSmi => caps.hasRocmSmi
  | .nvtop => caps.hasNvtop
  | .macmon => caps.hasMacmon
  | .powermetrics => caps.hasPowermetrics
  | .undefined _ => false

/-! ## The selection -/

/-- A place in the list: its source, whether a start succeeds, and whether `nvtop` fails later. -/
structure Attempt where
  source : CollectorSource
  starts : Bool := true
  fails : Bool := false

/-- The loop, with the collectors that run after each start and after a failure of `nvtop`; `none`
    stands for the entry `"drm_fdinfo"` of `selectedGroups`. -/
def startCollectors (caps : GpuCapabilities) (selectedGroups : List (Option CollectorGroup))
    (running : List CollectorSource) : List Attempt → List (List CollectorSource)
  | [] => []
  | attempt :: remaining =>
    let skip := startCollectors caps selectedGroups running remaining
    let started := running ++ [attempt.source]
    if attempt.source.available caps = false then skip
    else if attempt.source = .nvtop then
      if 0 < selectedGroups.length ∨ attempt.starts = false then skip
      else
        -- if nvtop fails, fall back to remaining collectors
        started :: if attempt.fails then running :: startCollectors caps [] running remaining
          else []
    else if attempt.source = .drmFdinfo then
      if 0 < selectedGroups.length ∨ attempt.starts = false then skip
      else started :: startCollectors caps (none :: selectedGroups) started remaining
    else
      match attempt.source.group with
      | none => skip
      | some group =>
        if some group ∈ selectedGroups ∨ attempt.starts = false then skip
        else started :: startCollectors caps (some group :: selectedGroups) started remaining

def startCollectorsByPriority (caps : GpuCapabilities) (priorities : List Attempt) :
    List (List CollectorSource) :=
  startCollectors caps [] [] priorities

/-! ## What runs together -/

/-- One collector for each group of vendors, and no fallback next to any of them. -/
def VendorsOrFallback (running : List CollectorSource) : Prop :=
  (running.filterMap (·.group)).Nodup ∧
    ∀ source ∈ running, source.group ≠ none → .drmFdinfo ∉ running ∧ .nvtop ∉ running

/-- One collector for each group, `nvtop` alone, and `drm_fdinfo` not after another collector. -/
structure Compatible (running : List CollectorSource) : Prop where
  groups : (running.filterMap (·.group)).Nodup
  nvtop : .nvtop ∈ running → running = [.nvtop]
  drmFdinfo : .drmFdinfo ∉ running.tail

/-- The groups that are selected are those of the collectors that run. -/
structure Selected (selectedGroups : List (Option CollectorGroup))
    (running : List CollectorSource) : Prop where
  groups : running.map (·.group) = selectedGroups.reverse
  compatible : Compatible running
  nvtop : .nvtop ∉ running

variable {selectedGroups : List (Option CollectorGroup)} {running : List CollectorSource}

theorem Selected.nil_of_not_pos (h : Selected selectedGroups running)
    (hempty : ¬ 0 < selectedGroups.length) : running = [] := by
  have hlen := congrArg length h.groups
  rw [length_map, length_reverse] at hlen
  exact eq_nil_of_length_eq_zero (by omega)

theorem Selected.empty : Selected [] [] :=
  ⟨rfl, ⟨nodup_nil, nofun, nofun⟩, nofun⟩

theorem Selected.drmFdinfo : Selected [none] [.drmFdinfo] :=
  ⟨rfl, ⟨nodup_nil, by decide, nofun⟩, by decide⟩

theorem Selected.vendor {source : CollectorSource} {group : CollectorGroup}
    (h : Selected selectedGroups running) (hgrp : source.group = some group)
    (hnew : some group ∉ selectedGroups) :
    Selected (some group :: selectedGroups) (running ++ [source]) := by
  have hvendor : source ≠ .nvtop ∧ source ≠ .drmFdinfo := by
    constructor <;> rintro rfl <;> cases hgrp
  have hnvtop : .nvtop ∉ running ++ [source] := by
    rw [mem_append, mem_singleton]
    rintro (hmem | heq)
    · exact h.nvtop hmem
    · exact hvendor.1 heq.symm
  refine ⟨by simp [h.groups, hgrp], ⟨?_, fun hmem => absurd hmem hnvtop, ?_⟩, hnvtop⟩
  · rw [filterMap_append, filterMap_cons_some hgrp, filterMap_nil,
      ← concat_eq_append]
    refine h.compatible.groups.concat fun hmem => hnew ?_
    obtain ⟨other, hother, hsame⟩ := mem_filterMap.mp hmem
    rw [← mem_reverse, ← h.groups, ← hsame]
    exact mem_map_of_mem hother
  · cases running with
    | nil => simp
    | cons first rest =>
      rw [cons_append, tail_cons, mem_append, mem_singleton]
      rintro (hmem | heq)
      · exact h.compatible.drmFdinfo hmem
      · exact hvendor.2 heq.symm

/-- The loop over the priorities starts compatible collectors only. -/
theorem Selected.run {caps : GpuCapabilities} {priorities : List Attempt}
    (h : Selected selectedGroups running) :
    ∀ r ∈ startCollectors caps selectedGroups running priorities, Compatible r := by
  induction priorities generalizing selectedGroups running with
  | nil => nofun
  | cons attempt remaining ih =>
    rw [startCollectors]
    split
    · exact ih h
    · split
      · rename_i hnvtop
        split
        · exact ih h
        · rename_i hstarts
          -- nothing runs before `nvtop`, nor after its failure
          obtain rfl := h.nil_of_not_pos fun hpos => hstarts (.inl hpos)
          rw [hnvtop]
          refine forall_mem_cons.mpr ⟨⟨nodup_nil, fun _ => rfl, nofun⟩, ?_⟩
          split
          · exact forall_mem_cons.mpr ⟨Selected.empty.compatible, ih .empty⟩
          · nofun
      · split
        · rename_i hdrm
          split
          · exact ih h
          · rename_i hstarts
            obtain rfl := h.nil_of_not_pos fun hpos => hstarts (.inl hpos)
            obtain rfl : selectedGroups = [] := by simpa using h.groups.symm
            rw [hdrm]
            exact forall_mem_cons.mpr ⟨Selected.drmFdinfo.compatible, ih .drmFdinfo⟩
        · split
          · exact ih h
          · rename_i group hgrp
            split
            · exact ih h
            · rename_i hstarts
              have hnext := h.vendor hgrp fun hmem => hstarts (.inl hmem)
              exact forall_mem_cons.mpr ⟨hnext.compatible, ih hnext⟩

/-- **At no time do two collectors of one group run, `nvtop` next to another collector, or
`drm_fdinfo` started after another collector**, for every list, with every outcome of the starts. -/
theorem collectors_compatible (caps : GpuCapabilities) (priorities : List Attempt) :
    ∀ running ∈ startCollectorsByPriority caps priorities, Compatible running :=
  Selected.empty.run

def nvidiaCaps : GpuCapabilities where
  hasNvidiaSmi := true
  hasRocmSmi := false
  hasAmdSysfs := false
  hasDrmFdinfo := true
  hasIntelGpuTop := false
  hasNvtop := true
  hasMacmon := false
  hasPowermetrics := false

/-- `nvtop` fails, and the rest of the list is tried. -/
theorem collectors_after_nvtop :
    [.nvidiaSmi] ∈ startCollectorsByPriority nvidiaCaps
        [⟨.nvtop, true, true⟩, ⟨.nvidiaSmi, true, false⟩, ⟨.drmFdinfo, true, false⟩] ∧
      Compatible [.nvidiaSmi] :=
  ⟨by decide, collectors_compatible nvidiaCaps
    [⟨.nvtop, true, true⟩, ⟨.nvidiaSmi, true, false⟩, ⟨.drmFdinfo, true, false⟩] _ (by decide)⟩

/-- With `drm_fdinfo` first in the list, `nvidia-smi` is started beside it. -/
theorem drm_fdinfo_with_vendor :
    [.drmFdinfo, .nvidiaSmi] ∈
        startCollectorsByPriority nvidiaCaps
          [⟨.drmFdinfo, true, false⟩, ⟨.nvidiaSmi, true, false⟩] ∧
      ¬ VendorsOrFallback [.drmFdinfo, .nvidiaSmi] := by
  refine ⟨by decide, fun h => ?_⟩
  exact (h.2 .nvidiaSmi (by decide) (by decide)).1 (by decide)

end Bantay.Agent.Collectors
