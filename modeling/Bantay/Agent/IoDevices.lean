import Bantay.Lib.GoStrings
import Bantay.Lib.LexicalPath
import Bantay.Lib.RunningMax
import Mathlib.Data.List.Induction
import Mathlib.Data.Prod.Lex
import Mathlib.Data.String.Basic

/-!
# I/O Devices of a Filesystem

`findIoDevice` and `mostActiveIoDevice` of `agent/disk.go`.  Both go through a Go map, in any
order; here the order is that of a list.

Of the devices whose name is related by a prefix, and of all devices, the busiest one is taken,
and names decide ties.  But the first exact match is taken at once, and a label may be that of
several devices, or the name of another one.
-/

namespace Bantay.Agent.Disk

open Bantay.Lib List

/-! ## Names -/

/-- `path/filepath` of the platform. -/
structure Paths where
  base : String → String
  dir : String → String
  join : String → String → String

def hasPrefix (s start : String) : Bool := start.toList.isPrefixOf s.toList

def normalizeDeviceName (paths : Paths) (value : String) : String :=
  let name := paths.base (trimSpace value)
  if name = "." then "" else name

def prefixRelated (a b : String) : Bool :=
  if a = "" ∨ b = "" ∨ a = b then false else hasPrefix a b || hasPrefix b a

/-! ## Devices -/

/-- The fields of `disk.IOCountersStat` that are read. -/
structure IOCountersStat where
  name : String
  label : String := ""
  readBytes : UInt64 := 0
  writeBytes : UInt64 := 0
  readCount : UInt64 := 0
  writeCount : UInt64 := 0

structure IoMatchCandidate where
  name : String := ""
  bytes : UInt64 := 0
  ops : UInt64 := 0

def IOCountersStat.candidate (d : IOCountersStat) : IoMatchCandidate :=
  ⟨d.name, d.readBytes + d.writeBytes, d.readCount + d.writeCount⟩

/-- `c` is taken instead of `best`. -/
def IoMatchCandidate.Beats (c best : IoMatchCandidate) : Prop :=
  best.bytes < c.bytes ∨ c.bytes = best.bytes ∧ best.ops < c.ops ∨
    c.bytes = best.bytes ∧ c.ops = best.ops ∧ c.name < best.name
deriving Decidable

section Find

variable (paths : Paths) (filesystem : String)

def exactMatch (d : IOCountersStat) : Bool :=
  normalizeDeviceName paths d.name = filesystem ||
    (d.label ≠ "" && normalizeDeviceName paths d.label = filesystem)

def prefixMatch (d : IOCountersStat) : Bool :=
  prefixRelated (normalizeDeviceName paths d.name) filesystem ||
    (d.label ≠ "" && prefixRelated (normalizeDeviceName paths d.label) filesystem)

def bestCandidate : List IoMatchCandidate → Option IoMatchCandidate
  | [] => none
  | first :: rest => some (rest.foldl (fun best c => if c.Beats best then c else best) first)

def findIoDevice (counters : List IOCountersStat) : Option String :=
  let filesystem := normalizeDeviceName paths filesystem
  if filesystem = "" then none
  else
    -- an exact match ends the loop that collects the candidates
    match counters.find? (exactMatch paths filesystem) with
    | some d => some d.name
    | none =>
      (bestCandidate ((counters.filter (prefixMatch paths filesystem)).map (·.candidate))).map
        (·.name)

end Find

/-- The loop of `mostActiveIoDevice`. -/
def mostActive (counters : List IOCountersStat) : IoMatchCandidate :=
  counters.foldl (fun (best : IoMatchCandidate) d =>
    if best.name = "" ∨ d.candidate.Beats best then d.candidate else best) {}

def mostActiveIoDevice (counters : List IOCountersStat) : String := (mostActive counters).name

/-! ## The order of the candidates -/

/-- Bytes decide first, then operations, then the name. -/
def IoMatchCandidate.rank (c : IoMatchCandidate) : ℕ ×ₗ ℕ ×ₗ Stringᵒᵈ :=
  toLex (c.bytes.toNat, toLex (c.ops.toNat, OrderDual.toDual c.name))

theorem IoMatchCandidate.beats_iff {c best : IoMatchCandidate} :
    c.Beats best ↔ best.rank < c.rank := by
  simp only [Beats, rank, Prod.Lex.toLex_lt_toLex, OrderDual.toDual_lt_toDual,
    UInt64.lt_iff_toNat_lt, ← UInt64.toNat_inj, eq_comm (a := c.bytes.toNat),
    eq_comm (a := c.ops.toNat), and_or_left]

theorem IoMatchCandidate.rank_injective : Function.Injective IoMatchCandidate.rank := by
  intro c c' h
  cases c
  cases c'
  simp_all [UInt64.toNat_inj, IoMatchCandidate.rank]

theorem isGreatest_bestCandidate {candidates : List IoMatchCandidate} {best : IoMatchCandidate}
    (h : bestCandidate candidates = some best) :
    IsGreatest {r | ∃ c ∈ candidates, c.rank = r} best.rank := by
  cases candidates with
  | nil => cases h
  | cons first rest =>
    cases h
    have hfold : ∀ first : IoMatchCandidate,
        (rest.foldl (fun best c => if c.Beats best then c else best) first).rank =
          runningMax (·.rank) first.rank rest := by
      induction rest with
      | nil => exact fun _ => rfl
      | cons c rest ih =>
        intro first
        rw [foldl_cons, ih, runningMax, runningMax, foldl_cons]
        simp only [IoMatchCandidate.beats_iff]
        split <;> rfl
    have hset : {r | ∃ c ∈ first :: rest, c.rank = r} =
        insert first.rank {r | ∃ c ∈ rest, c.rank = r} := by
      ext r
      simp [eq_comm (a := r)]
    rw [hfold, hset]
    exact isGreatest_runningMax first.rank rest

theorem bestCandidate_perm {candidates candidates' : List IoMatchCandidate}
    (hperm : candidates'.Perm candidates) :
    bestCandidate candidates' = bestCandidate candidates := by
  cases h : bestCandidate candidates with
  | none =>
    have hnil : candidates = [] := by
      cases candidates with
      | nil => rfl
      | cons _ _ => cases h
    rw [hnil] at hperm
    rw [hperm.eq_nil]
    rfl
  | some best =>
    cases h' : bestCandidate candidates' with
    | none =>
      cases candidates' with
      | nil =>
        rw [hperm.nil_eq] at h'
        exact h' ▸ h
      | cons _ _ => cases h'
    | some best' =>
      have hsame := isGreatest_bestCandidate h'
      simp only [hperm.mem_iff] at hsame
      rw [IoMatchCandidate.rank_injective (hsame.unique (isGreatest_bestCandidate h))]

/-! ## Exact matches -/

def OneExactMatch (paths : Paths) (filesystem : String) (counters : List IOCountersStat) : Prop :=
  normalizeDeviceName paths filesystem ≠ "" → ∀ d ∈ counters, ∀ d' ∈ counters,
    exactMatch paths (normalizeDeviceName paths filesystem) d →
    exactMatch paths (normalizeDeviceName paths filesystem) d' → d.name = d'.name

theorem findIoDevice_order_iff (paths : Paths) (filesystem : String)
    (counters : List IOCountersStat) :
    (∀ counters', counters'.Perm counters →
      findIoDevice paths filesystem counters' = findIoDevice paths filesystem counters) ↔
      OneExactMatch paths filesystem counters := by
  constructor
  · intro horder hname d hd d' hd' hexact hexact'
    -- each of the two can come first
    have hfirst : ∀ e ∈ counters, exactMatch paths (normalizeDeviceName paths filesystem) e →
        findIoDevice paths filesystem counters = some e.name := by
      intro e he hmatch
      obtain ⟨before, after, rfl⟩ := append_of_mem he
      rw [← horder (e :: (before ++ after)) perm_middle.symm]
      simp only [findIoDevice, if_neg hname, find?_cons_of_pos hmatch]
    exact Option.some.inj ((hfirst d hd hexact).symm.trans (hfirst d' hd' hexact'))
  · intro hone counters' hperm
    unfold findIoDevice
    dsimp only
    split
    · rfl
    · next hname =>
      cases hfind : counters.find? (exactMatch paths (normalizeDeviceName paths filesystem)) with
      | some d =>
        have hd := find?_some hfind
        have hsome : (counters'.find? (exactMatch paths
            (normalizeDeviceName paths filesystem))).isSome :=
          find?_isSome.mpr ⟨d, hperm.mem_iff.mpr (mem_of_find?_eq_some hfind), hd⟩
        obtain ⟨d', hfind'⟩ := Option.isSome_iff_exists.mp hsome
        rw [hfind']
        exact congrArg some (hone hname d' (hperm.mem_iff.mp (mem_of_find?_eq_some hfind')) d
          (mem_of_find?_eq_some hfind) (find?_some hfind') hd)
      | none =>
        have hnone : counters'.find? (exactMatch paths (normalizeDeviceName paths filesystem)) =
            none := by
          rw [find?_eq_none] at hfind ⊢
          exact fun d hd => hfind d (hperm.mem_iff.mp hd)
        rw [hnone]
        rw [bestCandidate_perm ((hperm.filter _).map _)]

/-! ## Devices without a name -/

def NamedBusiest (counters : List IOCountersStat) : Prop :=
  (∀ d ∈ counters, d.name = "") ∨ ∃ best ∈ counters, best.name ≠ "" ∧
    ∀ d ∈ counters, d.candidate.rank ≤ best.candidate.rank

section MostActive

variable {counters : List IOCountersStat}

theorem mostActive_concat (counters : List IOCountersStat) (d : IOCountersStat) :
    mostActive (counters ++ [d]) =
      if (mostActive counters).name = "" ∨ d.candidate.Beats (mostActive counters)
      then d.candidate else mostActive counters := by
  rw [mostActive, foldl_append]
  rfl

theorem mostActive_mem (counters : List IOCountersStat) :
    mostActive counters = {} ∨ ∃ d ∈ counters, mostActive counters = d.candidate := by
  induction counters using reverseRecOn with
  | nil => exact .inl rfl
  | append_singleton counters d ih =>
    rw [mostActive_concat]
    split
    · exact .inr ⟨d, by simp, rfl⟩
    · rcases ih with hnone | ⟨e, he, heq⟩
      · exact .inl hnone
      · exact .inr ⟨e, mem_append_left _ he, heq⟩

theorem mostActive_eq {best : IOCountersStat} (hbest : best ∈ counters) (hname : best.name ≠ "")
    (hmax : ∀ d ∈ counters, d.candidate.rank ≤ best.candidate.rank) :
    mostActive counters = best.candidate := by
  induction counters using reverseRecOn with
  | nil => cases hbest
  | append_singleton counters d ih =>
    have hothers : ∀ d ∈ counters, d.candidate.rank ≤ best.candidate.rank :=
      fun e he => hmax e (mem_append_left _ he)
    rw [mostActive_concat]
    rcases mem_append.mp hbest with hbest | hbest
    · rw [ih hbest hothers, if_neg]
      rintro (hunnamed | hbeats)
      · exact hname hunnamed
      · exact (hmax d (by simp)).not_gt (IoMatchCandidate.beats_iff.mp hbeats)
    · obtain rfl := mem_singleton.mp hbest
      split
      · rfl
      · next hstays =>
        -- the leader has a name, and so it is a device
        obtain ⟨hnamed, hbeats⟩ := not_or.mp hstays
        rw [IoMatchCandidate.beats_iff, not_lt] at hbeats
        rcases mostActive_mem counters with hnone | ⟨e, he, heq⟩
        · exact absurd (congrArg IoMatchCandidate.name hnone) hnamed
        · rw [heq] at hbeats ⊢
          exact IoMatchCandidate.rank_injective ((hothers e he).antisymm hbeats)

theorem mostActiveIoDevice_unnamed (h : ∀ d ∈ counters, d.name = "") :
    mostActiveIoDevice counters = "" := by
  rw [mostActiveIoDevice]
  rcases mostActive_mem counters with hnone | ⟨d, hd, heq⟩
  · rw [hnone]
  · rw [heq]
    exact h d hd

theorem exists_greatest (hne : counters ≠ []) :
    ∃ top ∈ counters, ∀ d ∈ counters, d.candidate.rank ≤ top.candidate.rank := by
  obtain ⟨d, rest, rfl⟩ := exists_cons_of_ne_nil hne
  have hbest : ∃ best, bestCandidate ((d :: rest).map (·.candidate)) = some best := ⟨_, rfl⟩
  obtain ⟨best, hbest⟩ := hbest
  obtain ⟨⟨c, hc, hrank⟩, hmax⟩ := isGreatest_bestCandidate hbest
  obtain ⟨top, htop, rfl⟩ := mem_map.mp hc
  refine ⟨top, htop, fun e he => ?_⟩
  rw [hrank]
  exact hmax ⟨_, mem_map_of_mem he, rfl⟩

theorem mostActiveIoDevice_order_iff (counters : List IOCountersStat) :
    (∀ counters', counters'.Perm counters →
      mostActiveIoDevice counters' = mostActiveIoDevice counters) ↔ NamedBusiest counters := by
  constructor
  · intro horder
    rw [NamedBusiest, or_iff_not_imp_left]
    intro hnamed
    push Not at hnamed
    obtain ⟨named, hmem, hname⟩ := hnamed
    -- each device can come last
    have hlast : ∀ d ∈ counters, ∃ others, (∀ e ∈ others, e ∈ counters) ∧
        mostActiveIoDevice (others ++ [d]) = mostActiveIoDevice counters := by
      intro d hd
      obtain ⟨before, after, rfl⟩ := append_of_mem hd
      refine ⟨before ++ after, ?_, horder _ ?_⟩
      · simp only [mem_append, mem_cons]
        tauto
      · exact (perm_append_singleton _ _).trans perm_middle.symm
    have hresult : mostActiveIoDevice counters ≠ "" := by
      obtain ⟨others, -, hothers⟩ := hlast named hmem
      rw [← hothers, mostActiveIoDevice, mostActive_concat]
      split
      · exact hname
      · next hstays => exact (not_or.mp hstays).1
    obtain ⟨top, htop, hmax⟩ := exists_greatest (ne_nil_of_mem hmem)
    refine ⟨top, htop, fun hunnamed => ?_, hmax⟩
    obtain ⟨others, hsub, hothers⟩ := hlast top htop
    rw [← hothers, mostActiveIoDevice, mostActive_concat] at hresult
    split at hresult
    · exact hresult hunnamed
    · next hstays =>
      obtain ⟨hnamed, hbeats⟩ := not_or.mp hstays
      rw [IoMatchCandidate.beats_iff, not_lt] at hbeats
      rcases mostActive_mem others with hnone | ⟨e, he, heq⟩
      · exact hnamed (congrArg IoMatchCandidate.name hnone)
      · rw [heq] at hbeats hnamed
        have hsame := IoMatchCandidate.rank_injective ((hmax e (hsub e he)).antisymm hbeats)
        exact hnamed (hsame ▸ hunnamed)
  · rintro (hnone | ⟨best, hbest, hname, hmax⟩) counters' hperm
    · rw [mostActiveIoDevice_unnamed hnone,
        mostActiveIoDevice_unnamed fun d hd => hnone d (hperm.mem_iff.mp hd)]
    · rw [mostActiveIoDevice, mostActiveIoDevice, mostActive_eq hbest hname hmax, mostActive_eq
        (hperm.mem_iff.mpr hbest) hname fun d hd => hmax d (hperm.mem_iff.mp hd)]

end MostActive

/-- **The order of the map does not matter** exactly if all exact matches have the same name, and
    the busiest device has a name. -/
theorem ioDevice_order_iff (paths : Paths) (filesystem : String) (counters : List IOCountersStat) :
    (∀ counters', counters'.Perm counters →
      findIoDevice paths filesystem counters' = findIoDevice paths filesystem counters ∧
        mostActiveIoDevice counters' = mostActiveIoDevice counters) ↔
      OneExactMatch paths filesystem counters ∧ NamedBusiest counters := by
  rw [← findIoDevice_order_iff, ← mostActiveIoDevice_order_iff]
  exact ⟨fun h => ⟨fun l hl => (h l hl).1, fun l hl => (h l hl).2⟩,
    fun h l hl => ⟨h.1 l hl, h.2 l hl⟩⟩

def unixPaths : Paths where
  base path :=
    match ((path.toList.splitOn '/').filter (· ≠ [])).getLast? with
    | some name => String.ofList name
    | none => if path = "" then "." else "/"
  dir path :=
    String.ofList (clean (path.toList.reverse.dropWhile (· ≠ '/')).reverse).render
  join dir name := String.ofList (join dir.toList name.toList).render

/-- **The first of two labels is taken**: two disks have a filesystem with the label `data`. -/
theorem label_twice :
    findIoDevice unixPaths "data" [⟨"sda", "data", 0, 0, 0, 0⟩, ⟨"sdb", "data", 0, 0, 0, 0⟩] =
        some "sda" ∧
      findIoDevice unixPaths "data" [⟨"sdb", "data", 0, 0, 0, 0⟩, ⟨"sda", "data", 0, 0, 0, 0⟩] =
        some "sdb" := by
  decide +kernel

end Bantay.Agent.Disk
