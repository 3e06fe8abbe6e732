import Bantay.Lib.FaultyProgram
import Bantay.Lib.FileSystem
import Mathlib.Data.Nat.Notation

/-!
# Installing a Pushed Agent Binary

`installBinary` writes the pushed binary beside the installed one and swaps it in by two renames:
the current binary becomes the backup, the new one becomes the current one.

The install path stays complete through everything up to the first rename.  Between the two
renames nothing is at the path, and the way back rests on two more calls, so what is found there
afterwards depends on the faults of the second half: `InstallSafe`.
-/

namespace Bantay.Agent

open Bantay.Lib Function

/-! ## The program -/

/-- `removeNew` is the removal of the new file after an error, once in a run at most. -/
inductive InstallCall where
  | mkdirAll | openNew | write | sync | close | removeNew | removeBak | statPath | rotate
  | promote | statBak | restore
  deriving DecidableEq

namespace InstallBinary

def newName (path : String) : String := path ++ ".new"

def bakName (path : String) : String := path ++ ".bak"

/-- The call that failed, or none: the error `installBinary` returns. -/
abbrev Result := Option InstallCall

/-- An error after the new file was opened: the file is removed, the error returned. -/
def discard (path : String) (err : InstallCall) : Program (Files String) InstallCall Result := do
  let _ ← .call .removeNew (·.remove? (newName path))
  return some err

/-- The way back after a failed promotion: the backup, if there is one, is put back. -/
def recover (path : String) : Program (Files String) InstallCall Result := do
  if ← .call .statBak (·.exists? (bakName path)) then
    let _ ← .call .restore (·.rename? (bakName path) path)
    return some .promote
  else
    return some .promote

def promoteNew (path : String) : Program (Files String) InstallCall Result := do
  if ← .call .promote (·.rename? (newName path) path) then
    return none
  else
    recover path

/-- The current binary, if it is found, becomes the backup, and the new one is promoted. -/
def rotate (path : String) : Program (Files String) InstallCall Result := do
  if ← .call .statPath (·.exists? path) then
    if ← .call .rotate (·.rename? path (bakName path)) then
      promoteNew path
    else
      discard path .rotate
  else
    promoteNew path

/-- The old backup is removed, as far as possible, before the two renames. -/
def swap (path : String) : Program (Files String) InstallCall Result := do
  let _ ← .call .removeBak (·.remove? (bakName path))
  rotate path

/-- `written` bytes are in the file if the write fails or the process is killed. -/
def writeNew (path : String) (data : List UInt8) (written : ℕ) :
    Program (Files String) InstallCall Bool :=
  .callPart .write (·.put (newName path) (data.take written))
    (fun files => some (files.put (newName path) data))

end InstallBinary

open InstallBinary in
def installBinary (path : String) (data : List UInt8) (written : ℕ) :
    Program (Files String) InstallCall Result := do
  if ← .call .mkdirAll some then
    if ← .call .openNew (fun files => some (files.put (newName path) [])) then
      if ← writeNew path data written then
        if ← .call .sync some then
          if ← .call .close some then
            swap path
          else
            discard path .close
        else
          discard path .sync
      else
        discard path .write
    else
      return some .openNew
  else
    return some .mkdirAll

namespace InstallBinary

variable {path : String} {old data : List UInt8} {written : ℕ} {faults : Faults InstallCall}
  {files : Files String}

/-! ## Names -/

@[simp]
theorem newName_ne_path : newName path ≠ path := by
  intro h
  have hlen := congrArg String.length h
  simp [newName] at hlen

@[simp]
theorem bakName_ne_path : bakName path ≠ path := by
  intro h
  have hlen := congrArg String.length h
  simp [bakName] at hlen

@[simp]
theorem newName_ne_bakName : newName path ≠ bakName path := by
  simp [newName, bakName, String.ext_iff]

/-! ## What is at the install path -/

def Complete (path : String) (old data : List UInt8) (files : Files String) : Prop :=
  files path = some old ∨ files path = some data

def Recovers (faults : Faults InstallCall) : Prop :=
  (faults.kill ≠ some .statBak ∧ faults.fails .statBak = false) ∧
    faults.kill ≠ some .restore ∧ faults.fails .restore = false

/-- The run comes to the two renames. -/
def ReachesSwap (faults : Faults InstallCall) : Prop :=
  (∀ site ∈ [InstallCall.mkdirAll, .openNew, .write, .sync, .close],
    faults.kill ≠ some site ∧ faults.fails site = false) ∧
  faults.kill ≠ some .removeBak ∧ faults.kill ≠ some .statPath

/-- Once the current binary is the backup, the new one is promoted, or the promotion fails and the
    recovery succeeds.  If it was not found, no backup takes its place. -/
def InstallSafe (path : String) (old data : List UInt8) (faults : Faults InstallCall)
    (files : Files String) : Prop :=
  ReachesSwap faults →
    if faults.fails .statPath = true then
      faults.kill ≠ some .promote → faults.fails .promote = true → Recovers faults →
        faults.fails .removeBak = true →
          ∀ stale, files (bakName path) = some stale → stale = old ∨ stale = data
    else
      faults.kill ≠ some .rotate → faults.fails .rotate = false →
        faults.kill ≠ some .promote ∧ (faults.fails .promote = false ∨ Recovers faults)

/-! ## The steps -/

variable {files' : Files String} {content : List UInt8} {site : InstallCall}
  {effect : Files String → Option (Files String)}
  {next error : Program (Files String) InstallCall Result}

theorem complete_congr (h : files' path = files path) :
    Complete path old data files' ↔ Complete path old data files := by
  unfold Complete
  rw [h]

theorem complete_put_self :
    Complete path old data (files.put path content) ↔ content = old ∨ content = data := by
  simp [Complete]

theorem recover_of_recovers (h : Recovers faults) (hbak : files (bakName path) = some content) :
    Ends (Complete path old data) (fun _ => Complete path old data) (recover path) faults files ↔
      content = old ∨ content = data := by
  obtain ⟨⟨hkillStat, hstat⟩, hkillRes, hrestore⟩ := h
  unfold recover
  rw [ends_call_ite, if_neg hkillStat, hstat, Files.exists?_of_some hbak]
  simp only [Bool.false_eq_true, if_false, Option.elim_some]
  rw [ends_call_ignore, if_neg hkillRes, hrestore, Files.rename?_of_some hbak]
  exact complete_put_self

theorem recover_of_not_recovers (h : Recovers faults → files (bakName path) = none) :
    Ends (Complete path old data) (fun _ => Complete path old data) (recover path) faults files ↔
      Complete path old data files := by
  unfold recover
  rw [ends_call_ite]
  cases hbak : files (bakName path) with
  | none => simp [Files.exists?_of_none hbak]
  | some content =>
    have hnot : ¬ Recovers faults := fun hrec => by simp [h hrec] at hbak
    rw [Files.exists?_of_some hbak]
    simp only [Option.elim_some, ends_call_ignore, ends_pure]
    split_ifs with hkillStat hstat hkillRes hrestore
    · rfl
    · rfl
    · rfl
    · rfl
    · -- no call has failed
      exact absurd ⟨⟨hkillStat, by simpa using hstat⟩, hkillRes, by simpa using hrestore⟩ hnot

theorem promoteNew_complete_iff (hnew : files (newName path) = some data) :
    Ends (Complete path old data) (fun _ => Complete path old data) (promoteNew path)
        faults files ↔
      (faults.kill = some .promote → Complete path old data files) ∧
      (faults.kill ≠ some .promote → faults.fails .promote = true →
        Ends (Complete path old data) (fun _ => Complete path old data) (recover path)
          faults files) := by
  unfold promoteNew
  rw [ends_call_ite, Files.rename?_of_some hnew]
  simp only [Option.elim_some, ends_pure, complete_put_self]
  split_ifs with hkill hfails
  · simp [hkill]
  · simp [hkill, hfails]
  · simp [hkill, hfails]

theorem discard_complete (err : InstallCall) (h : Complete path old data files) :
    Ends (Complete path old data) (fun _ => Complete path old data) (discard path err)
      faults files := by
  unfold discard
  rw [ends_call_ignore]
  have hrem : Complete path old data ((files.remove? (newName path)).getD files) := by
    unfold Files.remove?
    split_ifs
    · exact (complete_congr (update_of_ne newName_ne_path.symm _ _)).mpr h
    · exact h
  split_ifs
  · exact h
  · exact h
  · exact hrem

theorem promoteNew_unrotated_iff (hnew : files (newName path) = some data)
    (h : Complete path old data files) :
    Ends (Complete path old data) (fun _ => Complete path old data) (promoteNew path)
        faults files ↔
      (faults.kill ≠ some .promote → faults.fails .promote = true → Recovers faults →
        ∀ stale, files (bakName path) = some stale → stale = old ∨ stale = data) := by
  rw [promoteNew_complete_iff hnew]
  constructor
  · intro ⟨_, hrecover⟩ hkill hfails hrec stale hstale
    exact (recover_of_recovers hrec hstale).mp (hrecover hkill hfails)
  · intro hstale
    refine ⟨fun _ => h, fun hkill hfails => ?_⟩
    by_cases hrec : Recovers faults
    · cases hbak : files (bakName path) with
      | none => exact (recover_of_not_recovers fun _ => hbak).mpr h
      | some stale =>
        exact (recover_of_recovers hrec hbak).mpr (hstale hkill hfails hrec stale hbak)
    · exact (recover_of_not_recovers fun hrec' => absurd hrec' hrec).mpr h

theorem promoteNew_rotated_iff (hnew : files (newName path) = some data)
    (hpath : files path = none) (hbak : files (bakName path) = some old) :
    Ends (Complete path old data) (fun _ => Complete path old data) (promoteNew path)
        faults files ↔
      faults.kill ≠ some .promote ∧ (faults.fails .promote = false ∨ Recovers faults) := by
  -- only the promotion or the recovery can bring a binary to the path
  have hnone : ¬ Complete path old data files := by simp [Complete, hpath]
  rw [promoteNew_complete_iff hnew]
  by_cases hrec : Recovers faults
  · rw [recover_of_recovers hrec hbak]
    simp [hnone, hrec]
  · rw [recover_of_not_recovers fun hrec' => absurd hrec' hrec]
    grind

theorem rotate_complete_iff (hpath : files path = some old)
    (hnew : files (newName path) = some data) :
    Ends (Complete path old data) (fun _ => Complete path old data) (rotate path) faults files ↔
      (faults.kill ≠ some .statPath →
        if faults.fails .statPath = true then
          faults.kill ≠ some .promote → faults.fails .promote = true → Recovers faults →
            ∀ stale, files (bakName path) = some stale → stale = old ∨ stale = data
        else
          faults.kill ≠ some .rotate → faults.fails .rotate = false →
            faults.kill ≠ some .promote ∧ (faults.fails .promote = false ∨ Recovers faults)) := by
  have hcompl : Complete path old data files := .inl hpath
  unfold rotate
  rw [ends_call_ite, Files.exists?_of_some hpath, Option.elim_some, ends_call_ite,
    Files.rename?_of_some hpath, Option.elim_some]
  by_cases hkillStat : faults.kill = some .statPath
  · simp [hkillStat, hcompl]
  by_cases hstat : faults.fails .statPath = true
  · -- a binary that is there counts as missing, and is not rotated
    simp only [if_pos hstat, ne_eq, hkillStat, not_false_eq_true, true_imp_iff]
    exact promoteNew_unrotated_iff hnew hcompl
  simp only [if_neg hstat, ne_eq, hkillStat, not_false_eq_true, true_imp_iff]
  by_cases hkillRot : faults.kill = some .rotate
  · simp [hkillRot, hcompl]
  by_cases hrotate : faults.fails .rotate = true
  · simp [hkillRot, hrotate, discard_complete _ hcompl]
  -- the current binary has become the backup
  have hrotated : Files.put (update files path none) (bakName path) old path = none := by
    rw [Files.put_of_ne bakName_ne_path.symm, update_self]
  have hnew' : Files.put (update files path none) (bakName path) old (newName path) =
      some data := by
    rw [Files.put_of_ne newName_ne_bakName, update_of_ne newName_ne_path, hnew]
  rw [if_neg hkillRot, if_neg hrotate,
    promoteNew_rotated_iff hnew' hrotated (Files.put_self _ _ _)]
  simp [hkillRot, hrotate]

theorem getD_remove?_bakName :
    (files.remove? (bakName path)).getD files = update files (bakName path) none := by
  unfold Files.remove?
  split_ifs with h
  · rfl
  · have hnone : files (bakName path) = none := by simpa using h
    exact (update_eq_self_iff.mpr hnone.symm).symm

theorem swap_complete_iff (hpath : files path = some old)
    (hnew : files (newName path) = some data) :
    Ends (Complete path old data) (fun _ => Complete path old data) (swap path) faults files ↔
      (faults.kill ≠ some .removeBak → faults.kill ≠ some .statPath →
        if faults.fails .statPath = true then
          faults.kill ≠ some .promote → faults.fails .promote = true → Recovers faults →
            faults.fails .removeBak = true →
              ∀ stale, files (bakName path) = some stale → stale = old ∨ stale = data
        else
          faults.kill ≠ some .rotate → faults.fails .rotate = false →
            faults.kill ≠ some .promote ∧ (faults.fails .promote = false ∨ Recovers faults)) := by
  unfold swap
  rw [ends_call_ignore, getD_remove?_bakName]
  by_cases hkill : faults.kill = some .removeBak
  · simp [hkill, Complete, hpath]
  by_cases hremove : faults.fails .removeBak = true
  · rw [if_neg hkill, if_pos hremove, rotate_complete_iff hpath hnew]
    simp only [ne_eq, hkill, hremove, not_false_eq_true, true_imp_iff]
  · -- no backup is left, so none can be put back
    have hpath' : update files (bakName path) none path = some old := by
      rw [update_of_ne bakName_ne_path.symm, hpath]
    have hnew' : update files (bakName path) none (newName path) = some data := by
      rw [update_of_ne newName_ne_bakName, hnew]
    rw [if_neg hkill, if_neg hremove, rotate_complete_iff hpath' hnew']
    simp [hkill, hremove]

/-! ## The whole installation -/

theorem prepare_iff {part : Files String → Files String} (heff : effect files = some files')
    (hpart : Complete path old data (part files))
    (herror : Ends (Complete path old data) (fun _ => Complete path old data) error
      faults (part files)) :
    Ends (Complete path old data) (fun _ => Complete path old data)
        (Program.callPart site part effect >>= fun ok => if ok = true then next else error)
        faults files ↔
      (faults.kill ≠ some site ∧ faults.fails site = false →
        Ends (Complete path old data) (fun _ => Complete path old data) next faults files') := by
  rw [ends_callPart_ite, heff, Option.elim_some]
  split_ifs with hkill hfails
  · simp [hkill, hpart]
  · simp [hfails, herror]
  · simp [hkill, hfails]

theorem complete_put_newName (h : Complete path old data files) :
    Complete path old data (files.put (newName path) content) :=
  (complete_congr (Files.put_of_ne newName_ne_path.symm)).mpr h

end InstallBinary

open InstallBinary in
/-- Exactly under the faults of `InstallSafe` the old or the new binary is at the install path
when the run has ended, by a kill or by a return. -/
theorem installBinary_complete_iff (path : String) (old data : List UInt8) (written : ℕ)
    (faults : Faults InstallCall) (files : Files String) (hpath : files path = some old) :
    Complete path old data ((installBinary path data written).run faults files).state ↔
      InstallSafe path old data faults files := by
  have hstart : Complete path old data files := .inl hpath
  have hopened : Complete path old data (files.put (newName path) []) :=
    complete_put_newName hstart
  have hwrit : Complete path old data ((files.put (newName path) []).put (newName path) data) :=
    complete_put_newName hopened
  have hpath' : (files.put (newName path) []).put (newName path) data path = some old := by
    rw [Files.put_of_ne newName_ne_path.symm, Files.put_of_ne newName_ne_path.symm, hpath]
  have hbak : (files.put (newName path) []).put (newName path) data (bakName path) =
      files (bakName path) := by
    rw [Files.put_of_ne newName_ne_bakName.symm, Files.put_of_ne newName_ne_bakName.symm]
  -- the five calls of the first half, then the renames
  refine (ends_iff_state (P := Complete path old data) _).symm.trans ?_
  unfold installBinary writeNew Program.call
  rw [prepare_iff (by rfl) hstart ((ends_pure _).mpr hstart),
    prepare_iff (by rfl) hstart ((ends_pure _).mpr hstart),
    prepare_iff (by rfl) (complete_put_newName hopened)
      (discard_complete _ (complete_put_newName hopened)),
    prepare_iff (by rfl) hwrit (discard_complete _ hwrit),
    prepare_iff (by rfl) hwrit (discard_complete _ hwrit),
    swap_complete_iff hpath' (Files.put_self _ _ _), hbak]
  unfold InstallSafe ReachesSwap
  simp only [List.forall_mem_cons, List.not_mem_nil, false_imp_iff, implies_true, and_true, and_imp]

namespace InstallBinary

def sampleFiles : Files String := Files.put (fun _ => none) "agent" [1]

/-- The second rename fails and nothing else does. -/
def promoteFails : Faults InstallCall where
  fails site := site = .promote
  kill := none

end InstallBinary

open InstallBinary in
theorem installBinary_complete_promoteFails :
    sampleFiles "agent" = some [1] ∧ InstallSafe "agent" [1] [2] promoteFails sampleFiles ∧
      Complete "agent" [1] [2]
        ((installBinary "agent" [2] 0).run promoteFails sampleFiles).state := by
  have hsafe : InstallSafe "agent" [1] [2] promoteFails sampleFiles := by
    simp [InstallSafe, ReachesSwap, Recovers, promoteFails]
  exact ⟨rfl, hsafe, (installBinary_complete_iff "agent" [1] [2] 0 promoteFails sampleFiles rfl).mpr
    hsafe⟩

open InstallBinary in
theorem installBinary_killed_between_renames :
    sampleFiles "agent" = some [1] ∧
      ((installBinary "agent" [2] 0).run ⟨fun _ => false, some .promote⟩ sampleFiles).state
        "agent" = none ∧
      ¬ Complete "agent" [1] [2] ((installBinary "agent" [2] 0).run ⟨fun _ => false, some .promote⟩
        sampleFiles).state := by
  have hnone : ((installBinary "agent" [2] 0).run ⟨fun _ => false, some .promote⟩
      sampleFiles).state "agent" = none := by
    decide +kernel
  exact ⟨rfl, hnone, by simp [Complete, hnone]⟩

end Bantay.Agent
