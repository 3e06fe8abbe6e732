import Bantay.Lib.FaultyProgram
import Bantay.Lib.FileSystem
import Mathlib.Data.Nat.Notation

/-!
# Replacing the Running Executable

The last part of the self-update (`updater.update`), from the extracted archive on: the running
executable is renamed to its `.old` backup, the extracted one takes its place by a rename, or by a
copy where the rename would cross devices, and a failure is reverted.  The backup is removed by a
deferred call, which runs on every return after it was registered, also when the revert failed.

The extracted files are in a directory of the updater's own, so their names are never those of
the executable or of its backup (`UpdateFile`).
-/

namespace Bantay.Update

open Bantay.Lib

/-! ## The program -/

/-- Files by name, those under the extraction directory apart from the installed ones. -/
inductive UpdateFile where
  | installed (path : String)
  | extracted (name : String)
  deriving DecidableEq

/-- The calls of the replacement.  `openSource` to `chmod` are those of `copyFile`. -/
inductive UpdateCall where
  | executable | statNew | statNewExe | renameOld | replace
  | openSource | createDest | copy | statSource | chmod
  | revert | removeOld | removeExtracted
  deriving DecidableEq

/-- The call whose error is returned, or none. -/
abbrev UpdateResult := Option UpdateCall

/-- Whether a failed `replace` is reported as crossing devices, and how many bytes a failed copy
    has written. -/
structure UpdateEnv where
  crossDevice : Bool
  copied : ℕ

/-- The path of the running executable, and the name the archive has it under. -/
structure UpdateConfig where
  oldExec : String
  archiveExecutable : String

namespace UpdateConfig

variable (config : UpdateConfig)

def exec : UpdateFile := .installed config.oldExec

def renamedOldExec : UpdateFile := .installed (config.oldExec ++ ".old")

end UpdateConfig

section

variable (config : UpdateConfig) (env : UpdateEnv)

def copyFile (newExec : String) :
    Program (Files UpdateFile) UpdateCall Bool := do
  if ← .call .openSource (·.exists? (.extracted newExec)) then
    if ← .call .createDest (fun files => some (files.put config.exec [])) then
      if ← .callPart .copy
          (fun files => files.put config.exec
            (((files (.extracted newExec)).getD []).take env.copied))
          (fun files => (files (.extracted newExec)).map (files.put config.exec)) then
        if ← .call .statSource some then
          if ← .call .chmod some then return true else return false
        else
          return false
      else
        return false
    else
      return false
  else
    return false

/-- `tryToRevertExecChanges` and the return of the error; a failed revert is only logged. -/
def revert (err : UpdateCall) :
    Program (Files UpdateFile) UpdateCall UpdateResult := do
  let _ ← .call .revert (·.rename? config.renamedOldExec config.exec)
  return some err

/-- From the rename of the running executable on. -/
def swapIn (newExec : String) :
    Program (Files UpdateFile) UpdateCall UpdateResult := do
  if ← .call .renameOld (·.rename? config.exec config.renamedOldExec) then
    if ← .call .replace (·.rename? (.extracted newExec) config.exec) then
      return none
    else if env.crossDevice then
      if ← copyFile config env newExec then return none else revert config .copy
    else
      revert config .replace
  else
    return some .renameOld

/-- The search for the extracted executable, with an `.exe` extension at the second attempt. -/
def replaceExecutable :
    Program (Files UpdateFile) UpdateCall UpdateResult := do
  if ← .call .statNew (·.exists? (.extracted config.archiveExecutable)) then
    swapIn config env config.archiveExecutable
  else
    if ← .call .statNewExe (·.exists? (.extracted (config.archiveExecutable ++ ".exe"))) then
      swapIn config env (config.archiveExecutable ++ ".exe")
    else
      return some .statNewExe

def removeExtracted (files : Files UpdateFile) : Files UpdateFile
  | .installed path => files (.installed path)
  | .extracted _ => none

/-- The deferred calls `os.Remove(renamedOldExec)` and `os.RemoveAll(extractDir)`. -/
def cleanUp (result : UpdateResult) :
    Program (Files UpdateFile) UpdateCall UpdateResult := do
  let _ ← .call .removeOld (·.remove? config.renamedOldExec)
  let _ ← .call .removeExtracted (fun files => some (removeExtracted files))
  return result

def update :
    Program (Files UpdateFile) UpdateCall UpdateResult := do
  if ← .call .executable some then
    let result ← replaceExecutable config env
    cleanUp config result
  else
    return some .executable

end

/-! ## Complete executables -/

section Property

variable (config : UpdateConfig) (start : Files UpdateFile)

/-- The running executable as it was, or an extracted one. -/
def IsExecutable (content : List UInt8) : Prop :=
  start config.exec = some content ∨
    start (.extracted config.archiveExecutable) = some content ∨
    start (.extracted (config.archiveExecutable ++ ".exe")) = some content

def HoldsExecutable (file : UpdateFile) (files : Files UpdateFile) : Prop :=
  ∃ content, files file = some content ∧ IsExecutable config start content

/-- A complete executable is at the executable path or at its backup. -/
def Kept (files : Files UpdateFile) : Prop :=
  HoldsExecutable config start config.exec files ∨
    HoldsExecutable config start config.renamedOldExec files

def Survives (fails : UpdateCall → Bool) (files : Files UpdateFile) : Prop :=
  HoldsExecutable config start config.exec files ∨
    fails .removeOld = true ∧ HoldsExecutable config start config.renamedOldExec files

/-- The extracted file that is taken for the new executable. -/
def newExecutable (fails : UpdateCall → Bool) : Option String :=
  if fails .statNew = false ∧ (start (.extracted config.archiveExecutable)).isSome then
    some config.archiveExecutable
  else if fails .statNewExe = false ∧
      (start (.extracted (config.archiveExecutable ++ ".exe"))).isSome then
    some (config.archiveExecutable ++ ".exe")
  else
    none

/-- The replacement is no copy, or the copy stops before its last byte. -/
def ReplaceLosesPath (env : UpdateEnv) (fails : UpdateCall → Bool) (new : List UInt8) : Prop :=
  fails .replace = true ∧
    (env.crossDevice = false ∨ fails .openSource = true ∨ fails .createDest = true ∨
      fails .copy = true ∧ ¬ IsExecutable config start (new.take env.copied))

/-- If the running executable was renamed and the replacement loses the path, the revert succeeds,
    or the removal of the backup fails too. -/
def UpdateSafe (env : UpdateEnv) (fails : UpdateCall → Bool) : Prop :=
  fails .executable = false → ∀ newExec ∈ newExecutable config start fails,
    ∀ new ∈ start (.extracted newExec), fails .renameOld = false →
      ReplaceLosesPath config start env fails new →
        fails .revert = false ∨ fails .removeOld = true

end Property

variable {config : UpdateConfig} {env : UpdateEnv} {start files : Files UpdateFile}
  {fails : UpdateCall → Bool}

/-! ## The deferred calls -/

@[simp]
theorem renamedOldExec_ne_exec : config.renamedOldExec ≠ config.exec := by
  intro h
  have hpath : config.oldExec ++ ".old" = config.oldExec := UpdateFile.installed.inj h
  have hlen := congrArg String.length hpath
  simp at hlen

variable {file : UpdateFile} {old new : List UInt8} {newExec : String}

theorem holdsExecutable_congr {files' : Files UpdateFile} (h : files' file = files file) :
    HoldsExecutable config start file files' ↔ HoldsExecutable config start file files := by
  unfold HoldsExecutable
  rw [h]

theorem holdsExecutable_put_self {content : List UInt8} :
    HoldsExecutable config start file (files.put file content) ↔
      IsExecutable config start content := by
  simp [HoldsExecutable]

theorem not_holdsExecutable_of_none (h : files file = none) :
    ¬ HoldsExecutable config start file files := by
  simp [HoldsExecutable, h]

theorem kept_removeExtracted :
    Kept config start (removeExtracted files) ↔ Kept config start files :=
  or_congr (holdsExecutable_congr rfl) (holdsExecutable_congr rfl)

theorem kept_removeOld :
    Kept config start ((files.remove? config.renamedOldExec).getD files) ↔
      HoldsExecutable config start config.exec files := by
  unfold Files.remove?
  split_ifs with hold
  · have hnone : ¬ HoldsExecutable config start config.renamedOldExec
        (Function.update files config.renamedOldExec none) :=
      not_holdsExecutable_of_none (Function.update_self _ _ _)
    have hexec : HoldsExecutable config start config.exec
        (Function.update files config.renamedOldExec none) ↔ _ :=
      holdsExecutable_congr (Function.update_of_ne renamedOldExec_ne_exec.symm _ _)
    simp [Kept, hnone, hexec]
  · have hnone : ¬ HoldsExecutable config start config.renamedOldExec files :=
      not_holdsExecutable_of_none (by simpa using hold)
    simp [Kept, hnone]

theorem cleanUp_kept_iff (result : UpdateResult) :
    Ends (fun _ => True) (fun err files' => err.isSome → Kept config start files')
        (cleanUp config result) (.errors fails) files ↔
      (result.isSome → Survives config start fails files) := by
  unfold cleanUp
  simp only [ends_call_ignore_errors, ends_pure, Option.getD_some]
  simp only [kept_removeExtracted, ite_self, kept_removeOld]
  by_cases hrem : fails .removeOld = true
  · simp [hrem, Survives, Kept]
  · simp [hrem, Survives]

/-! ## The replacement -/

/-- After a revert that fails the path has a complete executable, or the removal of the backup has
    to fail. -/
theorem revert_survives_iff (err : UpdateCall) (hbackup : files config.renamedOldExec = some old)
    (hold : IsExecutable config start old) :
    Ends (fun _ => True) (fun err files' => err.isSome → Survives config start fails files')
        (revert config err) (.errors fails) files ↔
      (HoldsExecutable config start config.exec files ∨
        fails .revert = false ∨ fails .removeOld = true) := by
  have hholds : HoldsExecutable config start config.renamedOldExec files := ⟨old, hbackup, hold⟩
  unfold revert
  rw [ends_call_ignore_errors, Files.rename?_of_some hbackup]
  by_cases hrevert : fails .revert = true
  · simp [hrevert, Survives, hholds]
  · simp [hrevert, Survives, holdsExecutable_put_self, hold]

theorem ends_copyFile {R : Bool → Files UpdateFile → Prop}
    (hnew : files (.extracted newExec) = some new) :
    Ends (fun _ => True) R (copyFile config env newExec) (.errors fails) files ↔
      if fails .openSource = true ∨ fails .createDest = true then R false files
      else if fails .copy = true then
        R false ((files.put config.exec []).put config.exec (new.take env.copied))
      else
        R (!fails .statSource && !fails .chmod)
          ((files.put config.exec []).put config.exec new) := by
  have hnew' : files.put config.exec [] (.extracted newExec) = some new := by
    rw [Files.put_of_ne (by simp [UpdateConfig.exec]), hnew]
  unfold copyFile
  simp only [ends_call_ite_errors, ends_callPart_ite_errors, ends_pure,
    Files.exists?_of_some hnew, Option.elim_some, hnew', Option.getD_some, Option.map_some]
  by_cases hopen : fails .openSource = true
  · simp [hopen]
  by_cases hcre : fails .createDest = true
  · simp [hopen, hcre]
  by_cases hcopy : fails .copy = true
  · simp [hopen, hcre, hcopy]
  by_cases hstat : fails .statSource = true
  · simp [hopen, hcre, hcopy, hstat]
  by_cases hchmod : fails .chmod = true
  · simp [hopen, hcre, hcopy, hstat, hchmod]
  · simp [hopen, hcre, hcopy, hstat, hchmod]

/-- The copy, with the old executable at its new name. -/
theorem copy_survives_iff (hpath : files config.exec = none)
    (hbackup : files config.renamedOldExec = some old) (hold : IsExecutable config start old)
    (hnew : files (.extracted newExec) = some new) (hcompl : IsExecutable config start new) :
    Ends (fun _ => True) (fun err files' => err.isSome → Survives config start fails files')
        (copyFile config env newExec >>= fun ok =>
          if ok = true then pure none else revert config .copy) (.errors fails) files ↔
      (fails .openSource = true ∨ fails .createDest = true ∨
          fails .copy = true ∧ ¬ IsExecutable config start (new.take env.copied) →
        fails .revert = false ∨ fails .removeOld = true) := by
  have hnone : ¬ HoldsExecutable config start config.exec files :=
    not_holdsExecutable_of_none hpath
  -- the backup is untouched by whatever the copy writes
  have hbackup' (first content : List UInt8) :
      (files.put config.exec first).put config.exec content config.renamedOldExec = some old := by
    rw [Files.put_of_ne renamedOldExec_ne_exec, Files.put_of_ne renamedOldExec_ne_exec, hbackup]
  rw [ends_bind, ends_copyFile hnew]
  by_cases hopened : fails .openSource = true ∨ fails .createDest = true
  · -- nothing is written, and nothing is at the path
    simp only [Bool.false_eq_true, if_false]
    rw [revert_survives_iff _ hbackup hold]
    grind
  by_cases hcopy : fails .copy = true
  · rw [if_pos hcopy]
    simp only [Bool.false_eq_true, if_false]
    rw [revert_survives_iff _ (hbackup' _ _) hold, holdsExecutable_put_self]
    grind
  · -- every byte is at the path, also if `Chmod` fails afterwards
    have hwrit : HoldsExecutable config start config.exec
        ((files.put config.exec []).put config.exec new) :=
      holdsExecutable_put_self.mpr hcompl
    split_ifs with hdone
    · simp only [ends_pure]
      grind
    · rw [revert_survives_iff _ (hbackup' _ _) hold]
      grind

/-- The swap: what is lost between the renames has to be put back. -/
theorem swapIn_survives_iff (hold : start config.exec = some old)
    (hnew : start (.extracted newExec) = some new) (hcompl : IsExecutable config start new) :
    Ends (fun _ => True) (fun err files' => err.isSome → Survives config start fails files')
        (swapIn config env newExec) (.errors fails) start ↔
      (fails .renameOld = false → ReplaceLosesPath config start env fails new →
        fails .revert = false ∨ fails .removeOld = true) := by
  have hexec : IsExecutable config start old := .inl hold
  unfold swapIn
  rw [ends_call_ite_errors, Files.rename?_of_some hold, Option.elim_some]
  by_cases hrename : fails .renameOld = true
  · simp [hrename, Survives, HoldsExecutable, hold, hexec]
  rw [if_neg hrename]
  -- the running executable has become the backup
  generalize hfiles : Files.put (Function.update start config.exec none) config.renamedOldExec old
    = files
  have hpath : files config.exec = none := by
    rw [← hfiles, Files.put_of_ne renamedOldExec_ne_exec.symm, Function.update_self]
  have hbackup : files config.renamedOldExec = some old := by
    rw [← hfiles, Files.put_self]
  have hnew' : files (.extracted newExec) = some new := by
    rw [← hfiles, Files.put_of_ne (by simp [UpdateConfig.renamedOldExec]),
      Function.update_of_ne (by simp [UpdateConfig.exec]), hnew]
  rw [ends_call_ite_errors, Files.rename?_of_some hnew', Option.elim_some, ends_pure]
  by_cases hreplace : fails .replace = true
  · rw [if_pos hreplace]
    split_ifs with hcross
    · rw [copy_survives_iff hpath hbackup hexec hnew' hcompl]
      simp [hrename, ReplaceLosesPath, hreplace, hcross]
    · rw [revert_survives_iff _ hbackup hexec]
      simp [hrename, ReplaceLosesPath, hreplace, hcross, not_holdsExecutable_of_none hpath]
  · simp [hreplace, ReplaceLosesPath]

theorem ends_stat_ite {Q : UpdateResult → Files UpdateFile → Prop} (site : UpdateCall)
    (file : UpdateFile) (next error : Program (Files UpdateFile) UpdateCall UpdateResult) :
    Ends (fun _ => True) Q
        (Program.call site (·.exists? file) >>= fun ok => if ok = true then next else error)
        (.errors fails) files ↔
      if fails site = false ∧ (files file).isSome then
        Ends (fun _ => True) Q next (.errors fails) files
      else
        Ends (fun _ => True) Q error (.errors fails) files := by
  rw [ends_call_ite_errors]
  cases hfile : files file with
  | none => simp [Files.exists?_of_none hfile]
  | some content =>
    rw [Files.exists?_of_some hfile, Option.elim_some]
    cases hfails : fails site <;> simp

theorem replaceExecutable_survives_iff (hold : start config.exec = some old) :
    Ends (fun _ => True) (fun err files' => err.isSome → Survives config start fails files')
        (replaceExecutable config env) (.errors fails) start ↔
      ∀ newExec ∈ newExecutable config start fails, ∀ new ∈ start (.extracted newExec),
        fails .renameOld = false → ReplaceLosesPath config start env fails new →
          fails .revert = false ∨ fails .removeOld = true := by
  unfold replaceExecutable newExecutable
  rw [ends_stat_ite, ends_stat_ite]
  split_ifs with hnew hnewExe
  · obtain ⟨new, hcont⟩ := Option.isSome_iff_exists.mp hnew.2
    rw [swapIn_survives_iff hold hcont (.inr (.inl hcont))]
    simp [hcont]
  · obtain ⟨new, hcont⟩ := Option.isSome_iff_exists.mp hnewExe.2
    rw [swapIn_survives_iff hold hcont (.inr (.inr hcont))]
    simp [hcont]
  · -- without a new executable the old one is not renamed
    have hkept : HoldsExecutable config start config.exec start := ⟨old, hold, .inl hold⟩
    simp [Survives, hkept]

/-- **An executable is kept**: exactly after the errors of `UpdateSafe` a complete one is at the
    path or at its backup. -/
theorem update_keeps_executable_iff (config : UpdateConfig) (env : UpdateEnv)
    (fails : UpdateCall → Bool) (start : Files UpdateFile) (old : List UInt8)
    (hold : start config.exec = some old) :
    (∀ err files, (update config env).run (.errors fails) start = .returned (some err) files →
        Kept config start files) ↔
      UpdateSafe config start env fails := by
  have hends : (∀ err files,
        (update config env).run (.errors fails) start = .returned (some err) files →
          Kept config start files) ↔
      Ends (fun _ => True) (fun err files => err.isSome → Kept config start files)
        (update config env) (.errors fails) start := by
    unfold Ends
    cases (update config env).run (.errors fails) start with
    | stopped files => simp
    | returned result files => cases result <;> simp
  rw [hends]
  unfold update UpdateSafe
  rw [ends_call_ite_errors, Option.elim_some, ends_bind]
  simp only [cleanUp_kept_iff]
  rw [replaceExecutable_survives_iff hold]
  by_cases hexecutable : fails .executable = true
  · have hkept : Kept config start start := .inl ⟨old, hold, .inl hold⟩
    simp [hexecutable, hkept]
  · simp [hexecutable]

/-- An executable of two bytes, and an update of three. -/
def sampleConfig : UpdateConfig := ⟨"bantay", "bantay"⟩

def sampleStart : Files UpdateFile :=
  Files.put (Files.put (fun _ => none) sampleConfig.exec [1, 1]) (.extracted "bantay") [2, 2, 2]

theorem update_keeps_executable_copy_fails :
    sampleStart sampleConfig.exec = some [1, 1] ∧
      UpdateSafe sampleConfig sampleStart ⟨true, 1⟩ (fun site => site = .replace ∨ site = .copy) ∧
      ∀ err files, (update sampleConfig ⟨true, 1⟩).run
          (.errors fun site => site = .replace ∨ site = .copy) sampleStart =
            .returned (some err) files →
        Kept sampleConfig sampleStart files := by
  have hsafe : UpdateSafe sampleConfig sampleStart ⟨true, 1⟩
      (fun site => site = .replace ∨ site = .copy) := by
    simp [UpdateSafe]
  exact ⟨rfl, hsafe, (update_keeps_executable_iff sampleConfig ⟨true, 1⟩ _ sampleStart [1, 1]
    rfl).mpr hsafe⟩

theorem update_removes_only_executable :
    ∃ files, (update sampleConfig ⟨false, 0⟩).run
        (.errors fun site => site = .replace ∨ site = .revert) sampleStart =
          .returned (some .replace) files ∧
      files sampleConfig.exec = none ∧ files sampleConfig.renamedOldExec = none ∧
      ¬ Kept sampleConfig sampleStart files := by
  refine ⟨_, rfl, rfl, rfl, ?_⟩
  rintro (h | h)
  · exact not_holdsExecutable_of_none rfl h
  · exact not_holdsExecutable_of_none rfl h

end Bantay.Update
