import Mathlib.Logic.Function.Basic

/-!
# Files

The contents of files by name, with the calls that change them.  A call that is not possible, as
the rename of a file that is not there, has no result.
-/

namespace Bantay.Lib

/-- The contents of files by name.  No two names share a file. -/
abbrev Files (ν : Type) := ν → Option (List UInt8)

namespace Files

variable {ν : Type} [DecidableEq ν]

variable (files : Files ν)

def put (name : ν) (content : List UInt8) : Files ν :=
  Function.update files name (some content)

def exists? (name : ν) : Option (Files ν) :=
  if (files name).isSome then some files else none

def remove? (name : ν) : Option (Files ν) :=
  if (files name).isSome then some (Function.update files name none) else none

/-- `rename`: the target is replaced in one step. -/
def rename? (src dst : ν) : Option (Files ν) :=
  (files src).map fun content => put (Function.update files src none) dst content

@[simp]
theorem put_self (name : ν) (content : List UInt8) : files.put name content name = some content :=
  Function.update_self _ _ _

variable {files : Files ν} {name : ν} {content : List UInt8}

theorem put_of_ne {name' : ν} (h : name' ≠ name) : files.put name content name' = files name' :=
  Function.update_of_ne h _ _

omit [DecidableEq ν] in
theorem exists?_of_some (h : files name = some content) : files.exists? name = some files := by
  simp [exists?, h]

omit [DecidableEq ν] in
theorem exists?_of_none (h : files name = none) : files.exists? name = none := by
  simp [exists?, h]

theorem rename?_of_some {src dst : ν} (h : files src = some content) :
    files.rename? src dst = some (put (Function.update files src none) dst content) := by
  simp [rename?, h]

end Files

end Bantay.Lib
