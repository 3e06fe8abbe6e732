import Bantay.Lib.LexicalPath

/-!
# Extracting a Release Archive

`extract` unpacks a `.tar.gz` or zip archive below a directory.  Both extractors join the name of
an entry to the directory; only the one for zip looks at the result, by a test of the prefix
before anything is created.

A run says which locations it has created or truncated.  What the file system answers is a
`World` for every entry, so that anything may happen to it between two entries, except that the
working directory and the directories above the destination are there all the time
(`ParentsExist`): the download has created the latter before.
-/

namespace Bantay.Update

open Bantay.Lib List

/-- A file or directory, as the names from the root on. -/
abbrev Location := List PathName

inductive FileKind where
  | missing | directory | other
  deriving DecidableEq

/-- The file system while one entry is extracted. -/
structure World where
  stat : Location → FileKind
  mkdirFails : Location → Bool
  createFails : Location → Bool
  openFails : Bool
  copyFails : Bool

inductive ExtractError where
  | openArchive | next | mkdir | create | copy | openEntry
  /-- `invalid file path: %s` -/
  | invalidPath (path : List Char)

/-- What an extraction has created or truncated, and the error it returns. -/
structure Extraction where
  touched : List Location
  err : Option ExtractError

/-! ## Directories and files -/

/-- `os.MkdirAll`, with its outcome for the parent, which is asked for only if the location is
    missing. -/
def mkdirBelow (world : World) (loc : Location) (parent : List Location × Bool) :
    List Location × Bool :=
  match world.stat loc with
  | .directory => ([], true)
  | .other => ([], false)
  | .missing =>
    if parent.2 = false then parent
    else if world.mkdirFails loc then (parent.1, false)
    else (parent.1 ++ [loc], true)

/-- A single name of a path that is not rooted has no parent. -/
def mkdirAll (world : World) (cwd : Location) (rooted : Bool) :
    List PathName → List Location × Bool
  | [] => mkdirBelow world (origin cwd rooted) ([], true)
  | name :: parents =>
    mkdirBelow world (walk (origin cwd rooted) (name :: parents).reverse)
      (if parents = [] ∧ rooted = false then ([], true) else mkdirAll world cwd rooted parents)

/-- The directory of an entry. -/
def makeDir (world : World) (cwd : Location) (path : CleanPath) : Extraction :=
  let made := mkdirAll world cwd path.rooted path.names.reverse
  ⟨made.1, if made.2 then none else some .mkdir⟩

def writeFile (world : World) (cwd : Location) (path : CleanPath) : Extraction :=
  let made := mkdirAll world cwd path.dir.rooted path.dir.names.reverse
  if made.2 = false then ⟨made.1, some .mkdir⟩
  else if world.stat (path.location cwd) = .directory ∨ world.createFails (path.location cwd) then
    ⟨made.1, some .create⟩
  else
    ⟨made.1 ++ [path.location cwd], if world.copyFails then some .copy else none⟩

inductive EntryKind where
  | dir | regular | irregular
  deriving DecidableEq

def extractEntry (world : World) (cwd : Location) (kind : EntryKind) (path : CleanPath) :
    Extraction :=
  match kind with
  | .dir => makeDir world cwd path
  | .regular => writeFile world cwd path
  | .irregular => ⟨[], none⟩

/-! ## The two extractors -/

def extractEntries {ε : Type} (extractOne : World → ε → Extraction) :
    (ℕ → World) → List ε → Extraction
  | _, [] => ⟨[], none⟩
  | worlds, entry :: entries =>
    let first := extractOne (worlds 0) entry
    match first.err with
    | some _ => first
    | none =>
      let rest := extractEntries extractOne (fun i => worlds (i + 1)) entries
      ⟨first.touched ++ rest.touched, rest.err⟩

structure TarEntry where
  name : List Char
  isDir : Bool

/-- Whatever is not a directory becomes a file. -/
def TarEntry.kind (entry : TarEntry) : EntryKind :=
  if entry.isDir then .dir else .regular

/-- What `tar.Reader` yields: entries, then the end or an error. -/
structure TarStream where
  entries : List TarEntry
  fails : Bool

/-- The empty path can be neither made nor created. -/
def TarEntry.NoPath (destDir : List Char) (entry : TarEntry) : Prop :=
  destDir = [] ∧ entry.name = []
deriving Decidable

def extractTarEntry (cwd : Location) (destDir : List Char) (world : World) (entry : TarEntry) :
    Extraction :=
  if entry.NoPath destDir then ⟨[], some (if entry.isDir then .mkdir else .create)⟩
  else extractEntry world cwd entry.kind (join destDir entry.name)

def extractTarGz (cwd : Location) (destDir : List Char) (worlds : ℕ → World) :
    Option TarStream → Extraction
  | none => ⟨[], some .openArchive⟩
  | some stream =>
    let result := extractEntries (extractTarEntry cwd destDir) worlds stream.entries
    if result.err.isNone ∧ stream.fails then { result with err := some .next } else result

structure ZipEntry where
  name : List Char
  kind : EntryKind

/-- The cleaned destination with a separator after it. -/
def zipBase (dest : List Char) : List Char :=
  (clean dest).render ++ ['/']

def extractFile (cwd : Location) (basePath : List Char) (world : World) (entry : ZipEntry) :
    Extraction :=
  let path := join basePath entry.name
  if basePath.isPrefixOf path.render = false then ⟨[], some (.invalidPath path.render)⟩
  else if world.openFails then ⟨[], some .openEntry⟩
  else extractEntry world cwd entry.kind path

def extractZip (cwd : Location) (dest : List Char) (worlds : ℕ → World) :
    Option (List ZipEntry) → Extraction
  | none => ⟨[], some .openArchive⟩
  | some entries => extractEntries (extractFile cwd (zipBase dest)) worlds entries

/-- What the readers of the two formats find in the file, if they can open it. -/
structure ArchiveFile where
  srcPath : List Char
  tar : Option TarStream
  zip : Option (List ZipEntry)

def ArchiveFile.isTarGz (archive : ArchiveFile) : Bool :=
  ".tar.gz".toList.isSuffixOf archive.srcPath

def extract (cwd : Location) (archive : ArchiveFile) (destDir : List Char)
    (worlds : ℕ → World) : Extraction :=
  if archive.isTarGz then extractTarGz cwd destDir worlds archive.tar
  else extractZip cwd destDir worlds archive.zip

/-! ## Inside and outside -/

def destination (cwd : Location) (destDir : List Char) : Location :=
  (clean destDir).location cwd

/-- The directories above the destination, the working directory and those above it. -/
def Existing (cwd dest loc : Location) : Prop :=
  (loc <+: dest ∧ loc ≠ dest) ∨ loc <+: cwd

def ParentsExist (cwd dest : Location) (world : World) : Prop :=
  ∀ loc, Existing cwd dest loc → world.stat loc = .directory

/-- Everything the extraction creates or truncates is inside the destination. -/
def Contained (cwd : Location) (archive : ArchiveFile) (destDir : List Char) : Prop :=
  ∀ worlds : ℕ → World, (∀ i, ParentsExist cwd (destination cwd destDir) (worlds i)) →
    ∀ loc ∈ (extract cwd archive destDir worlds).touched, destination cwd destDir <+: loc

/-- A file in the place of a directory that is there: the extraction ends with an error. -/
def Blocked (cwd dest : Location) (kind : EntryKind) (path : CleanPath) : Prop :=
  kind = .regular ∧ Existing cwd dest (path.location cwd)

/-- The entry is extracted to a location outside, which need not be there. -/
def Escapes (cwd dest : Location) (kind : EntryKind) (path : CleanPath) : Prop :=
  kind ≠ .irregular ∧ ¬ dest <+: path.location cwd ∧ ¬ Existing cwd dest (path.location cwd)

/-- No entry escapes, up to the first one that stops the extraction. -/
def NoneEscapes {ε : Type} (stops escapes : ε → Prop) : List ε → Prop
  | [] => True
  | entry :: entries => ¬ stops entry → ¬ escapes entry ∧ NoneEscapes stops escapes entries

/-- For `.tar.gz` it depends on the names of the entries.  A zip archive can leave only a
    destination that cleans to an end in `..`; then an entry whose name cleans to nothing is
    refused. -/
def SafeArchive (cwd : Location) (archive : ArchiveFile) (destDir : List Char) : Prop :=
  let dest := destination cwd destDir
  if archive.isTarGz then
    ∀ stream ∈ archive.tar,
      NoneEscapes
        (fun entry => entry.NoPath destDir ∨ Blocked cwd dest entry.kind (join destDir entry.name))
        (fun entry => Escapes cwd dest entry.kind (join destDir entry.name)) stream.entries
  else
    (clean destDir).names.getLast? = some parentName → ∀ entries ∈ archive.zip,
      NoneEscapes
        (fun entry => cleanNames false (components entry.name) = [] ∨
          Blocked cwd dest entry.kind (join (zipBase destDir) entry.name))
        (fun entry => Escapes cwd dest entry.kind (join (zipBase destDir) entry.name)) entries

/-! ## One entry -/

section Entry

variable {cwd dest loc : Location} {world : World} {path : CleanPath} {kind : EntryKind}

/-- A location the extraction may come to: nothing outside is created there. -/
def Allowed (cwd dest loc : Location) : Prop :=
  dest <+: loc ∨ Existing cwd dest loc

theorem prefix_of_missing (hworld : ParentsExist cwd dest world) (h : Allowed cwd dest loc)
    (hmiss : world.stat loc = .missing) : dest <+: loc := by
  rcases h with h | h
  · exact h
  · rw [hworld loc h] at hmiss
    exact absurd hmiss (by simp)

theorem allowed_of_walkStep {name : PathName} (h : dest <+: walkStep loc name) :
    Allowed cwd dest loc := by
  unfold walkStep at h
  split_ifs at h with hname
  · -- what is inside after `..` was inside before
    exact .inl (h.trans (List.dropLast_prefix _))
  · rcases prefix_concat_iff.mp h with h | h
    · -- the name is the last one of the destination
      refine .inr (.inl ⟨h ▸ prefix_append _ _, fun heq => ?_⟩)
      rw [heq] at h
      simp at h
    · exact .inl h

variable {parent : List Location × Bool}

theorem mkdirBelow_inside (hparent : dest <+: loc → ∀ made ∈ parent.1, dest <+: made)
    (hworld : ParentsExist cwd dest world) (h : Allowed cwd dest loc) :
    ∀ made ∈ (mkdirBelow world loc parent).1, dest <+: made := by
  unfold mkdirBelow
  cases hstat : world.stat loc with
  | directory => simp
  | other => simp
  | missing =>
    have hin := prefix_of_missing hworld h hstat
    split_ifs
    · exact hparent hin
    · exact hparent hin
    · intro made hmade
      rcases mem_append.mp hmade with hmade | hmade
      · exact hparent hin made hmade
      · rw [mem_singleton.mp hmade]
        exact hin

theorem mkdirAll_inside {rooted : Bool} (hworld : ParentsExist cwd dest world)
    (names : List PathName) (h : Allowed cwd dest (walk (origin cwd rooted) names.reverse)) :
    ∀ made ∈ (mkdirAll world cwd rooted names).1, dest <+: made := by
  -- the names come with the last one first, so that the parent is the rest of the list
  induction names with
  | nil => exact mkdirBelow_inside (by simp) hworld h
  | cons name parents ih =>
    refine mkdirBelow_inside (fun hin => ?_) hworld h
    split_ifs with hparent
    · simp
    · rw [reverse_cons, walk_concat] at hin
      exact ih (allowed_of_walkStep hin)

theorem allowed_dir (h : Allowed cwd dest (path.location cwd)) :
    Allowed cwd dest (path.dir.location cwd) := by
  rcases eq_nil_or_concat path.names with hnil | ⟨names, name, hnames⟩
  · have hdir : path.dir.location cwd = path.location cwd := by
      simp [CleanPath.location, CleanPath.dir, hnil]
    rwa [hdir]
  have hdir : path.dir.location cwd = walk (origin cwd path.rooted) names := by
    simp [CleanPath.location, CleanPath.dir, hnames]
  have hloc : path.location cwd = walkStep (path.dir.location cwd) name := by
    rw [hdir, CleanPath.location, hnames, concat_eq_append, walk_concat]
  rcases h with h | h
  · rw [hloc] at h
    exact allowed_of_walkStep h
  by_cases hparent : name = parentName
  · -- all names lead up from the working directory or the root
    have hasc := path.ascending
    rw [hnames, concat_eq_append, ascending_concat] at hasc
    have hpre := walk_prefix_of_parents (hasc.2 hparent) (origin cwd path.rooted)
    have horigin : origin cwd path.rooted <+: cwd := by
      unfold origin
      split_ifs
      · exact nil_prefix
      · exact prefix_rfl
    rw [hdir]
    exact .inr (.inr (hpre.trans horigin))
  · rw [walkStep, if_neg hparent] at hloc
    -- the directory is on the way to the location, and so it exists if the location does
    have hpre : path.dir.location cwd <+: path.location cwd := hloc ▸ prefix_append _ _
    rcases h with ⟨h, hne⟩ | h
    · refine .inr (.inl ⟨hpre.trans h, fun heq => ?_⟩)
      have hlen := h.length_le
      rw [hloc, heq, length_append] at hlen
      exact Nat.not_succ_le_self _ hlen
    · exact .inr (.inr (hpre.trans h))

theorem mem_writeFile {made : Location} (h : made ∈ (writeFile world cwd path).touched) :
    made ∈ (mkdirAll world cwd path.dir.rooted path.dir.names.reverse).1 ∨
      made = path.location cwd ∧ world.stat (path.location cwd) ≠ .directory := by
  unfold writeFile at h
  by_cases hmade : (mkdirAll world cwd path.dir.rooted path.dir.names.reverse).2 = false
  · rw [if_pos hmade] at h
    exact .inl h
  by_cases hcre : world.stat (path.location cwd) = .directory ∨
      world.createFails (path.location cwd)
  · rw [if_neg hmade, if_pos hcre] at h
    exact .inl h
  · rw [if_neg hmade, if_neg hcre] at h
    rcases mem_append.mp h with h | h
    · exact .inl h
    · exact .inr ⟨mem_singleton.mp h, fun hstat => hcre (.inl hstat)⟩

theorem writeFile_inside (hworld : ParentsExist cwd dest world)
    (h : Allowed cwd dest (path.location cwd)) :
    ∀ made ∈ (writeFile world cwd path).touched, dest <+: made := by
  have hdirs : ∀ made ∈ (mkdirAll world cwd path.dir.rooted path.dir.names.reverse).1,
      dest <+: made :=
    mkdirAll_inside hworld _ (by rw [reverse_reverse]; exact allowed_dir h)
  intro made hmade
  rcases mem_writeFile hmade with hmem | ⟨rfl, hstat⟩
  · exact hdirs made hmem
  · rcases h with h | h
    · exact h
    · exact absurd (hworld _ h) hstat

theorem allowed_of_not_escapes (h : ¬ Escapes cwd dest kind path) (hkind : kind ≠ .irregular) :
    Allowed cwd dest (path.location cwd) := by
  by_contra hnot
  exact h ⟨hkind, fun hin => hnot (.inl hin), fun hexis => hnot (.inr hexis)⟩

theorem extractEntry_inside (hworld : ParentsExist cwd dest world)
    (h : ¬ Escapes cwd dest kind path) :
    ∀ made ∈ (extractEntry world cwd kind path).touched, dest <+: made := by
  cases kind with
  | dir =>
    have hallowed := allowed_of_not_escapes h (by simp)
    exact mkdirAll_inside hworld _ (by rw [reverse_reverse]; exact hallowed)
  | regular => exact writeFile_inside hworld (allowed_of_not_escapes h (by simp))
  | irregular => simp [extractEntry]

theorem not_escapes_of_blocked (h : Blocked cwd dest kind path) : ¬ Escapes cwd dest kind path :=
  fun hescapes => hescapes.2.2 h.2

theorem extractEntry_blocked (hworld : ParentsExist cwd dest world)
    (h : Blocked cwd dest kind path) : (extractEntry world cwd kind path).err ≠ none := by
  obtain ⟨hkind, hexis⟩ := h
  subst hkind
  have hstat : world.stat (path.location cwd) = .directory := hworld _ hexis
  simp only [extractEntry, writeFile, hstat, true_or, if_true]
  split_ifs
  · simp
  · simp

/-! ## A file system without anything that could be missing -/

open Classical in
/-- Only what has to be there is there, and nothing fails. -/
noncomputable def bareWorld (cwd dest : Location) : World where
  stat loc := if Existing cwd dest loc then .directory else .missing
  mkdirFails _ := false
  createFails _ := false
  openFails := false
  copyFails := false

theorem parentsExist_bareWorld : ParentsExist cwd dest (bareWorld cwd dest) :=
  fun _ h => if_pos h

theorem mkdirBelow_bareWorld (h : parent.2 = true) :
    (mkdirBelow (bareWorld cwd dest) loc parent).2 = true ∧
      (¬ Existing cwd dest loc → loc ∈ (mkdirBelow (bareWorld cwd dest) loc parent).1) := by
  unfold mkdirBelow
  by_cases hexis : Existing cwd dest loc
  · simp [bareWorld, hexis]
  · simp [bareWorld, hexis, h]

theorem mkdirAll_bareWorld (cwd dest : Location) (rooted : Bool) (names : List PathName) :
    (mkdirAll (bareWorld cwd dest) cwd rooted names).2 = true ∧
      (¬ Existing cwd dest (walk (origin cwd rooted) names.reverse) →
        walk (origin cwd rooted) names.reverse ∈
          (mkdirAll (bareWorld cwd dest) cwd rooted names).1) := by
  induction names with
  | nil => exact mkdirBelow_bareWorld rfl
  | cons name parents ih =>
    refine mkdirBelow_bareWorld ?_
    split_ifs
    · rfl
    · exact ih.1

theorem extractEntry_bareWorld (h : ¬ Blocked cwd dest kind path) :
    (extractEntry (bareWorld cwd dest) cwd kind path).err = none ∧
      (Escapes cwd dest kind path →
        path.location cwd ∈ (extractEntry (bareWorld cwd dest) cwd kind path).touched) := by
  cases kind with
  | dir =>
    obtain ⟨hok, hmem⟩ := mkdirAll_bareWorld cwd dest path.rooted
      path.names.reverse
    rw [reverse_reverse] at hmem
    exact ⟨by simp [extractEntry, makeDir, hok], fun hescapes => hmem hescapes.2.2⟩
  | regular =>
    have hexis : ¬ Existing cwd dest (path.location cwd) := fun hex => h ⟨rfl, hex⟩
    have hok := (mkdirAll_bareWorld cwd dest path.dir.rooted
      path.dir.names.reverse).1
    have hstat : (bareWorld cwd dest).stat (path.location cwd) = .missing := if_neg hexis
    have hcre : (bareWorld cwd dest).createFails (path.location cwd) = false := rfl
    have hcopy : (bareWorld cwd dest).copyFails = false := rfl
    simp [extractEntry, writeFile, hok, hstat, hcre, hcopy]
  | irregular => exact ⟨rfl, fun hescapes => absurd rfl hescapes.1⟩

end Entry

/-! ## The loop -/

section Loop

variable {ε : Type} {extractOne : World → ε → Extraction} {cwd dest : Location}

theorem extractEntries_inside (stops escapes : ε → Prop)
    (hstops : ∀ entry, stops entry → ∀ world, ParentsExist cwd dest world →
      (extractOne world entry).err ≠ none)
    (hin : ∀ entry, (¬ stops entry → ¬ escapes entry) → ∀ world, ParentsExist cwd dest world →
      ∀ loc ∈ (extractOne world entry).touched, dest <+: loc)
    (entries : List ε) (hnone : NoneEscapes stops escapes entries) {worlds : ℕ → World}
    (hworlds : ∀ i, ParentsExist cwd dest (worlds i)) :
    ∀ loc ∈ (extractEntries extractOne worlds entries).touched, dest <+: loc := by
  induction entries generalizing worlds with
  | nil => simp [extractEntries]
  | cons entry entries ih =>
    have hfirst := hin entry (fun hgo => (hnone hgo).1) (worlds 0) (hworlds 0)
    simp only [extractEntries]
    cases herr : (extractOne (worlds 0) entry).err with
    | some err => exact hfirst
    | none =>
      -- an entry that must fail has not failed: the loop goes on only after the others
      have hgo : ¬ stops entry := fun hstop => hstops entry hstop (worlds 0) (hworlds 0) herr
      intro loc hloc
      rcases mem_append.mp hloc with hloc | hloc
      · exact hfirst loc hloc
      · exact ih (hnone hgo).2 (fun i => hworlds (i + 1)) loc hloc

theorem noneEscapes_of_bareWorld {stops escapes : ε → Prop}
    (hgo : ∀ entry, ¬ stops entry → (extractOne (bareWorld cwd dest) entry).err = none ∧
      (escapes entry → ∃ loc ∈ (extractOne (bareWorld cwd dest) entry).touched, ¬ dest <+: loc))
    (entries : List ε)
    (h : ∀ loc ∈ (extractEntries extractOne (fun _ => bareWorld cwd dest) entries).touched,
      dest <+: loc) :
    NoneEscapes stops escapes entries := by
  induction entries with
  | nil => trivial
  | cons entry entries ih =>
    intro hstops
    obtain ⟨herr, hescapes⟩ := hgo entry hstops
    simp only [extractEntries, herr, mem_append] at h
    refine ⟨fun hescape => ?_, ih fun loc hloc => h loc (.inr hloc)⟩
    obtain ⟨loc, hloc, hout⟩ := hescapes hescape
    exact hout (h loc (.inl hloc))

end Loop

/-! ## The prefix test -/

section Check

variable {cwd : Location} {destDir name : List Char}

theorem rooted_join_zipBase : (join (zipBase destDir) name).rooted = (clean destDir).rooted := by
  have hne : zipBase destDir ≠ [] := by simp [zipBase]
  rw [join, if_neg hne]
  change isRooted _ = _
  rw [isRooted_append hne, zipBase, isRooted_append (clean destDir).render_ne_nil,
    (clean destDir).isRooted_render]

theorem names_join_zipBase : (join (zipBase destDir) name).names =
    cleanNames (clean destDir).rooted ((clean destDir).names ++ components name) := by
  have hne : zipBase destDir ≠ [] := by simp [zipBase]
  have hcomponents : components (zipBase destDir) = (clean destDir).names := by
    rw [zipBase, components_append_slash, (clean destDir).components_render, components_nil,
      append_nil]
  have hrooted : (join (zipBase destDir) name).rooted = _ := rooted_join_zipBase
  rw [join, if_neg hne] at hrooted ⊢
  change cleanNames (isRooted _) _ = _
  rw [components_append_slash, hcomponents]
  change cleanNames (clean (zipBase destDir ++ '/' :: name)).rooted _ = _
  rw [hrooted]

theorem passesCheck_inside (hlast : (clean destDir).names.getLast? ≠ some parentName)
    (h : zipBase destDir <+: (join (zipBase destDir) name).render) :
    destination cwd destDir <+: (join (zipBase destDir) name).location cwd := by
  obtain ⟨rest, hrest⟩ := CleanPath.names_of_render_prefix _ h
  rw [CleanPath.location, rooted_join_zipBase, hrest, walk_append]
  rcases eq_nil_or_concat (clean destDir).names with hnil | ⟨names, last, hnames⟩
  · cases hrooted : (clean destDir).rooted with
    | false => exact absurd h (CleanPath.not_render_prefix_of_nil _ hrooted hnil)
    | true =>
      -- everything is inside the root
      have hroot : destination cwd destDir = [] := by
        simp [destination, CleanPath.location, origin, hrooted, hnil]
      rw [hroot]
      exact nil_prefix
  · have hlast' : last ≠ parentName := by
      rw [hnames] at hlast
      simpa using hlast
    -- a cleaned path has `..` only at its start, so none comes after the destination
    have hasc := (join (zipBase destDir) name).ascending
    rw [hrest, Ascending, pairwise_append] at hasc
    have hnot : parentName ∉ rest := fun hmem =>
      hlast' (hasc.2.2 last (by simp [hnames]) parentName hmem rfl)
    rw [walk_of_not_mem hnot]
    exact prefix_append _ _

/-- For a destination that ends in `..` the test refuses only names that clean to nothing. -/
theorem passesCheck_iff (hlast : (clean destDir).names.getLast? = some parentName) :
    zipBase destDir <+: (join (zipBase destDir) name).render ↔
      cleanNames false (components name) ≠ [] := by
  obtain ⟨names, hnames⟩ := List.getLast?_eq_some_iff.mp hlast
  have hne : (clean destDir).names ≠ [] := by simp [hnames]
  have hmem : parentName ∈ (clean destDir).names := by simp [hnames]
  have hrooted : (clean destDir).rooted = false := by
    by_contra htrue
    exact (clean destDir).not_mem_of_rooted (by simpa using htrue) hmem
  -- all names before the last `..` are `..` too
  have hparents : ∀ parent ∈ (clean destDir).names, parent = parentName := by
    have hasc := (clean destDir).ascending
    rw [hnames, ascending_concat] at hasc
    intro parent hparent
    rw [hnames, mem_append, mem_singleton] at hparent
    exact hparent.elim (hasc.2 rfl parent) id
  have hjoin : (join (zipBase destDir) name).names =
      (clean destDir).names ++ cleanNames false (components name) := by
    rw [names_join_zipBase, hrooted, cleanNames_parents_append hparents]
  constructor
  · intro h hnil
    rw [hnil, append_nil] at hjoin
    have hlen := h.length_le
    have hrender : (join (zipBase destDir) name).render = (clean destDir).render := by
      rw [CleanPath.render_of_not_rooted _ (rooted_join_zipBase.trans hrooted) (hjoin ▸ hne),
        CleanPath.render_of_not_rooted _ hrooted hne, hjoin]
    rw [hrender, zipBase, length_append] at hlen
    exact Nat.not_succ_le_self _ hlen
  · intro hrest
    exact CleanPath.render_prefix_of_names _ hrooted (rooted_join_zipBase.trans hrooted) hne hrest
      hjoin

end Check

/-! ## The archives -/

section Archives

variable {cwd : Location} {destDir : List Char}

theorem touched_extractTarGz (worlds : ℕ → World) (stream : TarStream) :
    (extractTarGz cwd destDir worlds (some stream)).touched =
      (extractEntries (extractTarEntry cwd destDir) worlds stream.entries).touched := by
  simp only [extractTarGz]
  split_ifs <;> rfl

/-- The same for the entries of a tar stream. -/
theorem extractTarGz_contained_iff (stream : TarStream) :
    (∀ worlds : ℕ → World, (∀ i, ParentsExist cwd (destination cwd destDir) (worlds i)) →
      ∀ loc ∈ (extractTarGz cwd destDir worlds (some stream)).touched,
        destination cwd destDir <+: loc) ↔
      NoneEscapes
        (fun entry => entry.NoPath destDir ∨
          Blocked cwd (destination cwd destDir) entry.kind (join destDir entry.name))
        (fun entry => Escapes cwd (destination cwd destDir) entry.kind (join destDir entry.name))
        stream.entries := by
  simp only [touched_extractTarGz]
  constructor
  · intro h
    refine noneEscapes_of_bareWorld (fun entry hgo => ?_) stream.entries
      (h _ fun _ => parentsExist_bareWorld)
    rw [not_or] at hgo
    obtain ⟨herr, hmem⟩ := extractEntry_bareWorld hgo.2
    rw [extractTarEntry, if_neg hgo.1]
    exact ⟨herr, fun hescapes => ⟨_, hmem hescapes, hescapes.2.1⟩⟩
  · intro h worlds hworlds
    refine extractEntries_inside _ _ (fun entry hstop world hworld => ?_)
      (fun entry hgo world hworld => ?_) stream.entries h hworlds
    · unfold extractTarEntry
      split
      case isTrue => simp
      case isFalse hpath => exact extractEntry_blocked hworld (hstop.resolve_left hpath)
    by_cases hpath : entry.NoPath destDir
    · simp [extractTarEntry, hpath]
    rw [extractTarEntry, if_neg hpath]
    by_cases hblk : Blocked cwd (destination cwd destDir) entry.kind (join destDir entry.name)
    · exact extractEntry_inside hworld (not_escapes_of_blocked hblk)
    · exact extractEntry_inside hworld (hgo (not_or.mpr ⟨hpath, hblk⟩))

variable {world : World} {entry : ZipEntry}

theorem extractFile_of_passes (h : zipBase destDir <+: (join (zipBase destDir) entry.name).render) :
    extractFile cwd (zipBase destDir) world entry =
      if world.openFails then ⟨[], some .openEntry⟩
      else extractEntry world cwd entry.kind (join (zipBase destDir) entry.name) := by
  have hcheck := List.isPrefixOf_iff_prefix.mpr h
  simp [extractFile, hcheck]

theorem extractFile_of_refused
    (h : ¬ zipBase destDir <+: (join (zipBase destDir) entry.name).render) :
    extractFile cwd (zipBase destDir) world entry =
      ⟨[], some (.invalidPath (join (zipBase destDir) entry.name).render)⟩ := by
  have hcheck : (zipBase destDir).isPrefixOf (join (zipBase destDir) entry.name).render = false :=
    Bool.eq_false_iff.mpr fun htrue => h (List.isPrefixOf_iff_prefix.mp htrue)
  simp [extractFile, hcheck]

theorem extractFile_inside (hworld : ParentsExist cwd (destination cwd destDir) world)
    (h : ¬ Escapes cwd (destination cwd destDir) entry.kind
        (join (zipBase destDir) entry.name) ∨
      ¬ zipBase destDir <+: (join (zipBase destDir) entry.name).render) :
    ∀ loc ∈ (extractFile cwd (zipBase destDir) world entry).touched,
      destination cwd destDir <+: loc := by
  by_cases hpass : zipBase destDir <+: (join (zipBase destDir) entry.name).render
  · rw [extractFile_of_passes hpass]
    split_ifs
    · simp
    · exact extractEntry_inside hworld (h.resolve_right (not_not.mpr hpass))
  · rw [extractFile_of_refused hpass]
    simp

theorem extractZip_inside (hlast : (clean destDir).names.getLast? ≠ some parentName)
    (entries : List ZipEntry) {worlds : ℕ → World}
    (hworlds : ∀ i, ParentsExist cwd (destination cwd destDir) (worlds i)) :
    ∀ loc ∈ (extractZip cwd destDir worlds (some entries)).touched,
      destination cwd destDir <+: loc := by
  refine extractEntries_inside (fun _ => False) (fun _ => False) (by simp)
    (fun entry _ world hworld => extractFile_inside hworld ?_) entries ?_ hworlds
  · by_cases hpass : zipBase destDir <+: (join (zipBase destDir) entry.name).render
    · exact .inl fun hescapes => hescapes.2.1 (passesCheck_inside hlast hpass)
    · exact .inr hpass
  · induction entries with
    | nil => trivial
    | cons entry entries ih => exact fun _ => ⟨by simp, ih⟩

/-- Zip entries stay inside exactly if none escapes before one is blocked. -/
theorem extractZip_contained_iff (hlast : (clean destDir).names.getLast? = some parentName)
    (entries : List ZipEntry) :
    (∀ worlds : ℕ → World, (∀ i, ParentsExist cwd (destination cwd destDir) (worlds i)) →
      ∀ loc ∈ (extractZip cwd destDir worlds (some entries)).touched,
        destination cwd destDir <+: loc) ↔
      NoneEscapes
        (fun entry => cleanNames false (components entry.name) = [] ∨
          Blocked cwd (destination cwd destDir) entry.kind (join (zipBase destDir) entry.name))
        (fun entry => Escapes cwd (destination cwd destDir) entry.kind
          (join (zipBase destDir) entry.name)) entries := by
  constructor
  · intro h
    refine noneEscapes_of_bareWorld (fun entry hgo => ?_) entries
      (h _ fun _ => parentsExist_bareWorld)
    rw [not_or] at hgo
    obtain ⟨herr, hmem⟩ := extractEntry_bareWorld hgo.2
    have hopen : (bareWorld cwd (destination cwd destDir)).openFails = false := rfl
    rw [extractFile_of_passes ((passesCheck_iff hlast).mpr hgo.1), hopen]
    exact ⟨herr, fun hescapes => ⟨_, hmem hescapes, hescapes.2.1⟩⟩
  · intro h worlds hworlds
    refine extractEntries_inside _ _ ?_ (fun entry hgo world hworld => ?_) entries h hworlds
    · intro entry hstop world hworld
      by_cases hpass : zipBase destDir <+: (join (zipBase destDir) entry.name).render
      · have hblk := hstop.resolve_left ((passesCheck_iff hlast).mp hpass)
        rw [extractFile_of_passes hpass]
        split_ifs
        · simp
        · exact extractEntry_blocked hworld hblk
      · rw [extractFile_of_refused hpass]
        simp
    · refine extractFile_inside hworld ?_
      by_cases hpass : zipBase destDir <+: (join (zipBase destDir) entry.name).render
      · left
        by_cases hblk : Blocked cwd (destination cwd destDir) entry.kind
            (join (zipBase destDir) entry.name)
        · exact not_escapes_of_blocked hblk
        · exact hgo fun hstop =>
            hstop.elim ((passesCheck_iff hlast).mp hpass) hblk
      · exact .inr hpass

end Archives

/-- **Contained**: exactly the archives of `SafeArchive` create and truncate nothing outside the
    destination. -/
theorem extract_contained_iff (cwd : Location) (archive : ArchiveFile) (destDir : List Char) :
    Contained cwd archive destDir ↔ SafeArchive cwd archive destDir := by
  unfold Contained SafeArchive extract
  split_ifs with htar
  · cases archive.tar with
    | none => simp [extractTarGz]
    | some stream => simpa using extractTarGz_contained_iff stream
  · cases archive.zip with
    | none => simp [extractZip]
    | some entries =>
      by_cases hlast : (clean destDir).names.getLast? = some parentName
      · simpa [hlast] using extractZip_contained_iff hlast entries
      · refine iff_of_true (fun worlds hworlds => extractZip_inside hlast entries hworlds) ?_
        exact fun h => absurd h hlast

/-- An archive with one file whose name goes up. -/
def climbingArchive : ArchiveFile where
  srcPath := "update.tar.gz".toList
  tar := some ⟨[⟨"../x".toList, false⟩], false⟩
  zip := none

/-- Only the directories above `/data/extracted` are there, and nothing fails. -/
def shallowWorld : World where
  stat loc := if loc.length ≤ 1 then .directory else .missing
  mkdirFails _ := false
  createFails _ := false
  openFails := false
  copyFails := false

theorem extract_climbs_out :
    ParentsExist [] (destination [] "/data/extracted".toList) shallowWorld ∧
      (extract [] climbingArchive "/data/extracted".toList fun _ => shallowWorld).touched =
        [["data".toList, "x".toList]] ∧
      (extract [] climbingArchive "/data/extracted".toList fun _ => shallowWorld).err = none ∧
      ¬ Contained [] climbingArchive "/data/extracted".toList := by
  have htouched : (extract [] climbingArchive "/data/extracted".toList
      fun _ => shallowWorld).touched = [["data".toList, "x".toList]] := by
    decide +kernel
  have hworld : ParentsExist [] (destination [] "/data/extracted".toList) shallowWorld := by
    intro loc hloc
    have hlen : loc.length ≤ 1 := by
      rcases hloc with ⟨hpre, hne⟩ | hpre
      · have hle : loc.length ≤ 2 := hpre.length_le
        have hlt : loc.length ≠ 2 := fun heq => hne (hpre.eq_of_length heq)
        omega
      · have hle : loc.length ≤ 0 := hpre.length_le
        omega
    exact if_pos hlen
  refine ⟨hworld, htouched, rfl, fun hcontained => ?_⟩
  have hpre := hcontained (fun _ => shallowWorld) (fun _ => hworld) ["data".toList, "x".toList]
    (by rw [htouched]; exact mem_cons_self)
  exact absurd hpre (by decide +kernel)

end Bantay.Update
