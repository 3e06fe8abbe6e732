import Mathlib.Data.List.Basic

/-!
# Lexical Paths

Slash-separated paths as `path/filepath` reads them: `clean` follows the documented rules of
`Clean`, `join` and `dir` are given by it.  A cleaned path is a `CleanPath`, which carries what
cleaning promises.  Its `location` is what it names, as the names from the root on, for a process
in a working directory without symbolic links.

Main result: `names_of_render_prefix` — what a string prefix that ends in a slash says about the
names.
-/

namespace Bantay.Lib

open List

abbrev PathName := List Char

def parentName : PathName := ['.', '.']

/-- The names that are left by cleaning. -/
def IsName (name : PathName) : Prop :=
  name ≠ [] ∧ name ≠ ['.'] ∧ '/' ∉ name

/-- The elements of a path, without the empty ones and `.`. -/
def components (text : List Char) : List PathName :=
  (text.splitOn '/').filter fun name => name ≠ [] ∧ name ≠ ['.']

def isRooted (text : List Char) : Bool := text.head? == some '/'

variable {text : List Char} {name top : PathName} {rooted : Bool} {stack rest : List PathName}

theorem not_mem_of_mem_splitOn : ∀ name ∈ text.splitOn '/', '/' ∉ name := by
  induction text with
  | nil => simp
  | cons c text ih =>
    rw [splitOn_cons_eq_if_modifyHead]
    split_ifs with hc
    · simpa using ih
    · have hne : c ≠ '/' := by simpa using hc
      cases hsplit : text.splitOn '/' with
      | nil => exact absurd hsplit (splitOn_ne_nil _ _)
      | cons first rest =>
        rw [hsplit, forall_mem_cons] at ih
        rw [modifyHead_cons, forall_mem_cons, mem_cons, not_or]
        exact ⟨⟨hne.symm, ih.1⟩, ih.2⟩

theorem isName_of_mem_components (h : name ∈ components text) : IsName name := by
  simp only [components, mem_filter, decide_eq_true_eq] at h
  exact ⟨h.2.1, h.2.2, not_mem_of_mem_splitOn name h.1⟩

theorem components_append_slash (text rest : List Char) :
    components (text ++ '/' :: rest) = components text ++ components rest := by
  simp [components, splitOn_append_cons_self]

@[simp]
theorem components_nil : components [] = [] := by decide

/-! ## Cleaning -/

/-- One element is added to a cleaned path, whose names are stacked up with the last one first. -/
def pushName (rooted : Bool) (stack : List PathName) (name : PathName) : List PathName :=
  if name = parentName then
    match stack with
    | [] => if rooted then [] else [parentName]
    | top :: rest => if top = parentName then name :: top :: rest else rest
  else name :: stack

theorem pushName_of_name (h : name ≠ parentName) : pushName rooted stack name = name :: stack :=
  if_neg h

theorem pushName_parent_of_parent (h : top = parentName) :
    pushName rooted (top :: rest) parentName = parentName :: top :: rest := by
  simp [pushName, h]

theorem pushName_parent_of_name (h : top ≠ parentName) :
    pushName rooted (top :: rest) parentName = rest := by
  simp [pushName, h]

/-- A `..` comes only after other ones. -/
def Ascending (names : List PathName) : Prop :=
  names.Pairwise fun name later => later = parentName → name = parentName

/-- A path as `Clean` returns it. -/
structure CleanPath where
  rooted : Bool
  names : List PathName
  isName : ∀ name ∈ names, IsName name
  ascending : Ascending names
  not_mem_of_rooted : rooted = true → parentName ∉ names

structure CleanStack (rooted : Bool) (stack : List PathName) : Prop where
  isName : ∀ name ∈ stack, IsName name
  ascending : Ascending stack.reverse
  not_mem_of_rooted : rooted = true → parentName ∉ stack

variable {names : List PathName}

theorem ascending_concat :
    Ascending (names ++ [name]) ↔
      Ascending names ∧ (name = parentName → ∀ earlier ∈ names, earlier = parentName) := by
  simp only [Ascending, pairwise_append, pairwise_singleton, mem_singleton,
    true_and, forall_eq]
  exact and_congr_right fun _ =>
    ⟨fun h hname a ha => h a ha hname, fun h a ha hname => h hname a ha⟩

/-- **One name** of the path: `..` pops a name, or stays in front of a relative path. -/
theorem CleanStack.pushName (h : CleanStack rooted stack) (hname : IsName name) :
    CleanStack rooted (pushName rooted stack name) := by
  obtain ⟨hnames, hasc, hrooted⟩ := h
  by_cases hparent : name = parentName
  · subst hparent
    cases stack with
    | nil =>
      cases rooted
      · exact ⟨by simpa [Lib.pushName] using hname, by simp [Lib.pushName, Ascending], by simp⟩
      · exact ⟨by simp [Lib.pushName], by simp [Lib.pushName, Ascending],
          by simp [Lib.pushName]⟩
    | cons top rest =>
      rw [reverse_cons, ascending_concat] at hasc
      by_cases htop : top = parentName
      · -- below a `..` there are only others, so the path is not rooted
        rw [pushName_parent_of_parent htop]
        refine ⟨forall_mem_cons.mpr ⟨hname, hnames⟩, ?_, fun hroot => ?_⟩
        · rw [reverse_cons, ascending_concat, reverse_cons, ascending_concat]
          refine ⟨hasc, fun _ earlier hearl => ?_⟩
          rcases mem_append.mp hearl with hearl | hearl
          · exact hasc.2 htop earlier hearl
          · rw [mem_singleton.mp hearl, htop]
        · exact absurd (htop ▸ mem_cons_self) (hrooted hroot)
      · rw [pushName_parent_of_name htop]
        exact ⟨(forall_mem_cons.mp hnames).2, hasc.1,
          fun hroot hmem => hrooted hroot (mem_cons_of_mem _ hmem)⟩
  · rw [pushName_of_name hparent]
    refine ⟨forall_mem_cons.mpr ⟨hname, hnames⟩, ?_, fun hroot hmem => ?_⟩
    · rw [reverse_cons, ascending_concat]
      exact ⟨hasc, fun h => absurd h hparent⟩
    · rcases mem_cons.mp hmem with hmem | hmem
      · exact hparent hmem.symm
      · exact hrooted hroot hmem

theorem CleanStack.foldl (hnames : ∀ name ∈ names, IsName name) (h : CleanStack rooted stack) :
    CleanStack rooted (names.foldl (Lib.pushName rooted) stack) := by
  induction names generalizing stack with
  | nil => exact h
  | cons name names ih =>
    obtain ⟨hname, hrest⟩ := forall_mem_cons.mp hnames
    exact ih hrest (h.pushName hname)

def cleanNames (rooted : Bool) (names : List PathName) : List PathName :=
  (names.foldl (pushName rooted) []).reverse

theorem cleanStack_components (rooted : Bool) (text : List Char) :
    CleanStack rooted ((components text).foldl (pushName rooted) []) :=
  CleanStack.foldl (fun _ => isName_of_mem_components)
    ⟨by simp, by simp [Ascending], by simp⟩

def clean (text : List Char) : CleanPath where
  rooted := isRooted text
  names := cleanNames (isRooted text) (components text)
  isName name hname :=
    (cleanStack_components (isRooted text) text).isName name (mem_reverse.mp hname)
  ascending := (cleanStack_components (isRooted text) text).ascending
  not_mem_of_rooted hrooted hmem :=
    (cleanStack_components (isRooted text) text).not_mem_of_rooted hrooted
      (mem_reverse.mp hmem)

namespace CleanPath

def render (path : CleanPath) : List Char :=
  match path.rooted, path.names with
  | true, names => '/' :: ['/'].intercalate names
  | false, [] => ['.']
  | false, name :: names => ['/'].intercalate (name :: names)

def dir (path : CleanPath) : CleanPath where
  rooted := path.rooted
  names := path.names.dropLast
  isName name hname := path.isName name ((dropLast_sublist _).subset hname)
  ascending := path.ascending.sublist (dropLast_sublist _)
  not_mem_of_rooted hrooted hmem :=
    path.not_mem_of_rooted hrooted ((dropLast_sublist _).subset hmem)

end CleanPath

/-- `filepath.Join` of two elements, not both empty; the first is left out if it is empty. -/
def join (text name : List Char) : CleanPath :=
  if text = [] then clean name else clean (text ++ '/' :: name)

/-! ## Locations -/

/-- One element on the way to a location. -/
def walkStep (location : List PathName) (name : PathName) : List PathName :=
  if name = parentName then location.dropLast else location ++ [name]

def walk (location : List PathName) (names : List PathName) : List PathName :=
  names.foldl walkStep location

@[simp]
theorem walk_nil (location : List PathName) : walk location [] = location := rfl

theorem walk_append (location names more : List PathName) :
    walk location (names ++ more) = walk (walk location names) more :=
  foldl_append

theorem walk_concat (location names : List PathName) (name : PathName) :
    walk location (names ++ [name]) = walkStep (walk location names) name :=
  walk_append _ _ _

theorem walk_of_not_mem (h : parentName ∉ names)
    (location : List PathName) : walk location names = location ++ names := by
  induction names generalizing location with
  | nil => simp
  | cons name names ih =>
    rw [mem_cons, not_or] at h
    change walk (walkStep location name) names = _
    rw [ih h.2, walkStep, if_neg (Ne.symm h.1), append_assoc]
    rfl

/-- Where the walk along a path starts. -/
def origin (cwd : List PathName) (rooted : Bool) : List PathName :=
  if rooted then [] else cwd

/-- The location of a path for a process in the directory `cwd`. -/
def CleanPath.location (cwd : List PathName) (path : CleanPath) : List PathName :=
  walk (origin cwd path.rooted) path.names

theorem isRooted_append {text : List Char} (h : text ≠ []) (rest : List Char) :
    isRooted (text ++ rest) = isRooted text := by
  cases text with
  | nil => exact absurd rfl h
  | cons c text => rfl

theorem walk_prefix_of_parents (h : ∀ name ∈ names, name = parentName)
    (location : List PathName) : walk location names <+: location := by
  induction names generalizing location with
  | nil => exact prefix_rfl
  | cons name names ih =>
    obtain ⟨hname, hrest⟩ := forall_mem_cons.mp h
    have hstep : walkStep location name = location.dropLast := if_pos hname
    change walk (walkStep location name) names <+: location
    rw [hstep]
    exact (ih hrest _).trans (List.dropLast_prefix _)

/-! ## Names joined to leading `..` elements -/

variable {parents : List PathName}

theorem pushName_append_parents {stack : List PathName} {name : PathName}
    (h : ∀ parent ∈ parents, parent = parentName) :
    pushName false (stack ++ parents) name = pushName false stack name ++ parents := by
  by_cases hname : name = parentName
  · subst hname
    cases stack with
    | nil =>
      cases parents with
      | nil => rfl
      | cons parent parents =>
        exact pushName_parent_of_parent (h parent mem_cons_self)
    | cons top rest =>
      by_cases htop : top = parentName
      · rw [cons_append, pushName_parent_of_parent htop, pushName_parent_of_parent htop]
        rfl
      · rw [cons_append, pushName_parent_of_name htop, pushName_parent_of_name htop]
  · rw [pushName_of_name hname, pushName_of_name hname, cons_append]

theorem foldl_pushName_append_parents (h : ∀ parent ∈ parents, parent = parentName)
    (names stack : List PathName) :
    names.foldl (pushName false) (stack ++ parents) =
      names.foldl (pushName false) stack ++ parents := by
  induction names generalizing stack with
  | nil => rfl
  | cons name names ih => rw [foldl_cons, foldl_cons, pushName_append_parents h, ih]

theorem cleanNames_parents_append (h : ∀ parent ∈ parents, parent = parentName)
    (names : List PathName) :
    cleanNames false (parents ++ names) = parents ++ cleanNames false names := by
  induction parents with
  | nil => rfl
  | cons parent parents ih =>
    obtain ⟨hparent, hparents⟩ := forall_mem_cons.mp h
    have hpush : pushName false [] parent = [] ++ [parent] := by rw [hparent]; rfl
    rw [cons_append, cleanNames, foldl_cons, hpush,
      foldl_pushName_append_parents (by simpa using hparent), reverse_append]
    change parent :: cleanNames false (parents ++ names) = _
    rw [ih hparents, cons_append]

/-! ## The text of a cleaned path -/

namespace CleanPath

variable (path : CleanPath)

theorem filter_names : path.names.filter (fun name => name ≠ [] ∧ name ≠ ['.']) = path.names := by
  rw [filter_eq_self]
  intro name hname
  obtain ⟨hne, hdot, _⟩ := path.isName name hname
  simp [hne, hdot]

theorem splitOn_intercalate_names (h : path.names ≠ []) :
    (['/'].intercalate path.names).splitOn '/' = path.names :=
  splitOn_intercalate '/' (fun name hname => (path.isName name hname).2.2) h

theorem components_intercalate_names : components (['/'].intercalate path.names) = path.names := by
  by_cases h : path.names = []
  · rw [h]
    decide
  · rw [components, path.splitOn_intercalate_names h, path.filter_names]

theorem render_of_rooted (h : path.rooted = true) :
    path.render = '/' :: ['/'].intercalate path.names := by
  simp [render, h]

theorem render_of_not_rooted (h : path.rooted = false) (hne : path.names ≠ []) :
    path.render = ['/'].intercalate path.names := by
  unfold render
  rw [h]
  cases hnames : path.names with
  | nil => exact absurd hnames hne
  | cons name names => rfl

theorem render_of_nil (h : path.rooted = false) (hnil : path.names = []) : path.render = ['.'] := by
  simp [render, h, hnil]

theorem components_render : components path.render = path.names := by
  cases hrooted : path.rooted with
  | true =>
    rw [path.render_of_rooted hrooted]
    exact (components_append_slash [] _).trans path.components_intercalate_names
  | false =>
    by_cases hnil : path.names = []
    · rw [path.render_of_nil hrooted hnil, hnil]
      decide
    · rw [path.render_of_not_rooted hrooted hnil, path.components_intercalate_names]

theorem render_ne_nil : path.render ≠ [] := by
  intro h
  cases hrooted : path.rooted with
  | true => simp [path.render_of_rooted hrooted] at h
  | false =>
    by_cases hnil : path.names = []
    · simp [path.render_of_nil hrooted hnil] at h
    · -- the text of no name at all
      have hnames := path.components_render
      rw [h, components_nil] at hnames
      exact hnil hnames.symm

theorem isRooted_render : isRooted path.render = path.rooted := by
  cases hrooted : path.rooted with
  | true =>
    rw [path.render_of_rooted hrooted]
    rfl
  | false =>
    by_cases hnil : path.names = []
    · rw [path.render_of_nil hrooted hnil]
      rfl
    · by_contra hslash
      obtain ⟨rest, hrest⟩ : ∃ rest, path.render = '/' :: rest := by
        cases hrender : path.render with
        | nil => exact absurd hrender path.render_ne_nil
        | cons c rest =>
          rw [hrender] at hslash
          exact ⟨rest, by simpa [isRooted] using hslash⟩
      have hsplit := path.splitOn_intercalate_names hnil
      rw [← path.render_of_not_rooted hrooted hnil, hrest,
        splitOn_cons_eq_if_modifyHead, if_pos (beq_self_eq_true _)] at hsplit
      exact (path.isName [] (hsplit ▸ mem_cons_self)).1 rfl

variable {base : CleanPath}

theorem names_of_render_prefix (h : base.render ++ ['/'] <+: path.render) :
    ∃ rest, path.names = base.names ++ rest := by
  obtain ⟨rest, hrest⟩ := h
  refine ⟨components rest, ?_⟩
  rw [← path.components_render, ← hrest, append_assoc, singleton_append,
    components_append_slash, base.components_render]

theorem not_render_prefix_of_nil (hrooted : base.rooted = false) (hnil : base.names = []) :
    ¬ base.render ++ ['/'] <+: path.render := by
  rintro ⟨rest, hrest⟩
  rw [base.render_of_nil hrooted hnil] at hrest
  cases hpath : path.rooted with
  | true =>
    rw [path.render_of_rooted hpath] at hrest
    simp at hrest
  | false =>
    by_cases hnames : path.names = []
    · rw [path.render_of_nil hpath hnames] at hrest
      simp at hrest
    · have hsplit := path.splitOn_intercalate_names hnames
      have hdot : (['.'] ++ ['/'] ++ rest).splitOn '/' = ['.'] :: rest.splitOn '/' := by
        exact splitOn_append_cons_self ['.'] rest
      rw [← path.render_of_not_rooted hpath hnames, ← hrest, hdot] at hsplit
      exact (path.isName ['.'] (hsplit ▸ mem_cons_self)).2.1 rfl

theorem intercalate_append {names : List PathName} (hne : names ≠ []) (hrest : rest ≠ []) :
    ['/'].intercalate (names ++ rest) =
      ['/'].intercalate names ++ ['/'] ++ ['/'].intercalate rest := by
  induction names with
  | nil => exact absurd rfl hne
  | cons name names ih =>
    by_cases hnames : names = []
    · subst hnames
      rw [singleton_append, intercalate_cons_of_ne_nil hrest, intercalate_singleton]
    · rw [cons_append, intercalate_cons_of_ne_nil (by simp [hnames]), ih hnames,
        intercalate_cons_of_ne_nil hnames]
      simp only [append_assoc]

theorem render_prefix_of_names (hbase : base.rooted = false) (hpath : path.rooted = false)
    (hne : base.names ≠ []) (hrest : rest ≠ []) (hnames : path.names = base.names ++ rest) :
    base.render ++ ['/'] <+: path.render := by
  have hpathNames : path.names ≠ [] := by simp [hnames, hne]
  rw [base.render_of_not_rooted hbase hne, path.render_of_not_rooted hpath hpathNames, hnames]
  exact ⟨['/'].intercalate rest, (intercalate_append hne hrest).symm⟩

end CleanPath

end Bantay.Lib
