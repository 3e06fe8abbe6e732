import Mathlib.Algebra.Notation.Defs
import Mathlib.Data.List.Perm.Basic
import Mathlib.Order.MinMax

/-!
# Roll-Ups

Records are averaged, averages are averaged again, and so on: a tree whose leaves are records
and whose inner nodes are averages of one or more children.  A record may carry a reading, a
current value with the peak of the time it stands for.  The current value of an average is a
scaled sum, its peak the largest current value or peak of the averaged records.

Main result: a roll-up whose averages never exceed what they average keeps the peak of all its
leaves (`peak_eval_node`).
-/

namespace Bantay.Lib

open List

/-! ## Trees of averages -/

/-- A record, or the average of one or more roll-ups. -/
inductive Rollup (ρ : Type*) where
  | leaf (record : ρ)
  | node (first : Rollup ρ) (rest : List (Rollup ρ))

namespace Rollup

variable {ρ : Type*}

/-- The induction hypothesis of a node holds for each of its children. -/
@[elab_as_elim]
theorem induction {motive : Rollup ρ → Prop} (leaf : ∀ record, motive (.leaf record))
    (node : ∀ first rest, (∀ t ∈ first :: rest, motive t) → motive (.node first rest)) :
    ∀ t, motive t
  | .leaf record => leaf record
  | .node first rest => node first rest fun t ht => by
    exact induction leaf node t
termination_by t => sizeOf t

mutual

/-- The record at the root, computed from the leaves. -/
def eval (average : List ρ → ρ) : Rollup ρ → ρ
  | .leaf record => record
  | .node first rest => average (eval average first :: evalAll average rest)

def evalAll (average : List ρ → ρ) : List (Rollup ρ) → List ρ
  | [] => []
  | t :: ts => eval average t :: evalAll average ts

end

mutual

def leaves : Rollup ρ → List ρ
  | .leaf record => [record]
  | .node first rest => leaves first ++ leavesAll rest

def leavesAll : List (Rollup ρ) → List ρ
  | [] => []
  | t :: ts => leaves t ++ leavesAll ts

end

mutual

/-- `P` holds for the records that are averaged at each node. -/
def EveryNode (average : List ρ → ρ) (P : List ρ → Prop) : Rollup ρ → Prop
  | .leaf _ => True
  | .node first rest =>
    P (eval average first :: evalAll average rest) ∧
      EveryNode average P first ∧ EveryNodeAll average P rest

def EveryNodeAll (average : List ρ → ρ) (P : List ρ → Prop) : List (Rollup ρ) → Prop
  | [] => True
  | t :: ts => EveryNode average P t ∧ EveryNodeAll average P ts

end

variable (average : List ρ → ρ) (ts : List (Rollup ρ))

theorem evalAll_eq_map :
    evalAll average ts = ts.map (eval average) := by
  induction ts with
  | nil => rfl
  | cons t ts ih => rw [evalAll, ih, map_cons]

theorem leavesAll_eq_flatMap : leavesAll ts = ts.flatMap leaves := by
  induction ts with
  | nil => rfl
  | cons t ts ih => rw [leavesAll, ih, flatMap_cons]

variable (P : List ρ → Prop)

theorem everyNodeAll_iff (ts : List (Rollup ρ)) :
    EveryNodeAll average P ts ↔ ∀ t ∈ ts, EveryNode average P t := by
  induction ts with
  | nil => simp [EveryNodeAll]
  | cons t ts ih => simp [EveryNodeAll, ih]

variable (first : Rollup ρ) (rest : List (Rollup ρ))

theorem eval_node :
    eval average (.node first rest) = average ((first :: rest).map (eval average)) := by
  rw [eval, evalAll_eq_map, map_cons]

theorem leaves_node :
    leaves (.node first rest) = (first :: rest).flatMap leaves := by
  rw [leaves, leavesAll_eq_flatMap, flatMap_cons]

theorem mem_leaves_node {first t : Rollup ρ} {rest : List (Rollup ρ)} {r : ρ}
    (ht : t ∈ first :: rest) (hr : r ∈ t.leaves) : r ∈ leaves (.node first rest) := by
  rw [leaves_node]
  exact mem_flatMap.mpr ⟨t, ht, hr⟩

theorem everyNode_node :
    EveryNode average P (.node first rest) ↔
      P ((first :: rest).map (eval average)) ∧
        ∀ t ∈ first :: rest, EveryNode average P t := by
  rw [EveryNode, everyNodeAll_iff, evalAll_eq_map, forall_mem_cons, map_cons]

theorem EveryNode.mono {average : List ρ → ρ} {P Q : List ρ → Prop} (hPQ : ∀ rs, P rs → Q rs)
    {t : Rollup ρ} (h : EveryNode average P t) : EveryNode average Q t := by
  induction t using Rollup.induction with
  | leaf record => trivial
  | node first rest ih =>
    rw [everyNode_node] at h ⊢
    exact ⟨hPQ _ h.1, fun t ht => ih t ht (h.2 t ht)⟩

end Rollup

/-! ## The largest element of several lists -/

section Maximum

variable {α β : Type*} [LinearOrder α]

theorem max?_append (xs ys : List α) : (xs ++ ys).max? = xs.max?.merge max ys.max? := by
  induction xs with
  | nil => simp
  | cons x xs ih =>
    rw [cons_append, List.max?_cons, List.max?_cons, ih]
    cases hxs : xs.max? <;> cases hys : ys.max? <;> simp [max_assoc]

theorem max?_flatMap (f : β → List α) (xs : List β) :
    (xs.flatMap f).max? = (xs.filterMap fun x => (f x).max?).max? := by
  induction xs with
  | nil => rfl
  | cons x xs ih =>
    rw [flatMap_cons, max?_append, ih]
    cases hx : (f x).max? with
    | none => simp [hx]
    | some m =>
      have hcons : (x :: xs).filterMap (fun x => (f x).max?) =
          m :: xs.filterMap fun x => (f x).max? := by
        simp [hx]
      rw [hcons, List.max?_cons]
      cases (xs.filterMap fun x => (f x).max?).max? <;> rfl

theorem le_of_max?_eq_some {xs : List α} {m x : α} (hmax : xs.max? = some m) (hx : x ∈ xs) :
    x ≤ m := by
  induction xs generalizing m with
  | nil => cases hx
  | cons y ys ih =>
    rw [List.max?_cons, Option.some.injEq] at hmax
    cases hys : ys.max? with
    | none =>
      obtain rfl := List.max?_eq_none_iff.mp hys
      rw [hys, Option.elim_none] at hmax
      rw [mem_singleton.mp hx, hmax]
    | some n =>
      rw [hys, Option.elim_some] at hmax
      subst hmax
      rcases mem_cons.mp hx with rfl | hx
      · exact le_max_left _ _
      · exact le_max_of_le_right (ih hys hx)

theorem mem_of_max?_eq_some {xs : List α} {m : α} (hmax : xs.max? = some m) : m ∈ xs :=
  have : Std.MaxEqOr α := ⟨max_choice⟩
  List.max?_mem hmax

end Maximum

/-! ## Readings -/

/-- A current value and the peak of the time it stands for. -/
structure Reading (α : Type*) where
  current : α
  peak : α

namespace Reading

variable {α : Type*} [LinearOrder α] [Zero α]

/-- The larger of the two values. -/
def top (v : Reading α) : α := max v.current v.peak

def Nonneg (v : Reading α) : Prop := 0 ≤ v.current ∧ 0 ≤ v.peak

theorem Nonneg.top_nonneg {v : Reading α} (h : v.Nonneg) : 0 ≤ v.top :=
  le_max_of_le_left h.1

/-- One record of the loop that sums current values and keeps the largest peak. -/
def tally (add : α → α → α) (acc : Option (Reading α)) (v : Reading α) : Option (Reading α) :=
  let a := acc.getD ⟨0, 0⟩
  some ⟨add a.current v.current, max (max a.peak v.peak) v.current⟩

/-- The reading of an average of `n` records, of which those in `vs` carry the reading. -/
def average (add : α → α → α) (scale : ℕ → α → α) (n : ℕ) :
    List (Reading α) → Option (Reading α)
  | [] => none
  | v :: vs => some
    { current := scale n (((v :: vs).map current).foldl add 0)
      peak := ((v :: vs).map top).foldl max 0 }

variable (add : α → α → α)

theorem foldl_tally_some (vs : List (Reading α)) (a : Reading α) :
    vs.foldl (tally add) (some a) =
      some ⟨(vs.map current).foldl add a.current, (vs.map top).foldl max a.peak⟩ := by
  induction vs generalizing a with
  | nil => rfl
  | cons v vs ih =>
    have hpeak : max (max a.peak v.peak) v.current = max a.peak v.top := by
      rw [max_assoc, max_comm v.peak, top]
    rw [foldl_cons, tally, ih, Option.getD_some, hpeak]
    rfl

variable (scale : ℕ → α → α) (n : ℕ)

theorem map_foldl_tally (start : Option (Reading α)) (vs : List (Reading α))
    (hstart : start = none ∨ (start = some ⟨0, 0⟩ ∧ vs ≠ [])) :
    (vs.foldl (tally add) start).map (fun v => ⟨scale n v.current, v.peak⟩) =
      average add scale n vs := by
  cases vs with
  | nil =>
    rcases hstart with rfl | ⟨-, hne⟩
    · rfl
    · exact absurd rfl hne
  | cons v vs =>
    -- a missing entry is started with zeros
    have hfirst : tally add start v = tally add (some ⟨0, 0⟩) v := by
      rcases hstart with rfl | ⟨rfl, -⟩ <;> rfl
    rw [foldl_cons, hfirst, ← foldl_cons, foldl_tally_some]
    rfl

theorem peak_average {vs : List (Reading α)} (hvs : ∀ v ∈ vs, v.Nonneg) :
    (average add scale n vs).map peak = (vs.map top).max? := by
  cases vs with
  | nil => rfl
  | cons v vs =>
    have hzero : max 0 v.top = v.top := max_eq_right (hvs v mem_cons_self).top_nonneg
    rw [average, Option.map_some, map_cons (f := top), List.max?_cons', foldl_cons,
      hzero]

theorem average_perm {add : α → α → α} (hadd : ∀ a b c, add (add a b) c = add (add a c) b)
    (scale : ℕ → α → α) (n : ℕ) {vs vs' : List (Reading α)} (hperm : vs.Perm vs') :
    average add scale n vs = average add scale n vs' := by
  have hsum : (vs.map current).foldl add 0 = (vs'.map current).foldl add 0 :=
    (hperm.map current).foldl_eq' (fun _ _ _ _ _ => hadd _ _ _) 0
  have hpeak : (vs.map top).foldl max 0 = (vs'.map top).foldl max 0 :=
    (hperm.map top).foldl_eq' (fun _ _ _ _ _ => max_right_comm _ _ _) 0
  cases vs with
  | nil => rw [hperm.nil_eq]
  | cons v vs =>
    cases vs' with
    | nil => exact absurd hperm.eq_nil (cons_ne_nil v vs)
    | cons v' vs' => rw [average, average, hsum, hpeak]

end Reading

/-! ## Peaks of a roll-up -/

section Peaks

variable {ρ α : Type*} [LinearOrder α] [Zero α]

/-- The largest current value or peak of the records that carry the reading. -/
def peakOf (view : ρ → Option (Reading α)) (records : List ρ) : Option α :=
  ((records.filterMap view).map Reading.top).max?

/-- A mean of values of at least zero lies between zero and every exact bound of the values, if the
    sum fits. -/
structure MeanLaw (add : α → α → α) (scale : ℕ → α → α) (Exact : α → Prop)
    (Fits : List α → Prop) : Prop where
  nonneg : ∀ (n : ℕ) (xs : List α), (∀ x ∈ xs, 0 ≤ x) → 0 ≤ scale n (xs.foldl add 0)
  le_bound : ∀ (n : ℕ) (xs : List α) (bound : α), 0 < n → xs.length ≤ n → (∀ x ∈ xs, 0 ≤ x) →
    Fits xs → Exact bound → 0 ≤ bound → (∀ x ∈ xs, x ≤ bound) →
    scale n (xs.foldl add 0) ≤ bound

/-- The current values of the reading fit into a sum. -/
def ReadingsFit (view : ρ → Option (Reading α)) (Fits : List α → Prop) (records : List ρ) :
    Prop :=
  Fits ((records.filterMap view).map Reading.current)

variable {average : List ρ → ρ} {view : ρ → Option (Reading α)} {add : α → α → α}
  {scale : ℕ → α → α} {Exact : α → Prop} {Fits : List α → Prop}

/-- The values are not negative, and the larger one is the peak of all leaves. -/
structure Tracked (view : ρ → Option (Reading α)) (record : ρ) (leaves : List ρ) : Prop where
  nonneg : ∀ v ∈ view record, v.Nonneg
  top_eq : (view record).map Reading.top = peakOf view leaves

theorem tracked_leaf {record : ρ} (hnonneg : ∀ v ∈ view record, v.Nonneg) :
    Tracked view record [record] where
  nonneg := hnonneg
  top_eq := by
    cases hview : view record <;> simp [peakOf, hview]

omit [Zero α] in
theorem exact_of_peakOf {leaves : List ρ} {m : α}
    (hexact : ∀ r ∈ leaves, ∀ v ∈ view r, Exact v.current ∧ Exact v.peak)
    (hm : peakOf view leaves = some m) : Exact m := by
  have hmem : m ∈ (leaves.filterMap view).map Reading.top := mem_of_max?_eq_some hm
  obtain ⟨v, hv, rfl⟩ := mem_map.mp hmem
  obtain ⟨r, hr, hview⟩ := mem_filterMap.mp hv
  have hvals := hexact r hr v hview
  rcases max_choice v.current v.peak with htop | htop
  · rw [Reading.top, htop]
    exact hvals.1
  · rw [Reading.top, htop]
    exact hvals.2

theorem peakOf_map {β : Type*} (record : β → ρ) (leaves : β → List ρ) {ts : List β}
    (hts : ∀ t ∈ ts, Tracked view (record t) (leaves t)) :
    peakOf view (ts.map record) = peakOf view (ts.flatMap leaves) := by
  have hchild : ((ts.map record).filterMap view).map Reading.top =
      ts.filterMap fun t => (((leaves t).filterMap view).map Reading.top).max? := by
    rw [filterMap_map, map_filterMap]
    apply filterMap_congr
    intro t ht
    exact (hts t ht).top_eq
  rw [peakOf, hchild, ← max?_flatMap, peakOf, filterMap_flatMap, map_flatMap]

variable (hmean : MeanLaw add scale Exact Fits)
include hmean

theorem current_average {n : ℕ} {vs : List (Reading α)}
    {v : Reading α} (hn : 0 < n) (hlen : vs.length ≤ n) (hnonneg : ∀ w ∈ vs, w.Nonneg)
    (hfits : Fits (vs.map Reading.current)) (hexact : Exact v.peak)
    (hv : Reading.average add scale n vs = some v) : 0 ≤ v.current ∧ v.current ≤ v.peak := by
  have hpeak : (vs.map Reading.top).max? = some v.peak := by
    rw [← Reading.peak_average add scale n hnonneg, hv, Option.map_some]
  have hzero : ∀ x ∈ vs.map Reading.current, 0 ≤ x := by
    intro x hx
    obtain ⟨w, hw, rfl⟩ := mem_map.mp hx
    exact (hnonneg w hw).1
  have hbound : ∀ x ∈ vs.map Reading.current, x ≤ v.peak := by
    intro x hx
    obtain ⟨w, hw, rfl⟩ := mem_map.mp hx
    have htop : w.top ≤ v.peak := le_of_max?_eq_some hpeak (mem_map_of_mem hw)
    exact (le_max_left w.current w.peak).trans htop
  cases vs with
  | nil => cases hv
  | cons w ws =>
    cases hv
    constructor
    · exact hmean.nonneg n _ hzero
    · apply hmean.le_bound n _ _ hn _ hzero hfits hexact _ hbound
      · rw [length_map]
        exact hlen
      · exact (hzero _ mem_cons_self).trans (hbound _ mem_cons_self)

variable (havg : ∀ records, records ≠ [] → view (average records) =
  Reading.average add scale records.length (records.filterMap view))
include havg

/-- The peak of the averaged records, and a current value that does not exceed it. -/
theorem average_reading {records : List ρ} (hne : records ≠ [])
    (hnonneg : ∀ r ∈ records, ∀ v ∈ view r, v.Nonneg)
    (hexact : ∀ m, peakOf view records = some m → Exact m) (hfits : ReadingsFit view Fits records) :
    (view (average records)).map Reading.peak = peakOf view records ∧
      ∀ v ∈ view (average records), 0 ≤ v.current ∧ v.current ≤ v.peak := by
  have hreadings : ∀ v ∈ records.filterMap view, v.Nonneg := by
    intro v hv
    obtain ⟨r, hr, hview⟩ := mem_filterMap.mp hv
    exact hnonneg r hr v hview
  have hpeak : (view (average records)).map Reading.peak = peakOf view records := by
    rw [havg records hne, Reading.peak_average add scale _ hreadings, peakOf]
  refine ⟨hpeak, ?_⟩
  intro v hv
  apply current_average hmean (length_pos_iff.mpr hne) (length_filterMap_le ..)
    hreadings hfits
  · apply hexact
    rw [← hpeak, hv, Option.map_some]
  · rw [← havg records hne]
    exact hv

variable (first : Rollup ρ) (rest : List (Rollup ρ))

/-- The peak of its leaves, and a current value that does not exceed it. -/
theorem node_reading
    (hexact : ∀ r ∈ (Rollup.node first rest).leaves, ∀ v ∈ view r, Exact v.current ∧ Exact v.peak)
    (hfits : (Rollup.node first rest).EveryNode average (ReadingsFit view Fits))
    (hchild : ∀ t ∈ first :: rest, Tracked view (t.eval average) t.leaves) :
    (view ((Rollup.node first rest).eval average)).map Reading.peak =
        peakOf view (Rollup.node first rest).leaves ∧
      ∀ v ∈ view ((Rollup.node first rest).eval average),
        0 ≤ v.current ∧ v.current ≤ v.peak := by
  have hpeaks := peakOf_map (Rollup.eval average) Rollup.leaves hchild
  rw [← Rollup.leaves_node] at hpeaks
  rw [Rollup.eval_node, ← hpeaks]
  apply average_reading hmean havg
  · exact cons_ne_nil _ _
  · intro r hr
    obtain ⟨t, ht, rfl⟩ := mem_map.mp hr
    exact (hchild t ht).nonneg
  · intro m hm
    -- the largest value at the node is the value of a leaf
    rw [hpeaks] at hm
    exact exact_of_peakOf hexact hm
  · exact ((Rollup.everyNode_node ..).mp hfits).1

/-- **A roll-up keeps track of the peak of its leaves**: induction over the tree, one average
    for each node. -/
theorem tracked_eval (t : Rollup ρ) (hnonneg : ∀ r ∈ t.leaves, ∀ v ∈ view r, v.Nonneg)
    (hexact : ∀ r ∈ t.leaves, ∀ v ∈ view r, Exact v.current ∧ Exact v.peak)
    (hfits : t.EveryNode average (ReadingsFit view Fits)) :
    Tracked view (t.eval average) t.leaves := by
  induction t using Rollup.induction with
  | leaf record =>
    apply tracked_leaf
    exact hnonneg record mem_cons_self
  | node first rest ih =>
    have hchild : ∀ t ∈ first :: rest, Tracked view (t.eval average) t.leaves := by
      intro t ht
      apply ih t ht
      · exact fun r hr => hnonneg r (Rollup.mem_leaves_node ht hr)
      · exact fun r hr => hexact r (Rollup.mem_leaves_node ht hr)
      · exact ((Rollup.everyNode_node ..).mp hfits).2 t ht
    have hreading := node_reading hmean havg first rest hexact hfits hchild
    constructor
    · intro v hv
      have hv' := hreading.2 v hv
      exact ⟨hv'.1, hv'.1.trans hv'.2⟩
    · rw [← hreading.1]
      apply Option.map_congr
      intro v hv
      exact max_eq_right (hreading.2 v hv).2

/-- **The peak of an average is the peak of all leaves below it.** -/
theorem peak_eval_node (hnonneg : ∀ r ∈ (Rollup.node first rest).leaves, ∀ v ∈ view r, v.Nonneg)
    (hexact : ∀ r ∈ (Rollup.node first rest).leaves, ∀ v ∈ view r, Exact v.current ∧ Exact v.peak)
    (hfits : (Rollup.node first rest).EveryNode average (ReadingsFit view Fits)) :
    (view ((Rollup.node first rest).eval average)).map Reading.peak =
      peakOf view (Rollup.node first rest).leaves := by
  have hchild : ∀ t ∈ first :: rest, Tracked view (t.eval average) t.leaves := by
    intro t ht
    apply tracked_eval hmean havg
    · exact fun r hr => hnonneg r (Rollup.mem_leaves_node ht hr)
    · exact fun r hr => hexact r (Rollup.mem_leaves_node ht hr)
    · exact ((Rollup.everyNode_node ..).mp hfits).2 t ht
  exact (node_reading hmean havg first rest hexact hfits hchild).1

end Peaks

end Bantay.Lib
