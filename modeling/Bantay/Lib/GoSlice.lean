import Mathlib.Data.List.Basic

/-!
# Slices Decoded in Place

A slice of Go is a window into an array that may be longer.  `encoding/json` decodes a list into an
existing slice element by element, and only beyond the end of the array into new elements; a field
that the document leaves out keeps the value the old element had.  The CBOR decoder does the same
with an array that is large enough, and makes a new one otherwise.

- `Slice.getElem?_decode` — what one element of the result is
- `Slice.decodeBy_elems_eq_iff` — when nothing of the old array shows in the result
-/

namespace Bantay.Lib

/-- A slice with the elements that its array still has beyond its length. -/
structure Slice (α : Type*) where
  elems : List α
  spare : List α

namespace Slice

variable {α β : Type*}

def nil : Slice α := ⟨[], []⟩

def cells (s : Slice α) : List α := s.elems ++ s.spare

/-- `s[:0]`: the length is zero, the array stays. -/
def truncate (s : Slice α) : Slice α := ⟨[], s.cells⟩

def set (s : Slice α) (i : ℕ) (a : α) : Slice α := { s with elems := s.elems.set i a }

/-- Documents are decoded into the elements of the array in order, and into new elements at
    its end. -/
def decodeCells (into : β → α → α) (zero : α) : List β → List α → List α
  | [], _ => []
  | doc :: docs, [] => into doc zero :: decodeCells into zero docs []
  | doc :: docs, a :: old => into doc a :: decodeCells into zero docs old

def decode (into : β → α → α) (zero : α) (docs : List β) (s : Slice α) : Slice α :=
  match docs with
  | [] => nil
  | docs => ⟨decodeCells into zero docs s.cells, s.cells.drop docs.length⟩

/-- What a decoder does with an array that is too small. -/
inductive Decoder where
  /-- a new array of the length of the list -/
  | cbor
  /-- a larger array with the old elements and `room` empty ones behind the list -/
  | json (room : ℕ)

/-- The slice whose array a list of `count` documents is decoded into. -/
def base (decoder : Decoder) (count : ℕ) (s : Slice α) : Slice α :=
  match decoder with
  | .cbor => if s.cells.length < count then nil else s
  | .json _ => s

def decodeBy (decoder : Decoder) (into : β → α → α) (zero : α) (docs : List β) (s : Slice α) :
    Slice α where
  elems := (decode into zero docs (s.base decoder docs.length)).elems
  spare :=
    match decoder with
    | .cbor => (decode into zero docs (s.base .cbor docs.length)).spare
    | .json room =>
      if s.cells.length < docs.length then List.replicate room zero
      else (decode into zero docs s).spare

variable (into : β → α → α) (zero : α) (docs : List β)

theorem getElem?_decodeCells (old : List α) (i : ℕ) :
    (decodeCells into zero docs old)[i]? =
      docs[i]?.map fun doc => into doc (old.getD i zero) := by
  -- The recursion consumes a document and, while there is one, an old element.
  induction docs generalizing old i with
  | nil => simp [decodeCells]
  | cons doc docs ih =>
    cases old with
    | nil =>
      cases i with
      | zero => simp [decodeCells]
      | succ i => simpa [decodeCells] using ih [] i
    | cons a old =>
      cases i with
      | zero => simp [decodeCells]
      | succ i => simpa [decodeCells] using ih old i

/-- Element `i` of the result is document `i`, decoded into what the array had at `i`. -/
theorem getElem?_decode (s : Slice α) (i : ℕ) :
    (decode into zero docs s).elems[i]? =
      docs[i]?.map fun doc => into doc (s.cells.getD i zero) := by
  cases docs with
  | nil => simp [decode, nil]
  | cons doc docs => exact getElem?_decodeCells into zero (doc :: docs) s.cells i

theorem decode_elems_eq_map {into : β → α → α} {zero : α} {docs : List β} {s : Slice α}
    (hfresh : ∀ q ∈ docs.zip s.cells, into q.1 q.2 = into q.1 zero) :
    (decode into zero docs s).elems = docs.map fun doc => into doc zero := by
  refine List.ext_getElem? fun i => ?_
  rw [getElem?_decode, List.getElem?_map]
  cases hdoc : docs[i]? with
  | none => rfl
  | some doc =>
    simp only [Option.map_some, Option.some.injEq, List.getD_eq_getElem?_getD]
    cases hold : s.cells[i]? with
    | none => rfl
    | some a =>
      have hmem : (doc, a) ∈ docs.zip s.cells := by
        refine List.mem_of_getElem? (i := i) ?_
        rw [List.getElem?_zip_eq_some]
        exact ⟨hdoc, hold⟩
      exact hfresh (doc, a) hmem

/-- **The slice is the list** that was decoded exactly if no element shows anything of the one it
    was decoded into. -/
theorem decodeBy_elems_eq_iff {into : α → α → α} {zero : α} {decoder : Decoder} {docs : List α}
    {s : Slice α} (hzero : ∀ doc, into doc zero = doc) :
    (s.decodeBy decoder into zero docs).elems = docs ↔
      ∀ q ∈ docs.zip (s.base decoder docs.length).cells, into q.1 q.2 = q.1 := by
  constructor
  · intro h q hq
    obtain ⟨i, hi⟩ := List.mem_iff_getElem?.mp hq
    obtain ⟨hdoc, hold⟩ := List.getElem?_zip_eq_some.mp hi
    have helem := getElem?_decode into zero docs (s.base decoder docs.length) i
    rw [show (decode into zero docs (s.base decoder docs.length)).elems = docs from h, hdoc,
      List.getD_eq_getElem?_getD, hold] at helem
    exact (Option.some.inj helem).symm
  · intro h
    refine (decode_elems_eq_map fun q hq => ?_).trans ?_
    · rw [h q hq, hzero]
    · simp only [hzero, List.map_id']

theorem decode_nil :
    decode into zero docs nil = ⟨docs.map fun doc => into doc zero, []⟩ := by
  have helems : (decode into zero docs nil).elems = docs.map fun doc => into doc zero :=
    decode_elems_eq_map (by simp [cells, nil])
  have hspare : (decode into zero docs nil).spare = [] := by
    cases docs with
    | nil => rfl
    | cons doc docs => simp [decode, cells, nil]
  calc decode into zero docs nil
      = ⟨(decode into zero docs nil).elems, (decode into zero docs nil).spare⟩ := rfl
    _ = ⟨docs.map fun doc => into doc zero, []⟩ := by rw [helems, hspare]

end Slice

end Bantay.Lib
