import Bantay.Lib.GoMap

/-!
# Records as Maps of Encoded Fields

A codec writes a value as bytes and reads it back.  A record is written as a map from the keys of
its fields to their bytes.  A field can leave out some of its values, and a field that is not in
the map is read as a value of its own.

- `Item.codec` — codecs of values that are written one after the other
- `Field.read_write`, `Field.read_write_of_ne` — what a field reads after a write
-/

namespace Bantay.Lib

variable {α β : Type*}

/-! ## Codecs -/

/-- How values are written and read back. -/
structure Codec (α : Type*) where
  encode : α → List UInt8
  decode : List UInt8 → Except String α
  decode_encode : ∀ a, decode (encode a) = .ok a

namespace Codec

def raw : Codec (List UInt8) where
  encode bytes := bytes
  decode := .ok
  decode_encode _ := rfl

/-- The two simple values of booleans. -/
def bool : Codec Bool where
  encode b := [if b then 0xF5 else 0xF4]
  decode bytes :=
    if bytes = [0xF5] then .ok true
    else if bytes = [0xF4] then .ok false
    else .error "cbor: cannot unmarshal into Go value of type bool"
  decode_encode b := by cases b <;> rfl

end Codec

/-! ## Values one after the other -/

/-- A value that is read from the front of some bytes. -/
structure Item (α : Type*) where
  write : α → List UInt8
  read : List UInt8 → Option (α × List UInt8)
  read_write : ∀ a rest, read (write a ++ rest) = some (a, rest)

namespace Item

/-- The bytes of a single value. -/
def codec (c : Item α) : Codec α where
  encode := c.write
  decode bytes :=
    match c.read bytes with
    | some (a, []) => .ok a
    | _ => .error "cbor: unexpected data"
  decode_encode a := by
    have h := c.read_write a []
    rw [List.append_nil] at h
    rw [h]

/-- A value that is written as another one. -/
def via (c : Item β) (f : α → β) (g : β → Option α) (h : ∀ a, g (f a) = some a) : Item α where
  write a := c.write (f a)
  read bytes := (c.read bytes).bind fun b => (g b.1).map (·, b.2)
  read_write a rest := by simp [c.read_write, h]

def readNat : List UInt8 → Option (ℕ × List UInt8)
  | [] => none
  | byte :: rest => if byte = 0 then some (0, rest) else (readNat rest).map fun n => (n.1 + 1, n.2)

/-- A number is written as so many bytes before a zero. -/
def nat : Item ℕ where
  write n := List.replicate n 1 ++ [0]
  read := readNat
  read_write n rest := by
    induction n with
    | zero => rfl
    | succ n ih =>
      rw [List.replicate_succ, List.cons_append, List.cons_append, readNat, ih]
      rfl

def pair (c : Item α) (d : Item β) : Item (α × β) where
  write p := c.write p.1 ++ d.write p.2
  read bytes := (c.read bytes).bind fun a => (d.read a.2).map fun b => ((a.1, b.1), b.2)
  read_write p rest := by simp [c.read_write, d.read_write]

def readMany (c : Item α) : ℕ → List UInt8 → Option (List α × List UInt8)
  | 0, bytes => some ([], bytes)
  | n + 1, bytes =>
    (c.read bytes).bind fun a => (c.readMany n a.2).map fun as => (a.1 :: as.1, as.2)

/-- A list is written with its length before it. -/
def list (c : Item α) : Item (List α) where
  write as := nat.write as.length ++ as.flatMap c.write
  read bytes := (nat.read bytes).bind fun n => c.readMany n.1 n.2
  read_write as rest := by
    rw [List.append_assoc, nat.read_write, Option.bind_some]
    induction as with
    | nil => rfl
    | cons a as ih => simp [readMany, c.read_write, ih]

def string : Item String :=
  (nat.via Char.toNat (fun n => some (Char.ofNat n)) (by simp)).list.via String.toList
    (fun cs => some (String.ofList cs)) (by simp)

def map {κ β : Type*} [DecidableEq κ] (c : Item κ) (d : Item β) : Item (GoMap κ β) :=
  ((c.pair d).via (fun e : (_ : κ) × β => (e.1, e.2)) (fun p => some ⟨p.1, p.2⟩) (by simp)).list.via
    AList.entries (fun entries => if h : entries.keys.Nodup then some ⟨entries, h⟩ else none)
    (fun m => dif_pos m.nodupKeys)

end Item

/-! ## Fields -/

/-- The encoded fields of a record. -/
abbrev WireMap := GoMap ℕ (List UInt8)

def Codec.record {α : Type} (wire : Codec WireMap) (toWire : α → WireMap)
    (fromWire : WireMap → Except String α) (h : ∀ a, fromWire (toWire a) = .ok a) : Codec α where
  encode a := wire.encode (toWire a)
  decode bytes := wire.decode bytes >>= fromWire
  decode_encode a := by
    rw [wire.decode_encode]
    exact h a

/-- A value is written under its key or left out, and read from what there is. -/
structure Field (key : ℕ) (α : Type*) where
  encode : α → Option (List UInt8)
  decode : Option (List UInt8) → Except String α

namespace Field

variable {key key' : ℕ}

def write (f : Field key α) (a : α) (m : WireMap) : WireMap :=
  (f.encode a).elim (m.erase key) (m.insert key)

def read (f : Field key α) (m : WireMap) : Except String α := f.decode (m.lookup key)

variable {f : Field key α} {m : WireMap} {empty : α → Bool} {zero : α}

/-- A field reads back what it makes of the value that it has written. -/
@[simp]
theorem read_write {a : α} :
    f.read (f.write a m) = f.decode (f.encode a) := by
  unfold read write
  -- a value that is left out erases what the field had
  cases f.encode a with
  | none => exact congrArg f.decode (AList.lookup_erase key m)
  | some bytes => exact congrArg f.decode (AList.lookup_insert m)

/-- Fields with different keys do not meet. -/
@[simp]
theorem read_write_of_ne {g : Field key' β} {b : β} (h : key ≠ key') :
    f.read (g.write b m) = f.read m := by
  unfold read write
  cases g.encode b with
  | none => exact congrArg f.decode (AList.lookup_erase_ne h)
  | some bytes => exact congrArg f.decode (AList.lookup_insert_ne h)

/-! ## Kinds of fields -/

def omitted (key : ℕ) (codec : Codec α) (empty : α → Bool) (zero : α) : Field key α where
  encode a := if empty a then none else some (codec.encode a)
  decode
    | none => .ok zero
    | some bytes => codec.decode bytes

variable {codec : Codec α}

theorem decode_encode_omitted (a : α) :
    (omitted key codec empty zero).decode ((omitted key codec empty zero).encode a) =
      .ok (if empty a then zero else a) := by
  unfold omitted
  dsimp only
  cases empty a with
  | true => rfl
  | false => exact codec.decode_encode a

/-- A field without an option to leave it out. -/
def plain (key : ℕ) (codec : Codec α) (zero : α) : Field key α :=
  omitted key codec (fun _ => false) zero

/-- A list that is left out if it is empty. -/
def list (key : ℕ) (codec : Codec (List α)) : Field key (List α) :=
  omitted key codec List.isEmpty []

/-- A string that is left out if it is empty. -/
def text (key : ℕ) (codec : Codec String) : Field key String :=
  omitted key codec (fun s => s = "") ""

@[simp]
theorem decode_encode_plain (a : α) :
    (plain key codec zero).decode ((plain key codec zero).encode a) = .ok a :=
  decode_encode_omitted a

@[simp]
theorem decode_encode_list {codec : Codec (List α)} (as : List α) :
    (list key codec).decode ((list key codec).encode as) = .ok as := by
  refine (decode_encode_omitted as).trans ?_
  cases as <;> rfl

@[simp]
theorem decode_encode_text {codec : Codec String} (s : String) :
    (text key codec).decode ((text key codec).encode s) = .ok s := by
  refine (decode_encode_omitted s).trans ?_
  by_cases hs : s = "" <;> simp [hs]

/-- A field that can be nil; nil and empty values are left out. -/
def nilable (key : ℕ) (codec : Codec α) (empty : α → Bool) : Field key (Option α) where
  encode a := (a.filter fun value => !empty value).map codec.encode
  decode
    | none => .ok none
    | some bytes => (codec.decode bytes).map some

/-- Empty values are read back as nil. -/
@[simp]
theorem decode_encode_nilable (a : Option α) :
    (nilable key codec empty).decode ((nilable key codec empty).encode a) =
      .ok (a.filter fun value => !empty value) := by
  unfold nilable
  dsimp only
  cases a.filter fun value => !empty value with
  | none => rfl
  | some value =>
    dsimp only [Option.map_some]
    rw [codec.decode_encode]
    rfl

/-- A pointer that is left out if it is nil. -/
def pointer (key : ℕ) (codec : Codec α) : Field key (Option α) :=
  nilable key codec fun _ => false

@[simp]
theorem decode_encode_pointer (a : Option α) :
    (pointer key codec).decode ((pointer key codec).encode a) = .ok a := by
  refine (decode_encode_nilable a).trans ?_
  cases a <;> rfl

end Field

end Bantay.Lib
