import Mathlib.Data.Fintype.Basic
import Bantay.Lib.GoSlice

/-!
# The Data of a System

Every fetch of a system writes into the one `CombinedData` of its `System` object.  The data is
given by its fields: those of the nested structs, with their paths, and the keys of maps, whose
values a decoder writes whole.  A payload leaves out fields that are empty, and what it leaves out
stays when it is unmarshalled into data that is there.

A list of structs (`Containers`, `SystemdServices`) is decoded element by element into the array
that its slice has, so that the fields of an element stay too, also those of elements behind the
end of a list that has become shorter.  An agent sends no null elements; a null list is an empty
one.
-/

namespace Bantay.Systems

open Bantay.Lib

variable {φ ν : Type}

/-- The fields of a struct that are not empty. -/
abbrev Fields (φ ν : Type) := φ → Option ν

namespace Fields

def empty : Fields φ ν := fun _ => none

/-- A struct is decoded into one that is there: fields that the message leaves out stay. -/
def into (message old : Fields φ ν) : Fields φ ν := fun field => (message field).or (old field)

/-- The message has every field that is there. -/
def Covers (message old : Fields φ ν) : Prop := ∀ field, message field = none → old field = none

instance [Fintype φ] (message old : Fields φ ν) : Decidable (message.Covers old) :=
  inferInstanceAs (Decidable (∀ _, _ → _))

@[simp]
theorem into_empty (message : Fields φ ν) : message.into .empty = message :=
  funext fun _ => Option.or_none

theorem into_eq_iff {message old : Fields φ ν} :
    message.into old = message ↔ message.Covers old := by
  constructor
  · intro h field hfield
    have hleft := congrFun h field
    rw [into, hfield] at hleft
    exact hleft
  · intro h
    funext field
    unfold into
    cases hfield : message field with
    | none => exact h field hfield
    | some value => rfl

end Fields

/-- What an agent sends. -/
structure Payload (φ ν : Type) where
  fields : Fields φ ν
  /-- the lists of structs; `none` if the list is left out -/
  lists : φ → Option (List (Fields φ ν))
  /-- agents before `MinVersionCbor` send JSON -/
  decoder : Slice.Decoder := .cbor

def Payload.empty : Payload φ ν := ⟨.empty, fun _ => none, .cbor⟩

/-- `system.CombinedData` -/
structure Data (φ ν : Type) where
  fields : Fields φ ν
  lists : φ → Slice (Fields φ ν)

namespace Data

def empty : Data φ ν := ⟨.empty, fun _ => .nil⟩

/-- A payload that was decoded into an empty struct. -/
def ofPayload (payload : Payload φ ν) : Data φ ν where
  fields := payload.fields
  lists field := ⟨(payload.lists field).getD [], []⟩

/-- `json.Decoder.Decode` differs in the room it makes for lists. -/
def unmarshal (old : Data φ ν) (message : Payload φ ν) : Data φ ν where
  fields := message.fields.into old.fields
  lists field :=
    match message.lists field with
    | none => old.lists field
    | some elems => (old.lists field).decodeBy message.decoder Fields.into .empty elems

/-- A reader of the data finds the payload and nothing else. -/
def Holds (data : Data φ ν) (payload : Payload φ ν) : Prop :=
  data.fields = payload.fields ∧
    ∀ field, (data.lists field).elems = (payload.lists field).getD []

end Data

/-- The list is there if the slice has elements, and its elements have every field of those at
    their places. -/
def ListCovers (decoder : Slice.Decoder) (old : Slice (Fields φ ν)) :
    Option (List (Fields φ ν)) → Prop
  | none => old.elems = []
  | some elems => ∀ q ∈ elems.zip (old.base decoder elems.length).cells, q.1.Covers q.2

instance [Fintype φ] (decoder : Slice.Decoder) (old : Slice (Fields φ ν))
    (list : Option (List (Fields φ ν))) : Decidable (ListCovers decoder old list) :=
  match list with
  | none => inferInstanceAs (Decidable (old.elems = []))
  | some elems => inferInstanceAs (Decidable (∀ q ∈ elems.zip
      (old.base decoder elems.length).cells, q.1.Covers q.2))

def Payload.Covers (message : Payload φ ν) (old : Data φ ν) : Prop :=
  message.fields.Covers old.fields ∧
    ∀ field, ListCovers message.decoder (old.lists field) (message.lists field)

instance [Fintype φ] (message : Payload φ ν) (old : Data φ ν) : Decidable (message.Covers old) :=
  inferInstanceAs (Decidable (_ ∧ ∀ _, _))

namespace Data

variable {old : Data φ ν} {message : Payload φ ν}

theorem holds_ofPayload : (ofPayload message).Holds message := ⟨rfl, fun _ => rfl⟩

theorem holds_empty : (empty : Data φ ν).Holds .empty := ⟨rfl, fun _ => rfl⟩

/-- **Unmarshalled data is the message** exactly if the message leaves out nothing that is there. -/
theorem holds_unmarshal_iff : (old.unmarshal message).Holds message ↔ message.Covers old := by
  refine and_congr Fields.into_eq_iff (forall_congr' fun field => ?_)
  unfold unmarshal
  dsimp only
  cases message.lists field with
  | none => exact Iff.rfl
  | some elems =>
    refine (Slice.decodeBy_elems_eq_iff Fields.into_empty).trans ?_
    exact forall₂_congr fun q _ => Fields.into_eq_iff

theorem covers_empty : message.Covers .empty := by
  refine ⟨fun _ _ => rfl, fun field => ?_⟩
  cases message.lists field with
  | none => rfl
  | some elems =>
    -- there is no array to decode into
    have hbase : (Slice.nil : Slice (Fields φ ν)).base message.decoder elems.length = .nil := by
      cases message.decoder <;> simp [Slice.base]
    intro q hq
    rw [show empty.lists field = .nil from rfl, hbase] at hq
    simp [Slice.cells, Slice.nil] at hq

end Data

end Bantay.Systems
