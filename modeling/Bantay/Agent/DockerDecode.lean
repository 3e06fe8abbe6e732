import Bantay.Agent.DockerStats
import Bantay.Lib.JsonScanner
import Bantay.Lib.Mealy

/-!
# Decoding the Responses of the Docker API

The manager reads the body of every response into one buffer, has one `json.Decoder` on it, and
resets the buffer after each response.  The decoder does not know about the reset.  What it has
read of a body beyond the first value comes before the next body, and an error that it has met
once is returned for all bodies after it.

`Complete` bodies leave nothing: those that are one JSON text, and those that cannot be read to
their end, which the decoder never sees.
-/

namespace Bantay.Agent.Docker

open Bantay.Lib

/-- A response and what it is decoded into. -/
structure Response (τ : Type) where
  target : τ
  body : List UInt8
  /-- The body cannot be read to its end. -/
  unreadable : Bool

/-- The errors of `decode`, those of the types of the target apart. -/
inductive DecodeError where
  | unreadable
  | decoder (e : ReadError Json.SyntaxError)
deriving DecidableEq

/-- `dm.decoder`, which is created with the first response. -/
abbrev JsonDecoder := Option (StreamDecoder Json.SyntaxError)

section Decode

variable {τ ρ : Type} (unmarshal : τ → List UInt8 → ρ)

/-- What the decoder has not read of the buffer is dropped by the reset.  `unmarshal` is given the
    value after the space before it. -/
def decodeResponse (decoder : JsonDecoder) (response : Response τ) :
    JsonDecoder × Except DecodeError ρ :=
  let decoder := decoder.getD StreamDecoder.new
  if response.unreadable then (some decoder, .error .unreadable)
  else
    let read := decoder.next Json.framer response.body
    (some read.decoder,
      match read.value with
      | .ok value => .ok (unmarshal response.target (Json.framer.trim value))
      | .error e => .error (.decoder e))

/-- What a body is decoded to by itself. -/
def decodeAlone (response : Response τ) : Except DecodeError ρ :=
  if response.unreadable then .error .unreadable
  else
    match Json.framer.first response.body with
    | .ok (value, _) => .ok (unmarshal response.target (Json.framer.trim value))
    | .error e => .error (.decoder e)

/-- The body is one JSON text, or the decoder does not see it. -/
def Response.Complete (response : Response τ) : Prop :=
  response.unreadable = true ∨ Json.valid response.body = true
deriving Decidable

/-- Nothing of earlier bodies is left. -/
def Fresh (decoder : JsonDecoder) : Prop :=
  (decoder.getD StreamDecoder.new).Clean Json.framer

variable {unmarshal}

theorem fresh_none : Fresh none := StreamDecoder.clean_new Json.framer

theorem Fresh.decode {decoder : JsonDecoder} (h : Fresh decoder) (response : Response τ) :
    (decodeResponse unmarshal decoder response).2 = decodeAlone unmarshal response := by
  unfold decodeResponse decodeAlone
  dsimp only
  split
  case isTrue => rfl
  case isFalse =>
    have hval := h.next_value Json.framer_skipsSpace response.body
    cases hread : ((decoder.getD StreamDecoder.new).next Json.framer response.body).value with
    | ok value =>
      cases hfirst : Json.framer.first response.body with rw [hread, hfirst] at hval
      | ok q =>
        have htrim : Json.framer.trim value = Json.framer.trim q.1 := Except.ok.inj hval
        simp only [htrim]
      | error e =>
        exact nomatch hval
    | error e =>
      cases hfirst : Json.framer.first response.body with rw [hread, hfirst] at hval
      | ok q =>
        exact nomatch hval
      | error e' =>
        simp only [Except.error.inj hval]

theorem Fresh.after_complete {decoder : JsonDecoder} (h : Fresh decoder) {response : Response τ}
    (hcomplete : response.Complete) : Fresh (decodeResponse unmarshal decoder response).1 := by
  unfold decodeResponse
  split
  case isTrue => exact h
  case isFalse hreadable =>
    have hvalid : Json.valid response.body = true := hcomplete.resolve_left hreadable
    obtain ⟨value, rest, hfirst, hrest⟩ := Json.first_of_valid hvalid
    exact StreamDecoder.Clean.next h Json.framer_skipsSpace hfirst hrest

/-- **Bodies by themselves**: after complete bodies, every body is decoded as by a new manager. -/
theorem bodies_decoded_alone (unmarshal : τ → List UInt8 → ρ) {responses : List (Response τ)}
    (hcomplete : ∀ response ∈ responses.dropLast, response.Complete) :
    outputs (decodeResponse unmarshal) none responses =
      responses.map fun response => (decodeResponse unmarshal none response).2 := by
  have hrun : ∀ decoder, Fresh decoder →
      outputs (decodeResponse unmarshal) decoder responses =
        responses.map (decodeAlone unmarshal) := by
    induction responses with
    | nil => exact fun _ _ => rfl
    | cons response responses ih =>
      intro decoder hfresh
      rw [outputs, List.map_cons, hfresh.decode]
      cases responses with
      | nil => rfl
      -- a response that is followed by another one is complete
      | cons next rest =>
        have hfirst : response.Complete := hcomplete response (by simp)
        rw [ih (fun r hr => hcomplete r (by simp [hr])) _ (hfresh.after_complete hfirst)]
  have halone : (fun response => (decodeResponse unmarshal none response).2) =
      decodeAlone unmarshal := funext fun response => fresh_none.decode response
  rw [hrun none fresh_none, halone]

end Decode

/-! ## Bodies that are not complete -/

def asciiBytes (text : String) : List UInt8 := text.toList.map Json.byte

def sampleResponse (text : String) : Response Unit := ⟨(), asciiBytes text, false⟩

theorem sample_bodies_decoded_alone :
    outputs (decodeResponse fun _ value => value) none
        (["[] \n", " [\"a\", 1]\n", "12", "["].map sampleResponse) =
      (["[] \n", " [\"a\", 1]\n", "12", "["].map sampleResponse).map fun response =>
        (decodeResponse (fun _ value => value) none response).2 :=
  bodies_decoded_alone _ (by decide +kernel)

/-- After a malformed, a truncated and an empty body, the well-formed body `[]` fails; after an
    over-long one it is decoded to the end of that body. -/
theorem body_depends_on_earlier :
    (decodeResponse (fun _ value => value) none (sampleResponse "[]")).2 =
        .ok (asciiBytes "[]") ∧
      (outputs (decodeResponse fun _ value => value) none
        (["nope", "[]"].map sampleResponse)).getLast? =
          some (.error (.decoder (.syntaxError ⟨Json.byte 'o',
            "in literal null (expecting 'u')"⟩))) ∧
      (outputs (decodeResponse fun _ value => value) none
        (["[1,", "[]"].map sampleResponse)).getLast? =
          some (.error (.decoder .unexpectedEof)) ∧
      (outputs (decodeResponse fun _ value => value) none
        (["", "[]"].map sampleResponse)).getLast? = some (.error (.decoder .eof)) ∧
      (outputs (decodeResponse fun _ value => value) none
        (["[1][2]", "[]"].map sampleResponse)).getLast? = some (.ok (asciiBytes "[2]")) := by
  decide +kernel

end Bantay.Agent.Docker
