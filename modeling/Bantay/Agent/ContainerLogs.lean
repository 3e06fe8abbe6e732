import Mathlib.Algebra.BigOperators.Group.List.Basic
import Mathlib.Algebra.Ring.Nat
import Mathlib.Data.Nat.Find

/-!
# Container Logs

A model of `decodeDockerLogStream` in `agent/docker.go`.  Docker multiplexes the output streams of
a container: the payload of a frame follows a header of eight bytes, the last four of which are its
length.  The decoder bounds the length of a frame and that of its output.
-/

namespace Bantay.Agent.Logs

open List

def maxLogFrameSize : ℕ := 1024 * 1024

def maxTotalLogSize : ℕ := 5 * 1024 * 1024

/-- The error for a frame that is too large, with its length. -/
inductive LogError
  | frameTooLarge (frameLen : ℕ)

def bigEndian (b₀ b₁ b₂ b₃ : UInt8) : ℕ :=
  ((b₀.toNat * 256 + b₁.toNat) * 256 + b₂.toNat) * 256 + b₃.toNat

def detectDockerMultiplexedStream : List UInt8 → Bool
  | h₀ :: h₁ :: h₂ :: h₃ :: h₄ :: h₅ :: h₆ :: h₇ :: _ =>
    (h₀ = 1 ∨ h₀ = 2) ∧ h₁ = 0 ∧ h₂ = 0 ∧ h₃ = 0 ∧ bigEndian h₄ h₅ h₆ h₇ ≤ maxLogFrameSize
  | _ => false

/-- The loop over the frames.  A reader that ends within a header or a payload ends it without an
    error. -/
def decodeFrames (totalBytesRead : ℕ) : List UInt8 → List UInt8 × Option LogError
  | _ :: _ :: _ :: _ :: h₄ :: h₅ :: h₆ :: h₇ :: reader =>
    let frameLen := bigEndian h₄ h₅ h₆ h₇
    if frameLen = 0 then decodeFrames totalBytesRead reader
    else if maxLogFrameSize < frameLen then ([], some (.frameTooLarge frameLen))
    else if maxTotalLogSize < totalBytesRead + frameLen then ([], none)
    else if reader.length < frameLen then (reader, none)
    else
      let (rest, err) := decodeFrames (totalBytesRead + frameLen) (reader.drop frameLen)
      (reader.take frameLen ++ rest, err)
  | _ => ([], none)
termination_by reader => reader.length
decreasing_by
  all_goals simp only [List.length_cons, List.length_drop]; omega

def decodeDockerLogStream (reader : List UInt8) (multiplexed : Bool) :
    List UInt8 × Option LogError :=
  if !multiplexed then (reader.take maxTotalLogSize, none) else decodeFrames 0 reader

/-! ## Frames -/

/-- A frame of one of the two output streams. -/
structure LogFrame where
  stream : UInt8
  payload : List UInt8
  stream_eq : stream = 1 ∨ stream = 2
  length_le : payload.length ≤ maxLogFrameSize

def LogFrame.encode (frame : LogFrame) : List UInt8 :=
  let byte (i : ℕ) : UInt8 := UInt8.ofNat (frame.payload.length / 2 ^ i)
  [frame.stream, 0, 0, 0, byte 24, byte 16, byte 8, byte 0] ++ frame.payload

variable (frame : LogFrame)

theorem bigEndian_length :
    bigEndian (UInt8.ofNat (frame.payload.length / 2 ^ 24))
      (UInt8.ofNat (frame.payload.length / 2 ^ 16)) (UInt8.ofNat (frame.payload.length / 2 ^ 8))
      (UInt8.ofNat (frame.payload.length / 2 ^ 0)) = frame.payload.length := by
  have hle := frame.length_le
  rw [maxLogFrameSize] at hle
  simp only [bigEndian, UInt8.toNat_ofNat']
  omega

theorem detect_encode (reader : List UInt8) :
    detectDockerMultiplexedStream (frame.encode ++ reader) = true := by
  have hlen := bigEndian_length frame
  simp only [LogFrame.encode, cons_append, nil_append, detectDockerMultiplexedStream,
    hlen]
  simpa using ⟨frame.stream_eq, frame.length_le⟩

variable (totalBytesRead : ℕ)

theorem decodeFrames_encode (reader : List UInt8) :
    decodeFrames totalBytesRead (frame.encode ++ reader) =
      if maxTotalLogSize < totalBytesRead + frame.payload.length ∧ frame.payload ≠ [] then
        ([], none)
      else
        let (rest, err) := decodeFrames (totalBytesRead + frame.payload.length) reader
        (frame.payload ++ rest, err) := by
  have hlen := bigEndian_length frame
  have hle := Nat.not_lt.mpr frame.length_le
  rw [LogFrame.encode, append_assoc]
  simp only [cons_append, nil_append]
  rw [decodeFrames]
  simp only [hlen, hle, if_false]
  by_cases hempty : frame.payload = []
  · simp [hempty]
  · have hpos : frame.payload.length ≠ 0 := by simpa using hempty
    have hlong : ¬ frame.payload.length + reader.length < frame.payload.length := by omega
    simp [hpos, hempty, hlong]

/-! ## The longest prefix -/

/-- The number of the first sizes whose sum is within the limit. -/
def fitting (limit : ℕ) (sizes : List ℕ) : ℕ :=
  Nat.findGreatest (fun n => (sizes.take n).sum ≤ limit) sizes.length

variable (sizes : List ℕ)

theorem fitting_cons_of_le {limit size : ℕ} (h : size ≤ limit) :
    fitting limit (size :: sizes) = fitting (limit - size) sizes + 1 := by
  obtain ⟨hle, hsum, hmax⟩ := Nat.findGreatest_eq_iff.mp
    (rfl : fitting (limit - size) sizes = fitting (limit - size) sizes)
  refine Nat.findGreatest_eq_iff.mpr ⟨Nat.succ_le_succ hle, fun _ => ?_, ?_⟩
  · rw [take_succ_cons, sum_cons]
    rcases Nat.eq_zero_or_pos (fitting (limit - size) sizes) with hzero | hpos
    · simpa [hzero] using h
    · have := hsum hpos.ne'
      omega
  · rintro (_ | n) hlt hn
    · exact absurd hlt (Nat.not_lt_zero _)
    · have := hmax (Nat.lt_of_succ_lt_succ hlt) (Nat.le_of_succ_le_succ hn)
      rw [take_succ_cons, sum_cons]
      omega

theorem fitting_cons_of_lt {limit size : ℕ} (h : limit < size) :
    fitting limit (size :: sizes) = 0 := by
  rw [fitting, Nat.findGreatest_eq_zero_iff]
  rintro (_ | n) hpos _
  · exact absurd hpos (Nat.lt_irrefl 0)
  · rw [take_succ_cons, sum_cons]
    omega

theorem decodeFrames_flatMap {totalBytesRead : ℕ} (frames : List LogFrame)
    (htot : totalBytesRead ≤ maxTotalLogSize) :
    decodeFrames totalBytesRead (frames.flatMap LogFrame.encode) =
      (((frames.map (·.payload)).take (fitting (maxTotalLogSize - totalBytesRead)
        (frames.map (·.payload.length)))).flatten, none) := by
  induction frames generalizing totalBytesRead with
  | nil =>
    rw [flatMap_nil, decodeFrames]
    · simp
    · simp
  | cons frame frames ih =>
    rw [flatMap_cons, decodeFrames_encode, map_cons, map_cons]
    by_cases hfits : totalBytesRead + frame.payload.length ≤ maxTotalLogSize
    · rw [if_neg (fun h => absurd hfits (Nat.not_le.mpr h.1)), ih hfits,
        fitting_cons_of_le _ (Nat.le_sub_of_add_le' hfits), take_succ_cons,
        flatten_cons, Nat.sub_sub]
    · -- a payload that does not fit is not empty
      have hne : frame.payload ≠ [] := by
        intro hempty
        rw [hempty] at hfits
        exact hfits htot
      rw [if_pos ⟨Nat.lt_of_not_le hfits, hne⟩, fitting_cons_of_lt _ (by omega)]
      rfl

theorem decodeFrames_length (reader : List UInt8) :
    totalBytesRead ≤ maxTotalLogSize →
      totalBytesRead + (decodeFrames totalBytesRead reader).1.length ≤ maxTotalLogSize := by
  -- the cases of the loop: what is written has been compared with the limit before
  fun_induction decodeFrames totalBytesRead reader with
  | case1 total h₀ h₁ h₂ h₃ h₄ h₅ h₆ h₇ reader frameLen hzero ih => exact ih
  | case4 total h₀ h₁ h₂ h₃ h₄ h₅ h₆ h₇ reader frameLen hzero hframe hlimit hshort =>
    intro _
    dsimp only
    omega
  | case5 total h₀ h₁ h₂ h₃ h₄ h₅ h₆ h₇ reader frameLen hzero hframe hlimit hlong rest err heq ih =>
    intro _
    have hrest := ih (Nat.le_of_not_lt hlimit)
    rw [heq] at hrest
    dsimp only at hrest ⊢
    rw [length_append, length_take_of_le (Nat.le_of_not_lt hlong)]
    omega
  | _ => exact id

/-- The payloads of the longest prefix that is within the limit. -/
def withinLimit (frames : List LogFrame) : List UInt8 :=
  ((frames.map (·.payload)).take
    (fitting maxTotalLogSize (frames.map (·.payload.length)))).flatten

/-- **Frames are decoded to the payloads of the longest prefix within the limit**, in a stream that
    is declared or detected to be multiplexed, and no input to more than the limit. -/
theorem docker_logs_decoded :
    (∀ frames : List LogFrame,
      decodeDockerLogStream (frames.flatMap LogFrame.encode) true = (withinLimit frames, none) ∧
        decodeDockerLogStream (frames.flatMap LogFrame.encode)
          (detectDockerMultiplexedStream (frames.flatMap LogFrame.encode)) =
            (withinLimit frames, none)) ∧
      ∀ (reader : List UInt8) (multiplexed : Bool),
        (decodeDockerLogStream reader multiplexed).1.length ≤ maxTotalLogSize := by
  constructor
  · intro frames
    have hframes : decodeFrames 0 (frames.flatMap LogFrame.encode) = (withinLimit frames, none) :=
      decodeFrames_flatMap frames (Nat.zero_le _)
    refine ⟨hframes, ?_⟩
    cases frames with
    | nil => rfl
    | cons frame frames =>
      rw [flatMap_cons, detect_encode, ← flatMap_cons]
      exact hframes
  · intro reader multiplexed
    cases multiplexed with
    | true =>
      have hlength := decodeFrames_length 0 reader (Nat.zero_le _)
      rwa [Nat.zero_add] at hlength
    | false => exact length_take_le _ _

end Bantay.Agent.Logs
