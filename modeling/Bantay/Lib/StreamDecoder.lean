import Mathlib.Data.List.Infix

/-!
# Decoders on a Stream of Values

A decoder takes one value after the other from a source of bytes.  A `Framer` says where a value
ends: a byte belongs to the value, it is the last one, or the value has ended before it.  The
decoder scans its buffer and refills it until the value is at its end; what it has read beyond that
stays for the next value, and an error stays for good.

How the bytes are cut into refills does not matter: `readValue_eq` compares with `Framer.first`,
the first value of all bytes at once.

- `Framer.scan_append`, `Framer.first_append_space` — scanning in parts, and after space
- `StreamDecoder.Clean.next_value` — a source after sources of which nothing is left
-/

namespace Bantay.Lib

open List

/-! ## Framers -/

/-- What a byte says about the value. -/
inductive Verdict (ε : Type*) where
  | more
  | endsBefore
  | endsAfter
  /-- The byte cannot be part of a value. -/
  | error (e : ε)

/-- Where values end. -/
structure Framer (σ ε : Type*) where
  start : σ
  step : σ → UInt8 → σ × Verdict ε
  final : σ → Bool
  isSpace : UInt8 → Bool

/-- What a scan of some bytes ends with. -/
inductive Scanned (σ ε : Type*) where
  | value (bytes rest : List UInt8)
  | error (e : ε)
  | more (s : σ) (pending : List UInt8)

/-- The bytes of the value with others before them. -/
def Scanned.prepend {σ ε : Type*} (before : List UInt8) : Scanned σ ε → Scanned σ ε
  | .value bytes rest => .value (before ++ bytes) rest
  | .error e => .error e
  | .more s pending => .more s (before ++ pending)

/-- Why there is no value. -/
inductive ReadError (ε : Type*) where
  | syntaxError (e : ε)
  | eof
  | unexpectedEof
deriving DecidableEq

section Framing

variable {σ ε : Type*}

/-- Scan bytes after `pending`, which belong to the value. -/
def Framer.scan (F : Framer σ ε) (s : σ) (pending : List UInt8) : List UInt8 → Scanned σ ε
  | [] => .more s pending
  | c :: rest =>
    match F.step s c with
    | (s', .more) => F.scan s' (pending ++ [c]) rest
    | (_, .endsBefore) => .value pending (c :: rest)
    | (_, .endsAfter) => .value (pending ++ [c]) rest
    | (_, .error e) => .error e

/-- The end of the source: a value that may end here, or an error. -/
def Framer.atEnd (F : Framer σ ε) (s : σ) (pending : List UInt8) :
    Except (ReadError ε) (List UInt8) :=
  if F.final s then .ok pending
  else if pending.any fun c => !F.isSpace c then .error .unexpectedEof
  else .error .eof

/-- The outcome of a scan of all bytes there are: the value and what is after it. -/
def Framer.conclude (F : Framer σ ε) : Scanned σ ε → Except (ReadError ε) (List UInt8 × List UInt8)
  | .value value rest => .ok (value, rest)
  | .error e => .error (.syntaxError e)
  | .more s pending => (F.atEnd s pending).map fun value => (value, [])

def Framer.first (F : Framer σ ε) (bytes : List UInt8) :
    Except (ReadError ε) (List UInt8 × List UInt8) :=
  F.conclude (F.scan F.start [] bytes)

variable {F : Framer σ ε}

theorem Framer.scan_append (s : σ) (pending bytes bytes' : List UInt8) :
    F.scan s pending (bytes ++ bytes') =
      match F.scan s pending bytes with
      | .value value rest => .value value (rest ++ bytes')
      | .error e => .error e
      | .more s' pending' => F.scan s' pending' bytes' := by
  induction bytes generalizing s pending with
  | nil => rfl
  | cons c bytes ih =>
    rw [cons_append, Framer.scan, Framer.scan]
    rcases F.step s c with ⟨s', verdict⟩
    cases verdict with
    | more => exact ih s' (pending ++ [c])
    | endsBefore | endsAfter | error => rfl

theorem Framer.scan_eq_scan_take (s : σ) (pending bytes : List UInt8) (n : ℕ) :
    F.scan s pending bytes =
      match F.scan s pending (bytes.take n) with
      | .value value rest => .value value (rest ++ bytes.drop n)
      | .error e => .error e
      | .more s' pending' => F.scan s' pending' (bytes.drop n) := by
  rw [← F.scan_append, take_append_drop]

theorem Framer.scan_prepend (s : σ) (before pending bytes : List UInt8) :
    F.scan s (before ++ pending) bytes = (F.scan s pending bytes).prepend before := by
  induction bytes generalizing s pending with
  | nil => rfl
  | cons c bytes ih =>
    rw [Framer.scan, Framer.scan]
    rcases F.step s c with ⟨s', verdict⟩
    cases verdict with
    | more =>
      rw [append_assoc]
      exact ih s' (pending ++ [c])
    | endsBefore => rfl
    | endsAfter => simp [Scanned.prepend]
    | error e => rfl

/-! ## Space before a value -/

def Framer.SkipsSpace (F : Framer σ ε) : Prop :=
  ∀ c, F.isSpace c = true → F.step F.start c = (F.start, .more)

def Framer.Blank (F : Framer σ ε) (bytes : List UInt8) : Prop := ∀ c ∈ bytes, F.isSpace c = true

variable {space : List UInt8}

theorem Framer.scan_space (hskip : F.SkipsSpace) (hspace : F.Blank space)
    (pending bytes : List UInt8) :
    F.scan F.start pending (space ++ bytes) = F.scan F.start (pending ++ space) bytes := by
  induction space generalizing pending with
  | nil => simp
  | cons c space ih =>
    have hc : F.step F.start c = (F.start, .more) := hskip c (hspace c mem_cons_self)
    rw [cons_append, Framer.scan, hc]
    dsimp only
    rw [ih fun d hd => hspace d (mem_cons_of_mem c hd), append_assoc,
      singleton_append]

theorem Framer.atEnd_prepend (hspace : F.Blank space) (s : σ) (pending : List UInt8) :
    F.atEnd s (space ++ pending) = (F.atEnd s pending).map (space ++ ·) := by
  have hany : (space ++ pending).any (fun c => !F.isSpace c) =
      pending.any (fun c => !F.isSpace c) := by
    rw [any_append, any_eq_false.mpr, Bool.false_or]
    intro c hc
    simp [hspace c hc]
  unfold Framer.atEnd
  rw [hany]
  split
  · rfl
  · split <;> rfl

theorem Framer.conclude_prepend (hspace : F.Blank space) (scanned : Scanned σ ε) :
    F.conclude (scanned.prepend space) = (F.conclude scanned).map fun q => (space ++ q.1, q.2) := by
  cases scanned with
  | value value rest => rfl
  | error e => rfl
  | more s pending =>
    simp only [Scanned.prepend, Framer.conclude, F.atEnd_prepend hspace]
    cases F.atEnd s pending <;> rfl

/-- **Space before a value** belongs to its bytes and changes nothing else. -/
theorem Framer.first_append_space (hskip : F.SkipsSpace)
    (hspace : F.Blank space) (bytes : List UInt8) :
    F.first (space ++ bytes) = (F.first bytes).map fun q => (space ++ q.1, q.2) := by
  unfold Framer.first
  rw [F.scan_space hskip hspace, nil_append, ← F.conclude_prepend hspace,
    ← F.scan_prepend, append_nil]

end Framing

/-! ## The decoder -/

/-- The state of a decoder between two values. -/
structure StreamDecoder (ε : Type*) where
  scanp : ℕ
  unread : List UInt8
  spare : ℕ
  err : Option (ReadError ε)

def StreamDecoder.new {ε : Type*} : StreamDecoder ε := ⟨0, [], 0, none⟩

/-- The least room for a read. -/
def minRead : ℕ := 512

/-- A buffer with too little room is replaced by one of twice its size and `minRead` more. -/
def roomToRead (used spare : ℕ) : ℕ :=
  if spare < minRead then 2 * (used + spare) + minRead - used else spare

theorem minRead_le_roomToRead (used spare : ℕ) : minRead ≤ roomToRead used spare := by
  unfold roomToRead
  split <;> omega

structure ReadResult (ε : Type*) where
  decoder : StreamDecoder ε
  value : Except (ReadError ε) (List UInt8)

section Decoding

variable {σ ε : Type*} (F : Framer σ ε)

def StreamDecoder.fail (unread : List UInt8) (spare : ℕ) (e : ReadError ε) : ReadResult ε :=
  ⟨⟨0, unread, spare, some e⟩, .error e⟩

/-- Refill the buffer, which holds `pending`, until the value is at its end.  A source without
    bytes returns `io.EOF`. -/
def readMore (s : σ) (pending : List UInt8) (spare : ℕ) : List UInt8 → ReadResult ε
  | [] =>
    let room := roomToRead pending.length spare
    match F.atEnd s pending with
    | .ok value => ⟨⟨value.length, [], room, none⟩, .ok value⟩
    | .error e => StreamDecoder.fail pending room e
  | c :: source =>
    let room := roomToRead pending.length spare
    let chunk := (c :: source).take room
    let left := room - chunk.length
    match F.scan s pending chunk with
    | .value value rest => ⟨⟨value.length, rest, left, none⟩, .ok value⟩
    | .error e => StreamDecoder.fail (pending ++ chunk) left (.syntaxError e)
    | .more s' pending' => readMore s' pending' left ((c :: source).drop room)
termination_by source => source.length
decreasing_by
  have hroom : minRead ≤ roomToRead pending.length spare := minRead_le_roomToRead _ _
  have hpos : 0 < minRead := by decide
  rw [length_drop]
  exact Nat.sub_lt (Nat.succ_pos _) (hpos.trans_le hroom)

/-- What the buffer holds is scanned first; earlier values make room when it is refilled. -/
def StreamDecoder.readValue (decoder : StreamDecoder ε) (source : List UInt8) : ReadResult ε :=
  match F.scan F.start [] decoder.unread with
  | .value value rest =>
    ⟨⟨decoder.scanp + value.length, rest, decoder.spare, none⟩, .ok value⟩
  | .error e => ⟨{ decoder with err := some (.syntaxError e) }, .error (.syntaxError e)⟩
  | .more s pending => readMore F s pending (decoder.scanp + decoder.spare) source

/-- `Decode` up to the value: an error that was kept is returned. -/
def StreamDecoder.next (decoder : StreamDecoder ε) (source : List UInt8) : ReadResult ε :=
  match decoder.err with
  | some e => ⟨decoder, .error e⟩
  | none => decoder.readValue F source

variable {F}

/-- What was read is the first value of all bytes; what stays in the buffer is after it, and an
    error is kept. -/
structure Agrees (result : ReadResult ε)
    (first : Except (ReadError ε) (List UInt8 × List UInt8)) : Prop where
  value : result.value = first.map Prod.fst
  rest : ∀ value rest, first = .ok (value, rest) →
    result.decoder.err = none ∧ result.decoder.unread <+: rest
  err : ∀ e, first = .error e → result.decoder.err = some e

variable {decoder : StreamDecoder ε} {value rest : List UInt8}

theorem agrees_ok (herr : decoder.err = none) (hpre : decoder.unread <+: rest) :
    Agrees ⟨decoder, .ok value⟩ (.ok (value, rest)) where
  value := rfl
  rest := by
    rintro _ _ ⟨⟩
    exact ⟨herr, hpre⟩
  err := fun _ h => nomatch h

theorem agrees_error {e : ReadError ε} (herr : decoder.err = some e) :
    Agrees ⟨decoder, .error e⟩ (.error e) where
  value := rfl
  rest := fun _ _ h => nomatch h
  err := by
    rintro _ ⟨⟩
    exact herr

/-- **Refills do not matter**: reading on is scanning all that the source has. -/
theorem readMore_eq (s : σ) (pending : List UInt8) (spare : ℕ) (source : List UInt8) :
    Agrees (readMore F s pending spare source) (F.conclude (F.scan s pending source)) := by
  -- the induction follows the refills, and what is read by one is a chunk of the source
  induction s, pending, spare, source using readMore.induct F with
  | case1 s pending spare value hval =>
    rw [readMore]
    simp only [hval, Framer.scan, Framer.conclude]
    exact agrees_ok rfl prefix_rfl
  | case2 s pending spare e he =>
    rw [readMore]
    simp only [he, Framer.scan, Framer.conclude]
    exact agrees_error rfl
  | case3 s pending spare c source room chunk value rest hscan =>
    rw [F.scan_eq_scan_take s pending _ room, hscan, readMore]
    simp only [hscan, chunk, room, Framer.conclude]
    exact agrees_ok rfl (prefix_append _ _)
  | case4 s pending spare c source room chunk e hscan =>
    rw [F.scan_eq_scan_take s pending _ room, hscan, readMore]
    simp only [hscan, chunk, room, Framer.conclude]
    exact agrees_error rfl
  | case5 s pending spare c source room chunk left s' pending' hscan ih =>
    rw [F.scan_eq_scan_take s pending _ room, hscan, readMore]
    simpa only [hscan, chunk, room] using ih

/-- **The value that is read** is the first one of what the buffer and the source have. -/
theorem readValue_eq (decoder : StreamDecoder ε) (source : List UInt8) :
    Agrees (decoder.readValue F source) (F.first (decoder.unread ++ source)) := by
  unfold StreamDecoder.readValue Framer.first
  rw [F.scan_append]
  cases hscan : F.scan F.start [] decoder.unread with
  | value value rest =>
    exact agrees_ok rfl (prefix_append _ _)
  | error e => exact agrees_error rfl
  | more s pending => exact readMore_eq s pending _ source

/-! ## One source after the other -/

/-- Nothing of earlier sources is left: no error, and no bytes but space. -/
structure StreamDecoder.Clean (F : Framer σ ε) (decoder : StreamDecoder ε) : Prop where
  err : decoder.err = none
  unread : F.Blank decoder.unread

theorem StreamDecoder.clean_new (F : Framer σ ε) : StreamDecoder.Clean F StreamDecoder.new :=
  ⟨rfl, fun _ h => nomatch h⟩

def Framer.trim (F : Framer σ ε) (bytes : List UInt8) : List UInt8 := bytes.dropWhile F.isSpace

theorem Framer.trim_append {space : List UInt8} (hspace : F.Blank space) (bytes : List UInt8) :
    F.trim (space ++ bytes) = F.trim bytes := by
  exact dropWhile_append_of_pos hspace

theorem StreamDecoder.Clean.agrees (hclean : decoder.Clean F) (hskip : F.SkipsSpace)
    (source : List UInt8) :
    Agrees (decoder.next F source)
      ((F.first source).map fun q => (decoder.unread ++ q.1, q.2)) := by
  have hread := readValue_eq (F := F) decoder source
  rw [F.first_append_space hskip hclean.unread] at hread
  simpa only [StreamDecoder.next, hclean.err] using hread

/-- **A clean decoder reads a source as a new one does.** -/
theorem StreamDecoder.Clean.next_value (hclean : decoder.Clean F) (hskip : F.SkipsSpace)
    (source : List UInt8) :
    (decoder.next F source).value.map F.trim = (F.first source).map fun q => F.trim q.1 := by
  rw [(hclean.agrees hskip source).value]
  cases F.first source with
  | error e => rfl
  | ok q => exact congrArg Except.ok (F.trim_append hclean.unread q.1)

/-- A source with one value and space after it leaves the decoder clean. -/
theorem StreamDecoder.Clean.next (hclean : decoder.Clean F) (hskip : F.SkipsSpace)
    {source : List UInt8} (hfirst : F.first source = .ok (value, rest)) (hrest : F.Blank rest) :
    (decoder.next F source).decoder.Clean F := by
  have hagrees := hclean.agrees hskip source
  rw [hfirst] at hagrees
  obtain ⟨herr, hpre⟩ := hagrees.rest _ _ rfl
  exact ⟨herr, fun c hc => hrest c (hpre.subset hc)⟩

end Decoding

end Bantay.Lib
