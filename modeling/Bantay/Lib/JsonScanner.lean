import Bantay.Lib.StreamDecoder

/-!
# The Scanner of `encoding/json`

The scanner is an automaton on bytes with a stack: `Scanner.next` is the function `step` of the
source, with one state for each of its state functions.  It ends a value at the top with `scanEnd`;
a bracket that closes the top value ends it at once, for others the end shows at the byte after it.

`valid` is `json.Valid`; `framer` is how a decoder uses the scanner.

- `next_sound` — what a step can do to the top of the value
- `first_of_valid` — in a valid text there is only space after the first value
-/

namespace Bantay.Lib.Json

/-! ## Bytes -/

def byte (ch : Char) : UInt8 := UInt8.ofNat ch.toNat

def isSpace (c : UInt8) : Bool :=
  c == byte ' ' || c == byte '\t' || c == byte '\r' || c == byte '\n'

def isDigit (c : UInt8) : Bool := byte '0' ≤ c && c ≤ byte '9'

def isDigit19 (c : UInt8) : Bool := byte '1' ≤ c && c ≤ byte '9'

def isHex (c : UInt8) : Bool :=
  isDigit c || (byte 'a' ≤ c && c ≤ byte 'f') || (byte 'A' ≤ c && c ≤ byte 'F')

/-! ## The scanner -/

structure SyntaxError where
  c : UInt8
  context : String
deriving DecidableEq

/-- What the innermost open bracket is waiting for. -/
inductive ParseState where
  | parseObjectKey
  | parseObjectValue
  | parseArrayValue

/-- The state functions.  `stateError` comes with the error of the scanner. -/
inductive State where
  | stateBeginValueOrEmpty
  | stateBeginValue
  | stateBeginStringOrEmpty
  | stateBeginString
  | stateEndValue
  | stateEndTop
  | stateInString
  | stateInStringEsc
  | stateInStringEscU
  | stateInStringEscU1
  | stateInStringEscU12
  | stateInStringEscU123
  | stateNeg
  | state1
  | state0
  | stateDot
  | stateDot0
  | stateE
  | stateESign
  | stateE0
  | stateT
  | stateTr
  | stateTru
  | stateF
  | stateFa
  | stateFal
  | stateFals
  | stateN
  | stateNu
  | stateNul
  | stateError (err : SyntaxError)

/-- What a byte is for the value. -/
inductive Op where
  | scanContinue
  | scanBeginLiteral
  | scanBeginObject
  | scanObjectKey
  | scanObjectValue
  | scanEndObject
  | scanBeginArray
  | scanArrayValue
  | scanEndArray
  | scanSkipSpace
  | scanEnd
  | scanError (err : SyntaxError)
deriving DecidableEq

structure Scanner where
  step : State
  parseState : List ParseState
  endTop : Bool

def Scanner.reset : Scanner := ⟨.stateBeginValue, [], false⟩

def Scanner.error (s : Scanner) (c : UInt8) (context : String) : Scanner × Op :=
  ({ s with step := .stateError ⟨c, context⟩ }, .scanError ⟨c, context⟩)

/-- The next state and what the byte was. -/
def Scanner.goto (s : Scanner) (step : State) (op : Op) : Scanner × Op := ({ s with step }, op)

def maxNestingDepth : ℕ := 10000

/-- `pushParseState`, with the state that the caller has set. -/
def Scanner.pushParseState (s : Scanner) (c : UInt8) (step : State) (new : ParseState)
    (successState : Op) : Scanner × Op :=
  let s := { s with step, parseState := new :: s.parseState }
  if s.parseState.length ≤ maxNestingDepth then (s, successState)
  else s.error c "exceeded max depth"

def Scanner.popParseState (s : Scanner) : Scanner :=
  match s.parseState.tail with
  | [] => { s with parseState := [], step := .stateEndTop, endTop := true }
  | ps :: rest => { s with parseState := ps :: rest, step := .stateEndValue }

/-! ## The state functions -/

section StateFunctions

variable (s : Scanner) (c : UInt8)

/-- The error for a byte after the top value is returned with the next byte. -/
def stateEndTop : Scanner × Op :=
  if isSpace c then (s, .scanEnd) else ((s.error c "after top-level value").1, .scanEnd)

def stateEndValue : Scanner × Op :=
  match s.parseState with
  | [] => stateEndTop { s with step := .stateEndTop, endTop := true } c
  | ps :: rest =>
    if isSpace c then s.goto .stateEndValue .scanSkipSpace
    else
      match ps with
      | .parseObjectKey =>
        if c = byte ':' then
          ({ s with parseState := .parseObjectValue :: rest, step := .stateBeginValue },
            .scanObjectKey)
        else s.error c "after object key"
      | .parseObjectValue =>
        if c = byte ',' then
          ({ s with parseState := .parseObjectKey :: rest, step := .stateBeginString },
            .scanObjectValue)
        else if c = byte '}' then (s.popParseState, .scanEndObject)
        else s.error c "after object key:value pair"
      | .parseArrayValue =>
        if c = byte ',' then s.goto .stateBeginValue .scanArrayValue
        else if c = byte ']' then (s.popParseState, .scanEndArray)
        else s.error c "after array element"

def stateBeginValue : Scanner × Op :=
  if isSpace c then (s, .scanSkipSpace)
  else if c = byte '{' then
    s.pushParseState c .stateBeginStringOrEmpty .parseObjectKey .scanBeginObject
  else if c = byte '[' then
    s.pushParseState c .stateBeginValueOrEmpty .parseArrayValue .scanBeginArray
  else if c = byte '"' then s.goto .stateInString .scanBeginLiteral
  else if c = byte '-' then s.goto .stateNeg .scanBeginLiteral
  else if c = byte '0' then s.goto .state0 .scanBeginLiteral
  else if c = byte 't' then s.goto .stateT .scanBeginLiteral
  else if c = byte 'f' then s.goto .stateF .scanBeginLiteral
  else if c = byte 'n' then s.goto .stateN .scanBeginLiteral
  else if isDigit19 c then s.goto .state1 .scanBeginLiteral
  else s.error c "looking for beginning of value"

def stateBeginValueOrEmpty : Scanner × Op :=
  if isSpace c then (s, .scanSkipSpace)
  else if c = byte ']' then stateEndValue s c
  else stateBeginValue s c

def stateBeginString : Scanner × Op :=
  if isSpace c then (s, .scanSkipSpace)
  else if c = byte '"' then s.goto .stateInString .scanBeginLiteral
  else s.error c "looking for beginning of object key string"

def stateBeginStringOrEmpty : Scanner × Op :=
  if isSpace c then (s, .scanSkipSpace)
  else if c = byte '}' then
    stateEndValue { s with parseState := .parseObjectValue :: s.parseState.tail } c
  else stateBeginString s c

def stateInString : Scanner × Op :=
  if c = byte '"' then s.goto .stateEndValue .scanContinue
  else if c = byte '\\' then s.goto .stateInStringEsc .scanContinue
  else if c < 0x20 then s.error c "in string literal"
  else (s, .scanContinue)

def stateInStringEsc : Scanner × Op :=
  if c ∈ [byte 'b', byte 'f', byte 'n', byte 'r', byte 't', byte '\\', byte '/', byte '"'] then
    s.goto .stateInString .scanContinue
  else if c = byte 'u' then s.goto .stateInStringEscU .scanContinue
  else s.error c "in string escape code"

/-- The four states after `\u`: one digit each. -/
def stateHexDigit (next : State) (s : Scanner) (c : UInt8) : Scanner × Op :=
  if isHex c then s.goto next .scanContinue else s.error c "in \\u hexadecimal character escape"

def state0 : Scanner × Op :=
  if c = byte '.' then s.goto .stateDot .scanContinue
  else if c = byte 'e' ∨ c = byte 'E' then s.goto .stateE .scanContinue
  else stateEndValue s c

def state1 : Scanner × Op :=
  if isDigit c then s.goto .state1 .scanContinue else state0 s c

def stateNeg : Scanner × Op :=
  if c = byte '0' then s.goto .state0 .scanContinue
  else if isDigit19 c then s.goto .state1 .scanContinue
  else s.error c "in numeric literal"

def stateDot : Scanner × Op :=
  if isDigit c then s.goto .stateDot0 .scanContinue
  else s.error c "after decimal point in numeric literal"

def stateDot0 : Scanner × Op :=
  if isDigit c then (s, .scanContinue)
  else if c = byte 'e' ∨ c = byte 'E' then s.goto .stateE .scanContinue
  else stateEndValue s c

def stateESign : Scanner × Op :=
  if isDigit c then s.goto .stateE0 .scanContinue
  else s.error c "in exponent of numeric literal"

def stateE : Scanner × Op :=
  if c = byte '+' ∨ c = byte '-' then s.goto .stateESign .scanContinue else stateESign s c

def stateE0 : Scanner × Op :=
  if isDigit c then (s, .scanContinue) else stateEndValue s c

/-- A state within `true`, `false` or `null`: one letter is expected. -/
def stateLetter (expected : Char) (next : State) (context : String) (s : Scanner) (c : UInt8) :
    Scanner × Op :=
  if c = byte expected then s.goto next .scanContinue else s.error c context

/-- One byte: `s.step(s, c)`. -/
def Scanner.next : Scanner × Op :=
  match s.step with
  | .stateBeginValueOrEmpty => stateBeginValueOrEmpty s c
  | .stateBeginValue => stateBeginValue s c
  | .stateBeginStringOrEmpty => stateBeginStringOrEmpty s c
  | .stateBeginString => stateBeginString s c
  | .stateEndValue => stateEndValue s c
  | .stateEndTop => stateEndTop s c
  | .stateInString => stateInString s c
  | .stateInStringEsc => stateInStringEsc s c
  | .stateInStringEscU => stateHexDigit .stateInStringEscU1 s c
  | .stateInStringEscU1 => stateHexDigit .stateInStringEscU12 s c
  | .stateInStringEscU12 => stateHexDigit .stateInStringEscU123 s c
  | .stateInStringEscU123 => stateHexDigit .stateInString s c
  | .stateNeg => stateNeg s c
  | .state1 => Json.state1 s c
  | .state0 => Json.state0 s c
  | .stateDot => stateDot s c
  | .stateDot0 => stateDot0 s c
  | .stateE => stateE s c
  | .stateESign => stateESign s c
  | .stateE0 => stateE0 s c
  | .stateT => stateLetter 'r' .stateTr "in literal true (expecting 'r')" s c
  | .stateTr => stateLetter 'u' .stateTru "in literal true (expecting 'u')" s c
  | .stateTru => stateLetter 'e' .stateEndValue "in literal true (expecting 'e')" s c
  | .stateF => stateLetter 'a' .stateFa "in literal false (expecting 'a')" s c
  | .stateFa => stateLetter 'l' .stateFal "in literal false (expecting 'l')" s c
  | .stateFal => stateLetter 's' .stateFals "in literal false (expecting 's')" s c
  | .stateFals => stateLetter 'e' .stateEndValue "in literal false (expecting 'e')" s c
  | .stateN => stateLetter 'u' .stateNu "in literal null (expecting 'u')" s c
  | .stateNu => stateLetter 'l' .stateNul "in literal null (expecting 'l')" s c
  | .stateNul => stateLetter 'l' .stateEndValue "in literal null (expecting 'l')" s c
  | .stateError err => (s, .scanError err)

end StateFunctions

/-! ## Whole texts and streams -/

/-- `eof`: whether the text may end here. -/
def Scanner.eof (s : Scanner) : Bool :=
  match s.step with
  | .stateError _ => false
  | _ => s.endTop || (s.next (byte ' ')).1.endTop

/-- The scanner takes the bytes without an error, and they may end there. -/
def Scanner.accepts (s : Scanner) : List UInt8 → Bool
  | [] => s.eof
  | c :: rest =>
    match (s.next c).2 with
    | .scanError _ => false
    | _ => (s.next c).1.accepts rest

def valid (bytes : List UInt8) : Bool := Scanner.reset.accepts bytes

/-- After a closing bracket a space is invented, to see whether the value is at its end. -/
def inventSpace (s : Scanner) : Scanner × Verdict SyntaxError :=
  match stateEndValue s (byte ' ') with
  | (s', .scanEnd) => (s', .endsAfter)
  | (s', _) => (s', .more)

/-- The scanner in the loop of `readValue`. -/
def frame (s : Scanner) (c : UInt8) : Scanner × Verdict SyntaxError :=
  match s.next c with
  | (s', .scanEnd) => (s', .endsBefore)
  | (s', .scanEndObject) | (s', .scanEndArray) => inventSpace s'
  | (s', .scanError err) => (s', .error err)
  | (s', _) => (s', .more)

/-- Where a JSON value ends. -/
def framer : Framer Scanner SyntaxError where
  start := Scanner.reset
  step := frame
  final := fun s => (s.next (byte ' ')).2 = .scanEnd
  isSpace := isSpace

/-! ## What a step can do -/

/-- The value ends before the byte or with it, or it goes on. -/
def Sound (c : UInt8) (r : Scanner × Op) : Prop :=
  match r.2 with
  | .scanEnd => isSpace c = true ∧ r.1.step = .stateEndTop ∨ ∃ err, r.1.step = .stateError err
  | .scanEndObject | .scanEndArray =>
    isSpace c = false ∧ (r.1.parseState = [] ∧ r.1.step = .stateEndTop ∨
      r.1.parseState ≠ [] ∧ r.1.step = .stateEndValue ∧ r.1.endTop = false)
  | _ => r.1.endTop = false

section Steps

variable {s : Scanner} {c : UInt8}

theorem sound_pushParseState (h : s.endTop = false) (step : State) (new : ParseState)
    {op : Op} (hop : op = .scanBeginObject ∨ op = .scanBeginArray) :
    Sound c (s.pushParseState c step new op) := by
  unfold Scanner.pushParseState
  dsimp only
  split
  · rcases hop with rfl | rfl <;> exact h
  · exact h

theorem sound_stateEndTop :
    Sound c (stateEndTop { s with step := .stateEndTop, endTop := true } c) := by
  unfold stateEndTop
  split
  case isTrue hspace => exact .inl ⟨hspace, rfl⟩
  case isFalse => exact .inr ⟨_, rfl⟩

theorem popParseState_cases (h : s.endTop = false) :
    (s.popParseState.parseState = [] ∧ s.popParseState.step = .stateEndTop) ∨
      (s.popParseState.parseState ≠ [] ∧ s.popParseState.step = .stateEndValue ∧
        s.popParseState.endTop = false) := by
  unfold Scanner.popParseState
  split
  · exact .inl ⟨rfl, rfl⟩
  · exact .inr ⟨List.cons_ne_nil _ _, rfl, h⟩

theorem sound_stateEndValue (h : s.endTop = false) : Sound c (stateEndValue s c) := by
  unfold stateEndValue
  split
  case h_1 => exact sound_stateEndTop
  case h_2 ps rest hps =>
    split
    case isTrue => exact h
    case isFalse hspace =>
      have hc : isSpace c = false := Bool.eq_false_iff.mpr hspace
      cases ps with dsimp only
      | parseObjectKey =>
        split <;> exact h
      | parseObjectValue =>
        split
        · exact h
        · split
          · exact ⟨hc, popParseState_cases h⟩
          · exact h
      | parseArrayValue =>
        split
        · exact h
        · split
          · exact ⟨hc, popParseState_cases h⟩
          · exact h

theorem sound_ite {p : Prop} [Decidable p] {r r' : Scanner × Op} (h : Sound c r)
    (h' : Sound c r') : Sound c (if p then r else r') := by
  split
  · exact h
  · exact h'

variable (h : s.endTop = false)
include h

theorem sound_stateBeginValue : Sound c (stateBeginValue s c) := by
  refine sound_ite h (sound_ite ?_ (sound_ite ?_ ?_))
  · exact sound_pushParseState h _ _ (.inl rfl)
  · exact sound_pushParseState h _ _ (.inr rfl)
  · -- the first byte of a literal, or an error
    repeat' apply sound_ite
    all_goals exact h

theorem sound_stateBeginString : Sound c (stateBeginString s c) :=
  sound_ite h (sound_ite h h)

theorem sound_state0 : Sound c (Json.state0 s c) :=
  sound_ite h (sound_ite h (sound_stateEndValue h))

theorem sound_stateESign : Sound c (stateESign s c) := sound_ite h h

theorem sound_stateLetter (expected : Char) (next : State)
    (context : String) : Sound c (stateLetter expected next context s c) := sound_ite h h

theorem sound_stateHexDigit (next : State) :
    Sound c (stateHexDigit next s c) := sound_ite h h

/-- **What a step can do**, before the top value has ended. -/
theorem next_sound : Sound c (s.next c) := by
  unfold Scanner.next
  -- one case for each state function, in the order of the states
  split
  case h_1 => exact sound_ite h (sound_ite (sound_stateEndValue h) (sound_stateBeginValue h))
  case h_2 => exact sound_stateBeginValue h
  case h_3 => exact sound_ite h (sound_ite (sound_stateEndValue h) (sound_stateBeginString h))
  case h_4 => exact sound_stateBeginString h
  case h_5 => exact sound_stateEndValue h
  case h_6 hstep =>
    unfold stateEndTop
    split
    case isTrue hspace => exact .inl ⟨hspace, hstep⟩
    case isFalse => exact .inr ⟨_, rfl⟩
  case h_7 => exact sound_ite h (sound_ite h (sound_ite h h))
  case h_8 => exact sound_ite h (sound_ite h h)
  case h_13 => exact sound_ite h (sound_ite h h)
  case h_14 => exact sound_ite h (sound_state0 h)
  case h_15 => exact sound_state0 h
  case h_16 => exact sound_ite h h
  case h_17 => exact sound_ite h (sound_ite h (sound_stateEndValue h))
  case h_18 => exact sound_ite h (sound_stateESign h)
  case h_19 => exact sound_stateESign h
  case h_20 => exact sound_ite h (sound_stateEndValue h)
  case h_31 => exact h
  -- hexadecimal digits, and the letters of `true`, `false` and `null`
  all_goals first
    | exact sound_stateHexDigit h _
    | exact sound_stateLetter h _ _ _

end Steps

/-! ## Space -/

theorem framer_skipsSpace : framer.SkipsSpace := by
  intro c hc
  have hspace : isSpace c = true := hc
  have hnext : Scanner.reset.next c = (Scanner.reset, .scanSkipSpace) := by
    simp [Scanner.next, Scanner.reset, stateBeginValue, hspace]
  simp only [framer, frame, hnext]

variable {s : Scanner}

theorem not_accepts_of_error {err : SyntaxError} (hstep : s.step = .stateError err)
    (bytes : List UInt8) : s.accepts bytes = false := by
  cases bytes with
  | nil => simp only [Scanner.accepts, Scanner.eof, hstep]
  | cons c bytes => simp only [Scanner.accepts, Scanner.next, hstep]

variable {bytes : List UInt8}

theorem blank_of_accepts_endTop (hstep : s.step = .stateEndTop) (hacc : s.accepts bytes = true) :
    framer.Blank bytes := by
  induction bytes generalizing s with
  | nil => exact fun _ h => nomatch h
  | cons c bytes ih =>
    cases hspace : isSpace c with
    | true =>
      have hnext : s.next c = (s, .scanEnd) := by
        simp only [Scanner.next, hstep, stateEndTop, hspace, if_true]
      simp only [Scanner.accepts, hnext] at hacc
      intro d hd
      rcases List.mem_cons.mp hd with rfl | hd
      · exact hspace
      · exact ih hstep hacc d hd
    | false =>
      -- The error comes with the next byte, or at the end.
      have hnext : s.next c = ((s.error c "after top-level value").1, .scanEnd) := by
        simp only [Scanner.next, hstep, stateEndTop, hspace, Bool.false_eq_true, if_false]
      simp only [Scanner.accepts, hnext] at hacc
      rw [not_accepts_of_error rfl] at hacc
      exact absurd hacc Bool.false_ne_true

/-! ## Valid texts -/

/-- A value with space after it, or a value that ends where the text ends. -/
def Complete : Scanned Scanner SyntaxError → Prop
  | .value _ rest => framer.Blank rest
  | .error _ => False
  | .more s _ => framer.final s = true

theorem final_of_eof (h : s.endTop = false) (heof : s.eof = true) : framer.final s = true := by
  have hsound : Sound (byte ' ') (s.next (byte ' ')) := next_sound h
  have hend : (s.next (byte ' ')).1.endTop = true := by
    unfold Scanner.eof at heof
    split at heof
    · exact absurd heof Bool.false_ne_true
    · simpa [h] using heof
  have hspace : isSpace (byte ' ') = true := by decide
  unfold Sound at hsound
  split at hsound
  case h_1 hop => exact decide_eq_true hop
  case h_2 => exact absurd (hspace.symm.trans hsound.1) Bool.false_ne_true.symm
  case h_3 => exact absurd (hspace.symm.trans hsound.1) Bool.false_ne_true.symm
  case h_4 => exact absurd (hend.symm.trans hsound) Bool.false_ne_true.symm

theorem inventSpace_cases
    (h : s.parseState = [] ∧ s.step = .stateEndTop ∨
      s.parseState ≠ [] ∧ s.step = .stateEndValue ∧ s.endTop = false) :
    ((inventSpace s).2 = .endsAfter ∧ s.step = .stateEndTop) ∨
      (inventSpace s = (s, .more) ∧ s.endTop = false) := by
  have hspace : isSpace (byte ' ') = true := by decide
  rcases h with ⟨hnil, hstep⟩ | ⟨hopen, hstep, hend⟩
  · left
    simp [inventSpace, stateEndValue, hnil, stateEndTop, hspace, hstep]
  · right
    refine ⟨?_, hend⟩
    obtain ⟨step, parseState, endTop⟩ := s
    obtain ⟨ps, rest, rfl⟩ := List.exists_cons_of_ne_nil hopen
    subst hstep
    simp [inventSpace, stateEndValue, hspace, Scanner.goto]

/-- What is left of an accepted text after a byte: it is accepted, or it is space. -/
def Leaves (c : UInt8) (bytes : List UInt8) : Scanner × Verdict SyntaxError → Prop
  | (s', .more) => s'.endTop = false ∧ s'.accepts bytes = true
  | (_, .endsBefore) => framer.Blank (c :: bytes)
  | (_, .endsAfter) => framer.Blank bytes
  | (_, .error _) => False

theorem leaves_inventSpace {c : UInt8} (h : s.parseState = [] ∧ s.step = .stateEndTop ∨
      s.parseState ≠ [] ∧ s.step = .stateEndValue ∧ s.endTop = false)
    (hacc : s.accepts bytes = true) : Leaves c bytes (inventSpace s) := by
  rcases inventSpace_cases h with ⟨hend, hstep⟩ | ⟨hsame, hopen⟩
  · rcases hinvent : inventSpace s with ⟨s', verdict⟩
    rw [hinvent] at hend
    subst hend
    exact blank_of_accepts_endTop hstep hacc
  · rw [hsame]
    exact ⟨hopen, hacc⟩

theorem frame_of_accepts (h : s.endTop = false) {c : UInt8}
    (hacc : s.accepts (c :: bytes) = true) : Leaves c bytes (frame s c) := by
  have hsound : Sound c (s.next c) := next_sound h
  unfold Scanner.accepts at hacc
  unfold frame
  rcases hnext : s.next c with ⟨s', op⟩
  rw [hnext] at hsound hacc
  cases op with
  | scanError err => exact absurd hacc Bool.false_ne_true
  | scanEnd =>
    rcases hsound with ⟨hspace, hstep⟩ | ⟨err, hstep⟩
    · intro d hd
      rcases List.mem_cons.mp hd with rfl | hd
      · exact hspace
      · exact blank_of_accepts_endTop hstep hacc d hd
    · exact absurd ((not_accepts_of_error hstep bytes).symm.trans hacc) Bool.false_ne_true
  | scanEndObject => exact leaves_inventSpace hsound.2 hacc
  | scanEndArray => exact leaves_inventSpace hsound.2 hacc
  | _ => exact ⟨hsound, hacc⟩

/-- **The decoder on a valid text.** -/
theorem complete_of_accepts (h : s.endTop = false) (hacc : s.accepts bytes = true)
    (pending : List UInt8) : Complete (framer.scan s pending bytes) := by
  induction bytes generalizing s pending with
  | nil => exact final_of_eof h hacc
  | cons c bytes ih =>
    have hframe := frame_of_accepts h hacc
    have hstep : framer.step s c = frame s c := rfl
    rw [Framer.scan, hstep]
    rcases hverdict : frame s c with ⟨s', verdict⟩
    rw [hverdict] at hframe
    cases verdict with
    | more => exact ih hframe.1 hframe.2 _
    | endsBefore => exact hframe
    | endsAfter => exact hframe
    | error e => exact hframe.elim

/-- **A valid text has one value**: the first one of it, and only space after it. -/
theorem first_of_valid (hvalid : valid bytes = true) :
    ∃ value rest, framer.first bytes = .ok (value, rest) ∧ framer.Blank rest := by
  have hcompl : Complete (framer.scan framer.start [] bytes) :=
    complete_of_accepts rfl hvalid []
  unfold Framer.first
  cases hscan : framer.scan framer.start [] bytes with
  | value value rest => exact ⟨value, rest, rfl, by rwa [hscan] at hcompl⟩
  | error e =>
    rw [hscan] at hcompl
    exact hcompl.elim
  | more s pending =>
    rw [hscan] at hcompl
    have hend : framer.atEnd s pending = .ok pending := if_pos hcompl
    refine ⟨pending, [], ?_, fun _ h => nomatch h⟩
    simp only [Framer.conclude, hend]
    rfl

end Bantay.Lib.Json
