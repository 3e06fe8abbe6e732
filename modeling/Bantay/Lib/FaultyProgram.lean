import Mathlib.Tactic.SplitIfs

/-!
# Programs with Faults

A program is a sequence of calls that change a state: a file system, a database.  The environment
decides for the label of every call site whether the call there fails and whether the process is
killed at it: `Faults`.  Such a call may leave a part of its effect.

`Ends P Q` says how a run ends: with `P` of the state if the process stops, with `Q` of the result
and the state if the program returns.  The rules compute it call by call, exactly:
- `ends_pure`, `ends_bind`, `ends_call`, `ends_panic`, `ends_transaction`
- `ends_callPart_ite`, `ends_call_ite`, `ends_call_ignore`: the two ways a program treats an error
-/

namespace Bantay.Lib

/-- What goes wrong, by call site. -/
structure Faults (κ : Type) where
  fails : κ → Bool
  kill : Option κ

/-- Calls fail, the process is not killed. -/
def Faults.errors {κ : Type} (fails : κ → Bool) : Faults κ := ⟨fails, none⟩

/-- How a run ends. -/
inductive Outcome (σ α : Type) where
  | stopped (s : σ)
  | returned (value : α) (s : σ)

def Outcome.state {σ α : Type} : Outcome σ α → σ
  | .stopped s => s
  | .returned _ s => s

/-- A program over the state `σ`, with call sites labelled by `κ`. -/
def Program (σ κ α : Type) := Faults κ → σ → Outcome σ α

namespace Program

variable {σ κ α β : Type}

def run (program : Program σ κ α) (faults : Faults κ) (s : σ) : Outcome σ α :=
  program faults s

instance : Monad (Program σ κ) where
  pure value := fun _ s => .returned value s
  bind program next := fun faults s =>
    match program faults s with
    | .stopped s => .stopped s
    | .returned value s => next value faults s

/-- The call succeeds if it does not fail at its site and `effect` is possible. -/
def callPart [DecidableEq κ] (site : κ) (part : σ → σ)
    (effect : σ → Option σ) : Program σ κ Bool := fun faults s =>
  if faults.kill = some site then .stopped (part s)
  else if faults.fails site then .returned false (part s)
  else
    match effect s with
    | none => .returned false s
    | some s' => .returned true s'

def call [DecidableEq κ] (site : κ) (effect : σ → Option σ) : Program σ κ Bool :=
  callPart site id effect

def panic : Program σ κ α := fun _ s => .stopped s

/-- The effect of the body is kept if it returns without an error. -/
def transaction {ε : Type} (body : Program σ κ (Option ε)) : Program σ κ (Option ε) :=
  fun faults s =>
    match body faults s with
    | .stopped _ => .stopped s
    | .returned (some err) _ => .returned (some err) s
    | .returned none s' => .returned none s'

end Program

section Rules

variable {σ κ α β : Type} {P : σ → Prop} {Q : α → σ → Prop} {R : β → σ → Prop}
  {faults : Faults κ} {s : σ}

def Ends (P : σ → Prop) (Q : α → σ → Prop) (program : Program σ κ α) (faults : Faults κ)
    (s : σ) : Prop :=
  match program.run faults s with
  | .stopped s' => P s'
  | .returned value s' => Q value s'

@[simp]
theorem ends_pure (value : α) : Ends P Q (pure value : Program σ κ α) faults s ↔ Q value s :=
  Iff.rfl

@[simp]
theorem ends_bind (program : Program σ κ α) (next : α → Program σ κ β) :
    Ends P R (program >>= next) faults s ↔
      Ends P (fun value s' => Ends P R (next value) faults s') program faults s := by
  simp only [Ends, Program.run, bind]
  cases program faults s <;> rfl

@[simp]
theorem ends_panic : Ends P Q (Program.panic : Program σ κ α) faults s ↔ P s :=
  Iff.rfl

theorem ends_transaction {ε : Type} {Q : Option ε → σ → Prop} (body : Program σ κ (Option ε)) :
    Ends P Q body.transaction faults s ↔
      Ends (fun _ => P s) (fun err s' => Q err (if err.isSome then s else s')) body faults s := by
  unfold Ends Program.run Program.transaction
  cases body faults s with
  | stopped s' => rfl
  | returned err s' => cases err <;> rfl

variable {program : Program σ κ α}

theorem Ends.mono {P' : σ → Prop} {Q' : α → σ → Prop} (h : Ends P Q program faults s)
    (hP : ∀ s, P s → P' s) (hQ : ∀ value s, Q value s → Q' value s) :
    Ends P' Q' program faults s := by
  unfold Ends at h ⊢
  cases hrun : program.run faults s with
  | stopped s' =>
    rw [hrun] at h
    exact hP s' h
  | returned value s' =>
    rw [hrun] at h
    exact hQ value s' h

theorem not_ends_of_ends_stopped (h : Ends (fun _ => True) (fun _ _ => False) program faults s) :
    ¬ Ends (fun _ => False) Q program faults s := by
  unfold Ends at h ⊢
  cases hrun : program.run faults s with
  | stopped s' => exact id
  | returned value s' =>
    rw [hrun] at h
    exact h.elim

theorem ends_iff_state (program : Program σ κ α) :
    Ends P (fun _ => P) program faults s ↔ P (program.run faults s).state := by
  unfold Ends
  cases program.run faults s <;> rfl

section Calls

variable [DecidableEq κ] {fails : κ → Bool} (site : κ) (part : σ → σ) (effect : σ → Option σ)
  (next error : Program σ κ α)

theorem ends_callPart {Q : Bool → σ → Prop} :
    Ends P Q (Program.callPart site part effect) faults s ↔
      if faults.kill = some site then P (part s)
      else if faults.fails site = true then Q false (part s)
      else (effect s).elim (Q false s) (Q true) := by
  unfold Ends Program.run Program.callPart
  split_ifs
  · rfl
  · rfl
  · cases effect s <;> rfl

theorem ends_call {Q : Bool → σ → Prop} :
    Ends P Q (Program.call site effect) faults s ↔
      if faults.kill = some site then P s
      else if faults.fails site = true then Q false s
      else (effect s).elim (Q false s) (Q true) :=
  ends_callPart site id effect

theorem ends_callPart_ite :
    Ends P Q (Program.callPart site part effect >>= fun ok => if ok = true then next else error)
        faults s ↔
      if faults.kill = some site then P (part s)
      else if faults.fails site = true then Ends P Q error faults (part s)
      else (effect s).elim (Ends P Q error faults s) (Ends P Q next faults) := by
  simp only [ends_bind, ends_callPart, if_true, Bool.false_eq_true, if_false]

theorem ends_call_ite :
    Ends P Q (Program.call site effect >>= fun ok => if ok = true then next else error)
        faults s ↔
      if faults.kill = some site then P s
      else if faults.fails site = true then Ends P Q error faults s
      else (effect s).elim (Ends P Q error faults s) (Ends P Q next faults) :=
  ends_callPart_ite site id effect next error

theorem ends_call_ignore :
    Ends P Q (Program.call site effect >>= fun _ => next) faults s ↔
      if faults.kill = some site then P s
      else if faults.fails site = true then Ends P Q next faults s
      else Ends P Q next faults ((effect s).getD s) := by
  simp only [ends_bind, ends_call]
  cases effect s <;> rfl

theorem ends_callPart_ite_errors :
    Ends P Q (Program.callPart site part effect >>= fun ok => if ok = true then next else error)
        (.errors fails) s ↔
      if fails site = true then Ends P Q error (.errors fails) (part s)
      else
        (effect s).elim (Ends P Q error (.errors fails) s)
          (Ends P Q next (.errors fails)) := by
  rw [ends_callPart_ite, if_neg (by simp [Faults.errors])]
  rfl

theorem ends_call_ite_errors :
    Ends P Q (Program.call site effect >>= fun ok => if ok = true then next else error)
        (.errors fails) s ↔
      if fails site = true then Ends P Q error (.errors fails) s
      else
        (effect s).elim (Ends P Q error (.errors fails) s)
          (Ends P Q next (.errors fails)) :=
  ends_callPart_ite_errors site id effect next error

theorem ends_call_ignore_errors :
    Ends P Q (Program.call site effect >>= fun _ => next) (.errors fails) s ↔
      if fails site = true then Ends P Q next (.errors fails) s
      else Ends P Q next (.errors fails) ((effect s).getD s) := by
  rw [ends_call_ignore, if_neg (by simp [Faults.errors])]
  rfl

end Calls

end Rules

end Bantay.Lib
