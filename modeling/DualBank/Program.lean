/-! Programs that ask their surroundings. A program is the tree of everything it may ask and of
how it goes on after each possible answer, so a fault, a lost power supply or a second program
running beside it are all ways of answering, and none of them needs a second program text. -/

namespace DualBank

structure Interface where
  Call : Type
  Reply : Call → Type

inductive Program (interface : Interface) (α : Type) : Type where
  | done (value : α)
  | ask (call : interface.Call) (next : interface.Reply call → Program interface α)

namespace Program

variable {interface : Interface} {α β γ : Type}

def bind : Program interface α → (α → Program interface β) → Program interface β
  | .done value, continuation => continuation value
  | .ask call next, continuation => .ask call fun reply => (next reply).bind continuation

instance : Monad (Program interface) where
  pure := .done
  bind := bind

def run {σ : Type} (answer : (call : interface.Call) → σ → interface.Reply call × σ) :
    Program interface α → σ → α × σ
  | .done value, state => (value, state)
  | .ask call next, state =>
      let (reply, state) := answer call state
      (next reply).run answer state

@[simp]
theorem done_bind (value : α) (continuation : α → Program interface β) :
    (done value).bind continuation = continuation value := rfl

@[simp]
theorem ask_bind (call : interface.Call) (next : interface.Reply call → Program interface α)
    (continuation : α → Program interface β) :
    (ask call next).bind continuation = .ask call fun reply => (next reply).bind continuation := rfl

@[simp]
theorem pure_eq_done (value : α) : (pure value : Program interface α) = .done value := rfl

@[simp]
theorem bind_eq (program : Program interface α) (continuation : α → Program interface β) :
    program >>= continuation = program.bind continuation := rfl

theorem bind_done (program : Program interface α) : program.bind .done = program := by
  induction program with
  | done value => rfl
  | ask call next ih => simp only [ask_bind, ih]

theorem bind_assoc (program : Program interface α) (first : α → Program interface β)
    (second : β → Program interface γ) :
    (program.bind first).bind second = program.bind fun value => (first value).bind second := by
  induction program with
  | done value => rfl
  | ask call next ih => simp only [ask_bind, ih]

instance : LawfulMonad (Program interface) :=
  LawfulMonad.mk' _ bind_done (fun _ _ => rfl) bind_assoc

theorem run_bind {σ : Type} (answer : (call : interface.Call) → σ → interface.Reply call × σ)
    (program : Program interface α) (continuation : α → Program interface β) (state : σ) :
    (program.bind continuation).run answer state =
      (continuation (program.run answer state).1).run answer (program.run answer state).2 := by
  induction program generalizing state with
  | done value => rfl
  | ask call next ih => exact ih (answer call state).1 (answer call state).2

end Program

end DualBank
