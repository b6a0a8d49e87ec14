/-
# Programs that ask

A program either has its value or asks a question of an interface and goes on with the
answer.  Everything that decides by asking, from a lifecycle operation down to the
statements sent to a database, is a program, so that one definition is run, counted
and interleaved with others.  `Program.interpret` answers the questions of one interface
by programs over another.
-/

namespace ServiceBroker

/-- Calls that a program can make, each with the type of its answer. -/
structure Interface where
  Call : Type
  Answer : Call → Type

/-- A program over an interface. -/
inductive Program (I : Interface) (α : Type) : Type where
  | done (value : α)
  | ask (call : I.Call) (next : I.Answer call → Program I α)

namespace Program

/-- One program after another. -/
protected def bind {I : Interface} {α β : Type} (p : Program I α) (f : α → Program I β) :
    Program I β :=
  match p with
  | done value => f value
  | ask call next => ask call fun answer => (next answer).bind f

instance {I : Interface} : Monad (Program I) where
  pure := done
  bind := Program.bind

/-- A single question. -/
def call {I : Interface} (c : I.Call) : Program I (I.Answer c) := ask c done

/-- A question whose answer may be an error. -/
def attempt {I : Interface} {ε α : Type} (c : I.Call) (h : I.Answer c = Except ε α := by rfl) :
    ExceptT ε (Program I) α :=
  ExceptT.mk (ask c fun answer => done (h ▸ answer))

/-- The program with every question answered by a program over another interface. -/
def interpret {I J : Interface} {α : Type} (answer : (c : I.Call) → Program J (I.Answer c)) :
    Program I α → Program J α
  | done value => done value
  | ask c next => (answer c).bind fun a => (next a).interpret answer

/-- The program with every question answered in a monad. -/
def run {I : Interface} {m : Type → Type} [Monad m] {α : Type}
    (answer : (c : I.Call) → m (I.Answer c)) : Program I α → m α
  | done value => pure value
  | ask c next => do (next (← answer c)).run answer

/-- Nothing is left to do after a program that is done. -/
theorem bind_done {I : Interface} {α : Type} (p : Program I α) : p.bind done = p := by
  induction p with
  | done => rfl
  | ask c next ih => simp only [Program.bind, ih]

/-- Three programs one after another need no brackets. -/
theorem bind_bind {I : Interface} {α β γ : Type} (p : Program I α) (f : α → Program I β)
    (g : β → Program I γ) : (p.bind f).bind g = p.bind fun a => (f a).bind g := by
  induction p with
  | done => rfl
  | ask c next ih => simp only [Program.bind, ih]

instance {I : Interface} : LawfulMonad (Program I) := LawfulMonad.mk'
  (Program I)
  (fun p => bind_done p)
  (fun _ _ => rfl)
  (fun p f g => bind_bind p f g)

end Program
end ServiceBroker
