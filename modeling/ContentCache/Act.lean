import ContentCache.World

/-!
# Acts

An act is work in a world: it reads the world, extends the journal, and ends in a value or comes to a
halt, by a failure or because the deadline was reached. The journal is kept whatever the end is.

* `Act`: the monad of acts. An act that has come to a halt is not continued.
* `Act.settle`, `Act.conclude`: turn the end of an act into a value, and back.
* `Act.within`: gives an act a deadline, and turns the interruption into a failure.

Main statements: `bind_of_ok` and `bind_of_halt` (how two acts follow each other), `settle_apply`.
-/

namespace ContentCache

/-- Why an act does not end in a value. -/
inductive Halt where
  | failed (f : Failure)
  /-- The deadline was reached. -/
  | interrupted
  deriving DecidableEq, Repr

/-- Work in a world, which extends the journal. -/
def Act (α : Type) : Type := World → Journal → Except Halt α × Journal

namespace Act

variable {α β : Type}

/-- One act after the other; a halt ends both. -/
def andThen (a : Act α) (f : α → Act β) : Act β := fun w j =>
  match a w j with
  | (.ok x, j) => f x w j
  | (.error h, j) => (.error h, j)

instance : Monad Act where
  pure a := fun _ j => (.ok a, j)
  bind := andThen

@[simp] theorem pure_apply (a : α) (w : World) (j : Journal) : (pure a : Act α) w j = (.ok a, j) := rfl

theorem bind_of_ok {a : Act α} {f : α → Act β} {w : World} {j k : Journal} {x : α}
    (h : a w j = (.ok x, k)) : (a >>= f) w j = f x w k := by
  show andThen a f w j = _
  simp [andThen, h]

theorem bind_of_halt {a : Act α} {f : α → Act β} {w : World} {j k : Journal} {x : Halt}
    (h : a w j = (.error x, k)) : (a >>= f) w j = (.error x, k) := by
  show andThen a f w j = _
  simp [andThen, h]

instance : LawfulMonad Act := LawfulMonad.mk' Act
  (fun a => by
    funext w j
    show andThen a _ w j = a w j
    unfold andThen
    split
    · rename_i h; rw [h]; rfl
    · rename_i h; rw [h])
  (fun _ _ => rfl)
  (fun a f g => by
    funext w j
    show andThen (andThen a f) g w j = andThen a (fun x => andThen (f x) g) w j
    unfold andThen
    cases a w j with
    | mk r k => cases r <;> rfl)

/-! ## Ends -/

/-- Work that cannot come to a halt. -/
def ofRun (f : World → Journal → α × Journal) : Act α := fun w j => (.ok (f w j).1, (f w j).2)

def fail (f : Failure) : Act α := fun _ j => (.error (.failed f), j)

/-- Ends in a value, or as an act has ended. -/
def conclude (r : Except Halt α) : Act α := fun _ j => (r, j)

/-- Ends in a value or a failure. -/
def ofExcept : Except Failure α → Act α
  | .ok a => pure a
  | .error f => fail f

/-- Goes on with the end of an act, whatever it is. -/
def settle (a : Act α) : Act (Except Halt α) := ofRun a

@[simp] theorem ofRun_apply (f : World → Journal → α × Journal) (w : World) (j : Journal) :
    ofRun f w j = (.ok (f w j).1, (f w j).2) := rfl

@[simp] theorem fail_apply (f : Failure) (w : World) (j : Journal) :
    (fail f : Act α) w j = (.error (.failed f), j) := rfl

@[simp] theorem conclude_apply (r : Except Halt α) (w : World) (j : Journal) :
    conclude r w j = (r, j) := rfl

@[simp] theorem ofExcept_apply (r : Except Failure α) (w : World) (j : Journal) :
    ofExcept r w j = (r.mapError .failed, j) := by
  cases r <;> rfl

@[simp] theorem settle_apply (a : Act α) (w : World) (j : Journal) :
    settle a w j = (.ok (a w j).1, (a w j).2) := rfl

/-! ## Observing -/

/-- What can be seen now. -/
def look (f : World → Journal → α) : Act α := ofRun fun w j => (f w j, j)

def note (f : Journal → Journal) : Act Unit := ofRun fun _ j => ((), f j)

def count (f : Counters → Counters) : Act Unit := note fun j => { j with counters := f j.counters }

/-- Tells a listener, when there is one. -/
def tell (narrated : Bool) (e : CacheEvent) : Act Unit :=
  note fun j => if narrated then { j with events := j.events ++ [e] } else j

def say (level : LogLevel) (message : String) : Act Unit :=
  note fun j => { j with log := j.log ++ [⟨level, message⟩] }

def wait (s : Time.Span) : Act Unit :=
  note fun j => { j with elapsed := j.elapsed.plus s, waits := j.waits ++ [s] }

/-! ## Deadlines -/

/-- The end of an act whose deadline lay at a limit. -/
def ofDeadline (limit : Time.Span) : Except Halt α → Except Halt α
  | .error .interrupted => .error (.failed (.deadlineExceeded limit))
  | r => r

/-- Gives an act a limit of time, when there is one. -/
def within (limit : Option Time.Span) (a : Act α) : Act α :=
  match limit with
  | none => a
  | some limit => fun w j =>
    let (r, k) := a { w with deadline := some (j.elapsed.plus limit) } j
    (ofDeadline limit r, k)

end Act

end ContentCache
