import FormLang.Expr.Error

/-!
# Runs

A run is what an evaluation leaves behind: the calls that it made, in order, and a value or the
failure that ended it. Runs are put one after another (`Run.bind`); a failure ends all
(`bind_of_error`), and it does not matter how three runs are grouped (`bind_assoc`).
-/

namespace FormLang

/-- What is recorded of a call: its start with the cast arguments, or its end with the cast result. -/
inductive Event where
  | before (path : Path) (function : Builtin) (args : List Value)
  | after (path : Path) (function : Builtin) (args : List Value) (result : Value)

/-- The calls that an evaluation made, and how it ended. -/
structure Run (α : Type) where
  events : List Event
  outcome : Except Failure α

namespace Run

variable {α β : Type}

/-- A run that makes no call and ends with a value. -/
def done (a : α) : Run α := ⟨[], .ok a⟩

/-- A run that makes no call and fails. -/
def fail (path : Path) (cause : Cause) : Run α := ⟨[], .error ⟨cause, path⟩⟩

/-- A run that makes no call and ends with a result that is found at a path. -/
def ofExcept {ε : Type} (path : Path) (toCause : ε → Cause) : Except ε α → Run α
  | .ok a => done a
  | .error e => fail path (toCause e)

/-- A run that records one event. -/
def emit (event : Event) : Run Unit := ⟨[event], .ok ()⟩

/-- A run followed by another, which depends on the value of the first. -/
def bind (r : Run α) (next : α → Run β) : Run β :=
  match r.outcome with
  | .ok a => ⟨r.events ++ (next a).events, (next a).outcome⟩
  | .error failure => ⟨r.events, .error failure⟩

instance : Monad Run where
  pure := done
  bind := bind

@[simp] theorem outcome_pure (a : α) : (pure a : Run α).outcome = .ok a := rfl

@[simp] theorem events_pure (a : α) : (pure a : Run α).events = [] := rfl

@[simp] theorem outcome_ofExcept {ε : Type} (path : Path) (toCause : ε → Cause) (x : Except ε α) :
    (ofExcept path toCause x).outcome = x.mapError fun e => ⟨toCause e, path⟩ := by
  cases x <;> rfl

@[simp] theorem outcome_bind (r : Run α) (next : α → Run β) :
    (r >>= next).outcome = r.outcome.bind fun a => (next a).outcome := by
  change (r.bind next).outcome = _
  cases h : r.outcome <;> simp [bind, h, Except.bind]

/-- What follows a value adds its calls and ends the run. -/
theorem bind_of_ok {r : Run α} {a : α} (h : r.outcome = .ok a) (next : α → Run β) :
    r >>= next = ⟨r.events ++ (next a).events, (next a).outcome⟩ := by
  change r.bind next = _
  simp [bind, h]

/-- Nothing follows a failure. -/
theorem bind_of_error {r : Run α} {failure : Failure} (h : r.outcome = .error failure)
    (next : α → Run β) : r >>= next = ⟨r.events, .error failure⟩ := by
  change r.bind next = _
  simp [bind, h]

/-- Three runs one after another, however they are grouped. -/
theorem bind_assoc {γ : Type} (r : Run α) (next : α → Run β) (last : β → Run γ) :
    r >>= next >>= last = r >>= fun a => next a >>= last := by
  change (r.bind next).bind last = r.bind fun a => (next a).bind last
  cases h : r.outcome with
  | error failure => simp [bind, h]
  | ok a => cases h' : (next a).outcome <;> simp [bind, h, h']

end Run

end FormLang
