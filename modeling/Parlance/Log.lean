/-!
# Log records

What a run reports beside its result: warnings, and errors that are reported before the run fails.
`Logged` is a computation that may fail and keeps its records either way.
-/

namespace Parlance

/-- How grave a record is. -/
inductive LogLevel where
  | warning
  | error
deriving DecidableEq, Repr

/-- Which part of the program a record is from. -/
inductive LogSource where
  | depthGuard
  | config
  | message
  | generator
  | formatting
deriving DecidableEq, Repr

namespace LogLevel

/-- The word for a level. -/
def name : LogLevel → String
  | warning => "WARNING"
  | error => "ERROR"

end LogLevel

namespace LogSource

/-- The name of a source in a log. -/
def name : LogSource → String
  | depthGuard => "arbgen.core.depth_guard"
  | config => "arbgen.config"
  | message => "arbgen.model.message"
  | generator => "arbgen.generator"
  | formatting => "arbgen.runtime.formatting"

end LogSource

/-- A record of a log. -/
structure LogRecord where
  level : LogLevel
  source : LogSource
  text : String
deriving DecidableEq, Repr

namespace LogRecord

/-- A record as one line of a log. -/
def line (r : LogRecord) : String := s!"{r.level.name} {r.source.name}: {r.text}"

end LogRecord

/-- A result or a failure, with the records written on the way to it. -/
structure Logged (ε α : Type) where
  result : Except ε α
  logs : List LogRecord

namespace Logged

variable {ε α β : Type}

/-- A result without records. -/
def pure (a : α) : Logged ε α := ⟨.ok a, []⟩

/-- A failure without records. -/
def throw (e : ε) : Logged ε α := ⟨.error e, []⟩

/-- A result or failure without records. -/
def ofExcept (r : Except ε α) : Logged ε α := ⟨r, []⟩

/-- One record. -/
def log (r : LogRecord) : Logged ε Unit := ⟨.ok (), [r]⟩

/-- Goes on with the result of a computation, and not at all after a failure. -/
def bind (x : Logged ε α) (f : α → Logged ε β) : Logged ε β :=
  match x.result with
  | .error e => ⟨.error e, x.logs⟩
  | .ok a => ⟨(f a).result, x.logs ++ (f a).logs⟩

instance : Monad (Logged ε) where
  pure := Logged.pure
  bind := Logged.bind

/-- Another type of failure. -/
def mapError {δ : Type} (f : ε → δ) (x : Logged ε α) : Logged δ α :=
  ⟨x.result.mapError f, x.logs⟩

/-- One computation for each item, in order. -/
def traverse (f : α → Logged ε β) : List α → Logged ε (List β)
  | [] => pure []
  | a :: rest => bind (f a) fun b => bind (traverse f rest) fun bs => pure (b :: bs)

end Logged

end Parlance
