import RenamePlan.Text.Upper

/-!
Log records: what the planner tells about its work.

Operations that log return their records beside their result, oldest first (`Logged`).  Where the
records go is the business of the loggers.
-/

namespace RenamePlan

/-- How grave a record is. -/
inductive Level where
  | debug
  | info
  | warning
  | error
  | critical
deriving DecidableEq, Repr

namespace Level

/-- The levels, the gravest last. -/
def all : List Level := [debug, info, warning, error, critical]

/-- The word for the level. -/
def word : Level → Text
  | debug => "DEBUG".toList
  | info => "INFO".toList
  | warning => "WARNING".toList
  | error => "ERROR".toList
  | critical => "CRITICAL".toList

/-- The place of the level on the numeric scale. -/
def severity : Level → Nat
  | debug => 10
  | info => 20
  | warning => 30
  | error => 40
  | critical => 50

/-- The level that a text names in any mixture of cases. -/
def ofText? (t : Text) : Option Level :=
  all.find? fun level => level.word == upper t

theorem ofText?_word (level : Level) : ofText? level.word = some level := by
  cases level <;> decide +kernel

end Level

/-- The part of the library that a record comes from. -/
inductive Channel where
  | usages
  | edits
  | symbols
  | planner
  | profile
  | reports
deriving DecidableEq, Repr

/-- The name of the logger above all channels. -/
def packageLogger : Text := "vbrename".toList

/-- The dotted name of the channel's logger. -/
def Channel.logger : Channel → Text
  | usages => "vbrename.core.references".toList
  | edits => "vbrename.core.replacements".toList
  | symbols => "vbrename.core.symbol_table".toList
  | planner => "vbrename.core.engine".toList
  | profile => "vbrename.core.config".toList
  | reports => "vbrename.core.export".toList

/-- One log record. -/
structure Record where
  level : Level
  channel : Channel
  message : String
deriving DecidableEq, Repr

/-- A result with the records made on the way to it, oldest first. -/
structure Logged (α : Type) where
  value : α
  log : List Record := []
deriving Repr

namespace Logged

/-- Goes on with the value, keeping the records of both steps in order. -/
def andThen {α β : Type} (first : Logged α) (next : α → Logged β) : Logged β :=
  let second := next first.value
  ⟨second.value, first.log ++ second.log⟩

/-- Changes the value and keeps the records. -/
def map {α β : Type} (f : α → β) (step : Logged α) : Logged β :=
  ⟨f step.value, step.log⟩

@[simp] theorem value_andThen {α β : Type} (first : Logged α) (next : α → Logged β) :
    (first.andThen next).value = (next first.value).value := rfl

@[simp] theorem log_andThen {α β : Type} (first : Logged α) (next : α → Logged β) :
    (first.andThen next).log = first.log ++ (next first.value).log := rfl

@[simp] theorem value_map {α β : Type} (f : α → β) (step : Logged α) :
    (step.map f).value = f step.value := rfl

@[simp] theorem log_map {α β : Type} (f : α → β) (step : Logged α) :
    (step.map f).log = step.log := rfl

end Logged

/-- What an operation on a state leaves that may fail half-way: the state, the result or the fault,
and the records made on the way, oldest first. -/
structure Outcome (σ ε α : Type) where
  state : σ
  result : Except ε α
  log : List Record := []

/-- The same outcome for a state of which the old one is a part. -/
def Outcome.mapState {σ τ ε α : Type} (f : σ → τ) (outcome : Outcome σ ε α) : Outcome τ ε α :=
  ⟨f outcome.state, outcome.result, outcome.log⟩

end RenamePlan
