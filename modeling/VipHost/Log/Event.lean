import VipHost.Binary64.Decimal
import VipHost.Log.Stamp

/-!
# Log events

Every part of the host says what it does by log events.  Events are returned
with the result of an operation and never read back, so what an operation does
is its value alone (`Logged.value_bind`), and the events of a sequence of
operations are those of its parts in order (`Logged.events_bind`).
-/

namespace VipHost.Log

/-- How severe an event is, from the most severe to the least. -/
inductive Level where
  | error
  | warn
  | info
  | debug
  | trace
deriving DecidableEq, Repr

/-- The place of a level, from `1` for the most severe. -/
def Level.rank : Level → Nat
  | .error => 1
  | .warn => 2
  | .info => 3
  | .debug => 4
  | .trace => 5

/-- The name of a level. -/
def Level.label : Level → String
  | .error => "ERROR"
  | .warn => "WARN"
  | .info => "INFO"
  | .debug => "DEBUG"
  | .trace => "TRACE"

/-- The part of the host that speaks. -/
inductive Source where
  | program
  | settings
  | host
  | loader
  | debugger
  | keyboard
  | machine
  | clock
  | pump
deriving DecidableEq, Repr

/-- The address of a part, by which a filter can choose its events. -/
def Source.address : Source → String
  | .program => "chip8_host"
  | .settings => "chip8_host::config"
  | .host => "chip8_host::driver"
  | .loader => "chip8_host::loader"
  | .debugger => "chip8_host::debug"
  | .keyboard => "chip8_host::input"
  | .machine => "chip8_host::machine"
  | .clock => "chip8_host::timing"
  | .pump => "chip8_host::pump"

/-- One log event. -/
structure Event where
  /-- How severe it is. -/
  level : Level
  /-- Who says it. -/
  source : Source
  /-- What is said. -/
  message : String
  /-- Names and texts of the values it is about, in order. -/
  fields : List (String × String) := []
deriving DecidableEq, Repr

/-- Whether an event is shown when events down to `limit` are asked for. -/
def Event.within (e : Event) (limit : Option Level) : Bool :=
  limit.any fun l => e.level.rank ≤ l.rank

/-- The level as it stands in a log line, where all levels take the same room. -/
def Level.column : Level → String
  | .error => "ERROR"
  | .warn => " WARN"
  | .info => " INFO"
  | .debug => "DEBUG"
  | .trace => "TRACE"

/-- An event as one line: the time in microseconds, the level, the message and
the fields. -/
def Event.line (e : Event) (now : Nat) : String :=
  e.fields.foldl (fun text (name, value) => text ++ " " ++ name ++ "=" ++ value)
    (stamp now ++ " " ++ e.level.column ++ " " ++ e.message)

/-- How time stamps are written in events. -/
def time (x : Binary64) : String := x.toText .short

end VipHost.Log

namespace VipHost

/-- A value together with the events on the way to it. -/
structure Logged (α : Type) where
  /-- The value. -/
  value : α
  /-- The events, oldest first. -/
  events : List Log.Event

namespace Logged

instance : Monad Logged where
  pure a := ⟨a, []⟩
  bind x f := ⟨(f x.value).value, x.events ++ (f x.value).events⟩

@[simp] theorem value_pure {α : Type} (a : α) : (pure a : Logged α).value = a := rfl

@[simp] theorem events_pure {α : Type} (a : α) : (pure a : Logged α).events = [] := rfl

@[simp] theorem value_bind {α β : Type} (x : Logged α) (f : α → Logged β) :
    (x >>= f).value = (f x.value).value := rfl

@[simp] theorem events_bind {α β : Type} (x : Logged α) (f : α → Logged β) :
    (x >>= f).events = x.events ++ (f x.value).events := rfl

@[simp] theorem value_map {α β : Type} (f : α → β) (x : Logged α) :
    (f <$> x).value = f x.value := rfl

/-- Say one thing. -/
def say (e : Log.Event) : Logged Unit := ⟨(), [e]⟩

@[simp] theorem value_say (e : Log.Event) : (say e).value = () := rfl

@[simp] theorem events_say (e : Log.Event) : (say e).events = [e] := rfl

end Logged

end VipHost
