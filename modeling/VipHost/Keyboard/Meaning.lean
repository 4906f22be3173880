import VipHost.Keyboard.Hold
import VipHost.Keyboard.KeyEvent
import VipHost.Log.Event

/-!
# What a keyboard event asks for

A press of a command key is a command; a repeat of it is not.  Control-C and
Escape quit even when repeated.  All other characters go to the keypad.  Where
the terminal reports releases there is no hold: a press and a release are
passed on, and repeats are dropped.  With a hold, presses and repeats renew it,
only the first of them is passed on, and a reported release means nothing.
Resetting and reloading clear the keypad, so the hold forgets its characters.
-/

namespace VipHost

/-- The command of a key other than quitting. -/
def KeyCode.command? : KeyCode → Option HostEvent
  | .named .enter => some .start
  | .char ' ' => some .start
  | .named .backspace => some .reset
  | .function 5 => some .reload
  | .function 2 => some .dumpRegisters
  | _ => none

/-- Whether a key quits. -/
def KeyEvent.quits (e : KeyEvent) : Bool :=
  match e.code with
  | .named .esc => true
  | .char 'c' => e.modifiers.control
  | _ => false

/-- Whether a command clears the keypad. -/
def HostEvent.clearsKeypad : HostEvent → Bool
  | .reset => true
  | .reload => true
  | _ => false

namespace KeyEvent

/-- An event for the character of a release, where releases are reported. -/
def releaseMeaning (e : KeyEvent) (hold : Option Hold) : Option HostEvent :=
  match e.code, hold with
  | .char c, none => some (.key c .released)
  | _, _ => none

/-- What a press or repeat of a character is passed on as, and the hold after
it. -/
def charMeaning (c : Char) (repeated : Bool) (hold : Option Hold) (now : Nat) :
    Option HostEvent × Option Hold :=
  match hold with
  | some h =>
    let (fresh, h) := h.press c now
    (if fresh then some (.key c .pressed) else none, some h)
  | none => (if repeated then none else some (.key c .pressed), none)

/-- What a keyboard event asks for, and the hold after it. -/
def meaning (e : KeyEvent) (hold : Option Hold) (now : Nat) :
    Logged (Option HostEvent × Option Hold) :=
  if e.action = .release then return (e.releaseMeaning hold, hold)
  else if e.quits then return (some .quit, hold)
  else
    let repeated : Bool := e.action = .repeated
    match if repeated then none else e.code.command? with
    | some command =>
      return (some command, if command.clearsKeypad then hold.map Hold.clear else hold)
    | none =>
      match e.code with
      | .char c => return charMeaning c repeated hold now
      | code => do
        Logged.say
          { level := .trace, source := .keyboard, message := "unhandled key"
            fields := [("code", code.details)] }
        return (none, hold)

end KeyEvent

end VipHost
