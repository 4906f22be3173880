import VipHost.Keypad.Layout

/-!
# Events of a terminal keyboard

What a terminal reports about its keyboard, and what the host is asked to do.
-/

namespace VipHost

/-- Keys for what a computer plays. -/
inductive MediaKey where
  | play
  | pause
  | playPause
  | reverse
  | stop
  | fastForward
  | rewind
  | trackNext
  | trackPrevious
  | record
  | lowerVolume
  | raiseVolume
  | muteVolume
deriving DecidableEq, Repr

/-- The name of a media key. -/
def MediaKey.name : MediaKey → String
  | .play => "Play"
  | .pause => "Pause"
  | .playPause => "PlayPause"
  | .reverse => "Reverse"
  | .stop => "Stop"
  | .fastForward => "FastForward"
  | .rewind => "Rewind"
  | .trackNext => "TrackNext"
  | .trackPrevious => "TrackPrevious"
  | .record => "Record"
  | .lowerVolume => "LowerVolume"
  | .raiseVolume => "RaiseVolume"
  | .muteVolume => "MuteVolume"

/-- Keys that modify others, reported by themselves. -/
inductive ModifierKey where
  | leftShift
  | leftControl
  | leftAlt
  | leftSuper
  | leftHyper
  | leftMeta
  | rightShift
  | rightControl
  | rightAlt
  | rightSuper
  | rightHyper
  | rightMeta
  | isoLevel3Shift
  | isoLevel5Shift
deriving DecidableEq, Repr

/-- The name of a modifier key. -/
def ModifierKey.name : ModifierKey → String
  | .leftShift => "LeftShift"
  | .leftControl => "LeftControl"
  | .leftAlt => "LeftAlt"
  | .leftSuper => "LeftSuper"
  | .leftHyper => "LeftHyper"
  | .leftMeta => "LeftMeta"
  | .rightShift => "RightShift"
  | .rightControl => "RightControl"
  | .rightAlt => "RightAlt"
  | .rightSuper => "RightSuper"
  | .rightHyper => "RightHyper"
  | .rightMeta => "RightMeta"
  | .isoLevel3Shift => "IsoLevel3Shift"
  | .isoLevel5Shift => "IsoLevel5Shift"

/-- Keys of a keyboard that have no character. -/
inductive NamedKey where
  | enter
  | esc
  | backspace
  | tab
  | backTab
  | delete
  | insert
  | left
  | right
  | up
  | down
  | home
  | last
  | pageUp
  | pageDown
  | null
  | menu
  | pause
  | capsLock
  | scrollLock
  | numLock
  | printScreen
  | keypadBegin
  | media (k : MediaKey)
  | modifier (k : ModifierKey)
deriving DecidableEq, Repr

/-- The name of a key. -/
def NamedKey.name : NamedKey → String
  | .enter => "Enter"
  | .esc => "Esc"
  | .backspace => "Backspace"
  | .tab => "Tab"
  | .backTab => "BackTab"
  | .delete => "Delete"
  | .insert => "Insert"
  | .left => "Left"
  | .right => "Right"
  | .up => "Up"
  | .down => "Down"
  | .home => "Home"
  | .last => "End"
  | .pageUp => "PageUp"
  | .pageDown => "PageDown"
  | .null => "Null"
  | .menu => "Menu"
  | .pause => "Pause"
  | .capsLock => "CapsLock"
  | .scrollLock => "ScrollLock"
  | .numLock => "NumLock"
  | .printScreen => "PrintScreen"
  | .keypadBegin => "KeypadBegin"
  | .media k => "Media(" ++ k.name ++ ")"
  | .modifier k => "Modifier(" ++ k.name ++ ")"

/-- The keys with a name that every keyboard has. -/
def NamedKey.all : List NamedKey :=
  [.enter, .esc, .backspace, .tab, .backTab, .delete, .insert, .left, .right, .up, .down,
    .home, .last, .pageUp, .pageDown, .null, .menu, .pause]

/-- A key of a keyboard. -/
inductive KeyCode where
  /-- A key with a character. -/
  | char (c : Char)
  /-- A function key. -/
  | function (n : UInt8)
  /-- A key with a name. -/
  | named (k : NamedKey)
deriving DecidableEq, Repr

/-- A key as log events show it. -/
def KeyCode.details : KeyCode → String
  | .char c => "Char(" ++ Text.quotedChar c ++ ")"
  | .function n => "F(" ++ toString n ++ ")"
  | .named k => k.name

/-- The key of the keypad that a key of the keyboard stands for; only keys with
a character stand for one. -/
def Layout.keyOfCode? (l : Layout) : KeyCode → Option Key
  | .char c => l.key? c
  | _ => none

/-- What happened to a key. -/
inductive KeyAction where
  | press
  | repeated
  | release
deriving DecidableEq, Repr

/-- The keys held down together with a key. -/
structure Modifiers where
  /-- Control. -/
  control : Bool := false
  /-- Shift. -/
  shift : Bool := false
  /-- Alt. -/
  alt : Bool := false
  /-- Super. -/
  superKey : Bool := false
  /-- Hyper. -/
  hyper : Bool := false
  /-- Meta. -/
  metaKey : Bool := false
deriving DecidableEq, Repr, Inhabited

/-- One event of the keyboard. -/
structure KeyEvent where
  /-- The key. -/
  code : KeyCode
  /-- What happened to it. -/
  action : KeyAction := .press
  /-- The keys held down with it. -/
  modifiers : Modifiers := {}
deriving DecidableEq, Repr

/-- What the host is asked to do. -/
inductive HostEvent where
  /-- A key that may stand for one of the keypad. -/
  | key (c : Char) (state : KeyState)
  /-- Start the pump. -/
  | start
  /-- Switch the machine off and on. -/
  | reset
  /-- Load the last program file again. -/
  | reload
  /-- Show the registers. -/
  | dumpRegisters
  /-- Stop. -/
  | quit
deriving DecidableEq, Repr

end VipHost
