import VipHost.Keypad.Key
import VipHost.Text.Quoted

/-!
# Keyboard layouts

A layout says which keyboard character stands for which key of the keypad.  The
case of ASCII letters does not matter.  The *literal* layout uses the digit on
the key, the *conventional* one the left hand side of a typewriter keyboard:

    1 2 3 4        1 2 3 C
    q w e r   =>   4 5 6 D
    a s d f        7 8 9 E
    z x c v        A 0 B F
-/

namespace VipHost

/-- Which characters stand for the keys. -/
inductive Layout where
  | conventional
  | literal
deriving DecidableEq, Repr, Inhabited

namespace Layout

/-- The characters of a layout, by the number of the key. -/
def faces : Layout → Vector Char 16
  | .conventional =>
    #v['x', '1', '2', '3', 'q', 'w', 'e', 'a', 's', 'd', 'z', 'c', '4', 'r', 'f', 'v']
  | .literal =>
    #v['0', '1', '2', '3', '4', '5', '6', '7', '8', '9', 'a', 'b', 'c', 'd', 'e', 'f']

/-- The character that stands for a key. -/
def face (l : Layout) (k : Key) : Char := l.faces.get k.digit

/-- The key a character stands for, if any. -/
def key? (l : Layout) (c : Char) : Option Key :=
  Key.all.find? fun k => l.face k = c.toLower

/-- The names of the layouts are written in lower case. -/
def name : Layout → String
  | .conventional => "conventional"
  | .literal => "literal"

/-- The layout with exactly this name. -/
def ofName? (s : String) : Option Layout :=
  if s = conventional.name then some .conventional
  else if s = literal.name then some .literal
  else none

/-- A name no layout has, with its ASCII letters in lower case. -/
structure Unknown where
  /-- The name asked for. -/
  name : String
deriving DecidableEq, Repr

/-- What is said about an unknown layout. -/
def Unknown.message (u : Unknown) : String :=
  "unknown key layout " ++ Text.quoted u.name ++ ", expected conventional or literal"

/-- The layout a user asks for; the case of ASCII letters does not matter. -/
def ofText (s : String) : Except Unknown Layout :=
  let lowered := String.ofList (s.toList.map Char.toLower)
  match ofName? lowered with
  | some l => .ok l
  | none => .error ⟨lowered⟩

theorem ofName?_name (l : Layout) : ofName? l.name = some l := by
  cases l <;> rfl

/-- Every key can be typed. -/
theorem key?_face (l : Layout) (k : Key) : l.key? (l.face k) = some k := by
  obtain ⟨i⟩ := k
  revert i
  cases l <;> decide

end Layout

end VipHost
