set_option autoImplicit false

-- Two slots of one type, selected by a flag.
structure PingPong (α : Type) where
  ping : α
  pong : α
deriving DecidableEq, Repr

namespace PingPong

variable {α : Type}

def get (pair : PingPong α) : Bool → α
  | false => pair.ping
  | true => pair.pong

def set (pair : PingPong α) (side : Bool) (value : α) : PingPong α :=
  match side with
  | false => { pair with ping := value }
  | true => { pair with pong := value }

def const (value : α) : PingPong α := ⟨value, value⟩

@[simp] theorem get_const (value : α) (side : Bool) : (const value).get side = value := by
  cases side <;> rfl

@[simp] theorem get_set_same (pair : PingPong α) (side : Bool) (value : α) : (pair.set side value).get side = value := by
  cases side <;> rfl

@[simp] theorem get_set_other (pair : PingPong α) (side : Bool) (value : α) :
    (pair.set side value).get (!side) = pair.get (!side) := by
  cases side <;> rfl

@[simp] theorem get_set_flipped (pair : PingPong α) (side : Bool) (value : α) :
    (pair.set (!side) value).get side = pair.get side := by
  cases side <;> rfl

theorem get_set (pair : PingPong α) (side other : Bool) (value : α) :
    (pair.set side value).get other = if other = side then value else pair.get other := by
  cases side <;> cases other <;> rfl

end PingPong
