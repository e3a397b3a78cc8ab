/-!
# Colours on a terminal

Whether output has colours: on a terminal it has, unless the user says otherwise in the environment.
-/

namespace Critique.Display

/-- What the environment says about colours. -/
structure ColourWish where
  /-- Colours on a terminal: anything but `0` allows them. -/
  allow : Option String := none
  /-- Colours everywhere: anything but `0` asks for them. -/
  force : Option String := none
  /-- No colours at all, whatever the text. -/
  forbid : Option String := none
  deriving Repr, Inhabited

/-- Does the output have colours? -/
def ColourWish.decide (w : ColourWish) (onTerminal : Bool) : Bool :=
  if w.force.any (· != "0") then true
  else if w.forbid.isSome then false
  else onTerminal && w.allow.all (· != "0")

end Critique.Display
