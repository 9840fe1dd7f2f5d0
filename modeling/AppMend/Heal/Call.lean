import AppMend.Heal.Schedule

/-!
# Heals that are called one by one

Each call of a heal brings its own prompt and files and can be called off by itself, at any time. A call
that is dropped never goes on: it gives its lease back, and what it had of the preview.
-/

namespace AppMend

structure HealCall where
  heal : Heal
  prompt : String
  files : FileSet
  /-- Whether it was called off. -/
  cancelled : Bool := false
  /-- Whether it was dropped. -/
  dropped : Bool := false

namespace HealCall

/-- What a call meets from outside, with what it brings. -/
def world (w : HealWorld) (k : HealCall) : HealWorld := { w with prompt := k.prompt, files := k.files }

/-- What is shared, as a call sees it: nobody but itself is called off. -/
def view (k : HealCall) (x : HealShared) : HealShared :=
  { x with stopped := k.cancelled, service := { x.service with calledOff := false } }

/-- What is shared after a step. Whether the call was called off meanwhile is not. -/
def share (x y : HealShared) : HealShared :=
  { y with stopped := x.stopped, service := { y.service with calledOff := x.service.calledOff } }

/-- The next step of a call, unless it has to wait or is over. -/
def step? (w : HealWorld) (now : Nat) (x : HealShared) (k : HealCall) : Option (HealCall × HealShared) :=
  if k.dropped then none
  else
    (k.heal.step? (k.world w) now (k.view x)).map fun (heal, y) =>
      ({ k with heal, cancelled := y.calledOff }, share x y)

def cancel (k : HealCall) : HealCall := { k with cancelled := true }

/-- What is shared after a call was dropped. -/
def letGo (k : HealCall) (x : HealShared) : HealShared :=
  match k.heal.activity with
  | .unstarted | .ended _ => x
  | .ready s | .awaiting s .. => { x with registry := x.registry.release s.name }
  | .rendering s _ _ _ call phase =>
    { x with
      service := x.service.drop call phase
      registry := x.registry.release s.name }

/-- Drops a call, unless that was done. -/
def drop? (x : HealShared) (k : HealCall) : Option (HealCall × HealShared) :=
  if k.dropped then none else some ({ k with dropped := true }, k.letGo x)

end HealCall

end AppMend
