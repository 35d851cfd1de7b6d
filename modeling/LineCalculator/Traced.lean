import LineCalculator.Log

/-!
# Traced work

Work on a line either succeeds or ends with a fault, and in both cases it has
recorded events on the way.  A step that follows a fault is not taken; a step
that follows a success adds its events behind the earlier ones.
-/

namespace LineCalculator

structure Traced (α : Type) where
  events : List Event
  outcome : Except Fault α

namespace Traced

variable {α β : Type}

def pure (result : α) : Traced α :=
  ⟨[], .ok result⟩

def bind (first : Traced α) (next : α → Traced β) : Traced β :=
  match first.outcome with
  | .error fault => ⟨first.events, .error fault⟩
  | .ok result =>
      let later := next result
      ⟨first.events ++ later.events, later.outcome⟩

instance : Monad Traced where
  pure := Traced.pure
  bind := Traced.bind

def note (event : Event) : Traced Unit :=
  ⟨[event], .ok ()⟩

/-- Work that records nothing. -/
def silent (outcome : Except Fault α) : Traced α :=
  ⟨[], outcome⟩

@[simp] theorem pure_events (result : α) :
    (Pure.pure result : Traced α).events = [] := rfl

@[simp] theorem pure_outcome (result : α) :
    (Pure.pure result : Traced α).outcome = .ok result := rfl

theorem bind_of_ok {first : Traced α} {result : α} (next : α → Traced β)
    (hfirst : first.outcome = .ok result) :
    first >>= next =
      ⟨first.events ++ (next result).events, (next result).outcome⟩ := by
  change first.bind next = _
  simp [bind, hfirst]

theorem bind_of_error {first : Traced α} {fault : Fault} (next : α → Traced β)
    (hfirst : first.outcome = .error fault) :
    first >>= next = ⟨first.events, .error fault⟩ := by
  change first.bind next = _
  simp [bind, hfirst]

end Traced

end LineCalculator
