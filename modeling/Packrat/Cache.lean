/-! A map of bounded size. When it is full, the entry that was used least recently makes
room for a new one. -/
namespace Packrat

structure Cache (Key Value : Type) where
  capacity : Nat
  entries : List (Key × Value) := []
  hits : Nat := 0
  misses : Nat := 0
  evictions : Nat := 0

namespace Cache

variable {Key Value : Type} [DecidableEq Key]

def ofCapacity (n : Nat) : Cache Key Value := { capacity := max n 1 }

def find? (c : Cache Key Value) (key : Key) : Option Value :=
  (c.entries.find? fun e => e.1 = key).map (·.2)

def without (c : Cache Key Value) (key : Key) : List (Key × Value) :=
  c.entries.filter fun e => e.1 ≠ key

def get (c : Cache Key Value) (key : Key) : Option Value × Cache Key Value :=
  match c.find? key with
  | some value => (some value, { c with entries := (key, value) :: c.without key, hits := c.hits + 1 })
  | none => (none, { c with misses := c.misses + 1 })

def insert (c : Cache Key Value) (key : Key) (value : Value) : Cache Key Value :=
  match c.find? key with
  | some _ => { c with entries := (key, value) :: c.without key }
  | none =>
    if c.entries.length < c.capacity then { c with entries := (key, value) :: c.entries }
    else { c with entries := (key, value) :: c.entries.dropLast, evictions := c.evictions + 1 }

def clear (c : Cache Key Value) : Cache Key Value := { capacity := c.capacity }

def resize (c : Cache Key Value) (n : Nat) : Cache Key Value :=
  { c with capacity := max n 1, entries := c.entries.take (max n 1) }

end Cache
end Packrat
