import Conform.Pattern.Meaning
import Conform.Table

/-! # Keeping compiled patterns

A cache remembers what reading a pattern gave, failures included, and queues the
patterns in the order in which they were added.  When it is full, the pattern
that was added first makes room; a hit changes nothing.
-/
namespace Conform.Pattern

/-- What was read, and the patterns that are kept, the oldest coming first. -/
structure Cache (α : Type) where
  entries : Table α
  order : List String

namespace Cache
variable {α : Type}

def capacity : Nat := 256

def empty : Cache α := ⟨[], []⟩

def get? (c : Cache α) (pattern : String) : Option α := c.entries.get? pattern

def size (c : Cache α) : Nat := c.entries.length

/-- Drop patterns, the oldest first, until one more can be kept. -/
def makeRoom (entries : Table α) : List String → Cache α
  | [] => ⟨entries, []⟩
  | oldest :: rest =>
    if capacity ≤ entries.length then makeRoom (entries.erase oldest) rest
    else ⟨entries, oldest :: rest⟩

/-- Add what was read, unless the cache has the pattern by now. -/
def insert (c : Cache α) (pattern : String) (compiled : α) : α × Cache α :=
  match c.get? pattern with
  | some kept => (kept, c)
  | none =>
    let roomy := makeRoom c.entries c.order
    (compiled, ⟨roomy.entries.insert pattern compiled, roomy.order ++ [pattern]⟩)

/-- Look a pattern up, reading it only if it is not in the cache. -/
def compile (read : String → α) (c : Cache α) (pattern : String) : α × Cache α :=
  match c.get? pattern with
  | some compiled => (compiled, c)
  | none => c.insert pattern (read pattern)

def compileAll (read : String → α) (c : Cache α) : List String → List α × Cache α
  | [] => ([], c)
  | pattern :: rest =>
    let (compiled, c) := c.compile read pattern
    let (others, c) := c.compileAll read rest
    (compiled :: others, c)

end Cache
end Conform.Pattern
