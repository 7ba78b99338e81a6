/-!
# The generator

Random numbers for samples, the same for the same seed: a linear congruential generator modulo `2 ^ 64`, of
which the high half is used.
-/

namespace Calculator

structure Generator where
  state : UInt64
  deriving DecidableEq

/-- A value that depends on random draws. -/
abbrev Sample := StateM Generator

namespace Generator

def next (g : Generator) : Generator := ⟨g.state * 6364136223846793005 + 1⟩

def output (g : Generator) : UInt32 := (g.state >>> 32).toUInt32

end Generator

namespace Sample

def draw : Sample UInt32 := fun g => (g.next.output, g.next)

/-- A number below the bound. Below `0` there is `0`, and nothing is drawn. -/
def pick (bound : UInt32) : Sample UInt32 :=
  if bound = 0 then pure 0 else (· % bound) <$> draw

/-- Draws a list of samples in order. -/
def many {α : Type} (x : Sample α) : Nat → Sample (List α)
  | 0 => pure []
  | n + 1 => do
    let a ← x
    let as ← many x n
    return a :: as

/-- The value of a sample for a seed. -/
def fromSeed {α : Type} (seed : UInt64) (x : Sample α) : α := (x ⟨seed⟩).1

end Sample

end Calculator
