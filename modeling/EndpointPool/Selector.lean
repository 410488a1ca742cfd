import EndpointPool.Endpoint

/-!
# Selectors

A selector chooses which of the alive endpoints serves the next request. It may remember what it
did before, and it may use chance: a draw, given from outside. It answers with any index, which
the pool reads modulo the number of candidates, or it crashes.

## Main definitions

* `Choice`, `Selector`: what a selector answers, and what makes a type one of selectors
* `BuiltIn`, `BuiltIn.next`: choosing at random and choosing in turn
-/

namespace EndpointPool

/-- The answer of a selector. -/
inductive Choice
  | index (n : Nat)
  | crash
  deriving DecidableEq, Repr

/-- A type whose values are selectors: from a draw and the candidates, the choice and the selector
as it is afterwards. -/
class Selector (σ : Type) where
  select : σ → Nat → List Endpoint → Choice × σ

/-- The selectors every program has. -/
inductive BuiltIn
  /-- Any candidate, by chance. -/
  | random
  /-- The candidates in turn; the counter grows with every choice and wraps at its word's end. -/
  | roundRobin (counter : UInt64)
  deriving DecidableEq

namespace BuiltIn

/-- The turn of a counter among `total` candidates, and the counter afterwards. Without candidates
the answer is zero and the counter stays. -/
def next (counter : UInt64) (total : Nat) : Nat × UInt64 :=
  if total = 0 then (0, counter) else (counter.toNat % total, counter + 1)

instance : Selector BuiltIn where
  select
    | random, draw, candidates =>
      (.index (if candidates.length ≤ 1 then 0 else draw % candidates.length), random)
    | roundRobin counter, _, candidates =>
      let (n, counter) := next counter candidates.length
      (.index n, roundRobin counter)

/-- The names under which the selectors are known. -/
def named : List (String × BuiltIn) := [("random", random), ("round_robin", roundRobin 0)]

end BuiltIn

end EndpointPool
