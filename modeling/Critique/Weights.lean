import Critique.Table
import Critique.Token

/-!
# Complexity weights

A weight table gives some tokens a weight.  The complexity of a snippet is the sum of the weights
of its tokens, in the order in which they stand, and at most one.

The sum and the bound are defined over any type with an addition, a zero, a one and a minimum; the
review itself uses floating-point numbers.
-/

namespace Critique

variable {α : Type}

namespace Weights

/-- The weights of those tokens that have one, in order. -/
def weigh (weights : Table α) (tokens : List String) : List α :=
  tokens.filterMap weights.get?

/-- The sum of the weights of the tokens, from left to right. -/
def total [OfNat α 0] [Add α] (weights : Table α) (tokens : List String) : α :=
  (weigh weights tokens).foldl (· + ·) 0

/-- The score of a list of tokens: the sum of their weights, at most one. -/
def scoreTokens [OfNat α 0] [OfNat α 1] [Add α] [Min α] (weights : Table α)
    (tokens : List String) : α :=
  min (total weights tokens) 1

/-- The score of a text. -/
def score [OfNat α 0] [OfNat α 1] [Add α] [Min α] (weights : Table α) (code : String) : α :=
  scoreTokens weights (tokenize code)

/-- The weights used unless others are given. -/
def default : Table Float :=
  .ofList [("if", 0.1), ("for", 0.1), ("while", 0.1), ("try", 0.1), ("catch", 0.05),
    ("switch", 0.1), ("case", 0.05)]

end Weights

/-- The greatest complexity score. -/
def maxComplexity : Float := 1

end Critique
