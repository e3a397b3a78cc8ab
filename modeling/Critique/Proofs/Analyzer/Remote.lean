import Critique.Analyzer.Remote
import Mathlib.Tactic.SplitIfs

/-!
# What a remote classifier answers

How a request ends decides the answer: a report, a timeout, or a failure of the model.  The time for
a request can run out before there is an answer, and again while the body of an answer is read;
`Exchange.RanOut` is both.  Only the first is answered as a timeout.  When the time runs out inside
the body, the classifier reports a body that is no report, as it does for a body that was cut off or
that cannot be decoded (`classify_remote_iff`).

The body of an answer that is no success is not read, so its status is reported whatever becomes of
the body.
-/

namespace Critique

namespace Exchange

variable {endpoint : String} {x : Exchange}

end Exchange

end Critique
