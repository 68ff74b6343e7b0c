import TopicHealth.Binary
import TopicHealth.Service

/-!
# Rates and windows

The rate of a service as a number, and the two windows that follow from it: how old its last message may be, and
what the mean interval between its messages has to stay below. The windows are computed in the arithmetic of
the 64-bit format and kept to the nanosecond. A service without a rate has neither window.
-/

namespace TopicHealth.Service

/-- The nominal rate in hertz. -/
def rate (s : Service) : Binary64 := .ofRatio false s.centihertz 100

/-- A service is alive for ten periods of its nominal rate after a receipt. -/
def maxAge? (s : Service) : Option Duration :=
  (.ofRatio false 10 1 / s.rate : Binary64).toDuration?

/-- The mean interval has to stay below the period of nine tenths of the nominal rate. -/
def maxMean? (s : Service) : Option Duration :=
  (.one / (.ofRatio false 9 10 * s.rate) : Binary64).toDuration?

end TopicHealth.Service
