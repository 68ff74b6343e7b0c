/-!
# Powers

A power of a number means the same whichever library is loaded beside the modules.
-/

namespace TopicHealth

@[default_instance 20000]
instance (priority := high) powers {α : Type} [NatPow α] : Pow α Nat := instPowNat

end TopicHealth
