/-!
# Instances

Powers of numbers and the order of lists are those of the language itself, also where a library is at hand that knows
another way to the same.
-/

attribute [instance (1100), default_instance 20000] instPowNat

attribute [instance (1100)] List.instLE
