/-!
# Powers

## What is here

* Powers with a natural number as exponent are those of `NatPow`, also beside libraries that have others.
-/

set_option autoImplicit false

attribute [default_instance high, instance (high)] instPowNat
