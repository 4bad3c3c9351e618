/-
This file names the proofs that some numerals are at least two.

A numeral of a field carries such a proof. Modules that open the namespace share these.
-/

import Mathlib

namespace QuantAgent.Numerals

scoped instance (priority := high) two : Nat.AtLeastTwo 2 := ⟨le_rfl⟩

scoped instance (priority := high) four : Nat.AtLeastTwo 4 := ⟨by decide⟩

scoped instance (priority := high) ten : Nat.AtLeastTwo 10 := ⟨by decide⟩

scoped instance (priority := high) hundred : Nat.AtLeastTwo 100 := ⟨by decide⟩

end QuantAgent.Numerals
