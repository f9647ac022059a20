/-
Arithmetic on binary floating-point numbers.

A finite number is a whole number times a power of two, so sums and products
are formed exactly and rounded once.
-/
import LogQuery.Number.Binary64

namespace LogQuery.Binary64

/-- The whole number that a significand with a sign is. -/
def signed (negative : Bool) (m : Nat) : Int :=
  if negative then -(m : Int) else m

/-- The number nearest to `n * 2 ^ e`; `negative` is the sign of zero. -/
def ofScaled (negative : Bool) (n e : Int) : Binary64 :=
  if n = 0 then finite negative 0 0
  else
    let (up, down) := powerRatio 2 e
    ofRatio (n < 0) (n.natAbs * up) down

/-- The number with the other sign. -/
def negate : Binary64 → Binary64
  | notANumber => notANumber
  | infinite negative => infinite !negative
  | finite negative m e => finite (!negative) m e

/-- The number nearest to a natural number, if that is not too large. -/
def ofNat? (n : Nat) : Option Binary64 :=
  match ofRatio false n 1 with
  | infinite _ => none
  | x => some x

/-- The sum, rounded. -/
def add : Binary64 → Binary64 → Binary64
  | notANumber, _ | _, notANumber => notANumber
  | infinite s, infinite t => if s = t then infinite s else notANumber
  | infinite s, finite .. | finite .., infinite s => infinite s
  | finite s m e, finite t n f =>
    let least := min e f
    let aligned (s : Bool) (m : Nat) (e : Int) : Int :=
      signed s m * Nat.pow 2 (e - least).toNat
    ofScaled (s && t) (aligned s m e + aligned t n f) least

/-- The product, rounded. -/
def mul : Binary64 → Binary64 → Binary64
  | notANumber, _ | _, notANumber => notANumber
  | infinite s, infinite t => infinite (s != t)
  | infinite s, finite t n _ | finite t n _, infinite s =>
    if n = 0 then notANumber else infinite (s != t)
  | finite s m e, finite t n f =>
    ofScaled (s != t) (signed s m * signed t n) (e + f)

/-- A finite number as a ratio. -/
def ratio? : Binary64 → Option (Int × Nat)
  | finite s m e =>
    let (up, down) := powerRatio 2 e
    some (signed s m * up, down)
  | _ => none

end LogQuery.Binary64
