import ControlMachine.Binary.Format

/- Operations on data of a format: the exact result, rounded once. -/
namespace ControlMachine.Datum

def isNegative : Datum → Bool
  | .nan => false
  | .infinite negative => negative
  | .finite negative _ _ => negative

def neg : Datum → Datum
  | .nan => .nan
  | .infinite negative => .infinite (!negative)
  | .finite negative m e => .finite (!negative) m e

def scaled (negative : Bool) (m : Nat) (e unit : Int) : Int :=
  let magnitude : Int := (m * twos (e - unit) : Nat)
  if negative then -magnitude else magnitude

/-- A sum that comes to nothing is negative zero only if both terms are. -/
def add (f : Format) : Datum → Datum → Datum
  | .nan, _ => .nan
  | _, .nan => .nan
  | .infinite a, .infinite b => if a = b then .infinite a else .nan
  | .infinite a, .finite _ _ _ => .infinite a
  | .finite _ _ _, .infinite b => .infinite b
  | .finite na ma ea, .finite nb mb eb =>
    let unit := min ea eb
    let sum := scaled na ma ea unit + scaled nb mb eb unit
    if sum = 0 then .finite (na && nb) 0 f.least
    else f.roundDatum (.finite (decide (sum < 0)) sum.natAbs unit)

def sub (f : Format) (a b : Datum) : Datum := add f a b.neg

def mul (f : Format) : Datum → Datum → Datum
  | .nan, _ => .nan
  | _, .nan => .nan
  | .infinite a, .infinite b => .infinite (a != b)
  | .infinite a, .finite nb mb _ => if mb = 0 then .nan else .infinite (a != nb)
  | .finite na ma _, .infinite b => if ma = 0 then .nan else .infinite (na != b)
  | .finite na ma ea, .finite nb mb eb => f.roundDatum (.finite (na != nb) (ma * mb) (ea + eb))

def div (f : Format) : Datum → Datum → Datum
  | .nan, _ => .nan
  | _, .nan => .nan
  | .infinite _, .infinite _ => .nan
  | .infinite a, .finite nb _ _ => .infinite (a != nb)
  | .finite na _ _, .infinite b => .finite (na != b) 0 f.least
  | .finite na ma ea, .finite nb mb eb =>
    if mb = 0 then if ma = 0 then .nan else .infinite (na != nb)
    else f.round (na != nb) (numerator ma (ea - eb)) (mb * denominator (ea - eb))

def rem (f : Format) : Datum → Datum → Datum
  | .nan, _ => .nan
  | _, .nan => .nan
  | .infinite _, _ => .nan
  | .finite na ma ea, .infinite _ => .finite na ma ea
  | .finite na ma ea, .finite _ mb eb =>
    if mb = 0 then .nan
    else
      let unit := min ea eb
      let left := ma * twos (ea - unit) % (mb * twos (eb - unit))
      f.roundDatum (.finite na left unit)

/-- Not-a-number is ordered against nothing, and zeros are equal under either sign. -/
def compare? : Datum → Datum → Option Ordering
  | .nan, _ => none
  | _, .nan => none
  | .infinite a, .infinite b => some (Ord.compare b a)
  | .infinite a, .finite _ _ _ => some (if a then .lt else .gt)
  | .finite _ _ _, .infinite b => some (if b then .gt else .lt)
  | .finite na ma ea, .finite nb mb eb =>
    let unit := min ea eb
    some (Ord.compare (scaled na ma ea unit) (scaled nb mb eb unit))

def truncate (negative : Bool) (m : Nat) (e : Int) : Int :=
  let magnitude : Int := (numerator m e / denominator e : Nat)
  if negative then -magnitude else magnitude

end ControlMachine.Datum
