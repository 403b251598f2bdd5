import ControlMachine.Decimal.Positional

/- Decimals with a set number of places. -/
namespace ControlMachine.Decimal
open Datum

/-- The exact number rounded to so many places, a half going to the even digit. -/
def placesText (places : Nat) (d : Datum) : String :=
  d.text fun m e => pointed (roundEven (numerator m e * tens places) (denominator e)) places

def padded (width : Nat) (text : String) : String :=
  String.ofList (text.toList.leftpad width ' ')

/-- Sign, whole part and four places cut off. A whole part stops at 2^64 - 1, zero bears no sign,
    and what is not a number is written as zero. -/
def truncatedText : Datum → String
  | .nan => "0.0000"
  | .infinite negative => signed negative "18446744073709551615.0000"
  | .finite negative m e =>
    let units := numerator m e * 10000 / denominator e
    let whole := min (units / 10000) (0xFFFFFFFFFFFFFFFF)
    signed (negative && m != 0) (pointed (whole * 10000 + units % 10000) 4)

end ControlMachine.Decimal
