import RouteAtlas.Text.Basic

/-!
# The shortest decimal of a binary number

A finite double is `m · 2 ^ q`. The reals that round to it form an interval, whose ends belong to
it iff `m` is even. `shortest` looks for the coarsest decimal grid with a point in that interval
and takes the point nearest to the value; seventeen digits always suffice. `FloatText` records how
digits and exponent become text: positional for decimal exponents from -4 to 15, with a point and
at least one digit after it, otherwise with an exponent of at least two digits and a sign.
-/

namespace RouteAtlas.Decimal

/-- A positive finite double, taken apart: the value is `mantissa * 2 ^ exponent`. -/
structure Binary where
  /-- The integer mantissa. -/
  mantissa : Nat
  /-- The power of two. -/
  exponent : Int
  /-- Whether the next smaller double is only half as far away as the next larger one. -/
  narrowBelow : Bool

/-- The parts of a double, for a finite non-zero one, without its sign. -/
def Binary.ofBits (bits : UInt64) : Binary :=
  let fraction : Nat := bits.toNat % Nat.pow 2 52
  let biased : Nat := bits.toNat / Nat.pow 2 52 % Nat.pow 2 11
  if biased == 0 then ⟨fraction, -1074, false⟩
  else ⟨fraction + Nat.pow 2 52, (biased : Int) - 1075, fraction == 0 && biased != 1⟩

/-- A non-negative rational number as numerator and denominator. -/
structure Fraction where
  /-- The numerator. -/
  num : Nat
  /-- The denominator. -/
  den : Nat

/-- The fraction `n · base ^ e`. -/
def Fraction.scaled (n base : Nat) (e : Int) : Fraction :=
  match e with
  | .ofNat k => ⟨n * Nat.pow base k, 1⟩
  | .negSucc k => ⟨n, Nat.pow base (k + 1)⟩

/-- Whether `a < b`. -/
def Fraction.lt (a b : Fraction) : Bool :=
  a.num * b.den < b.num * a.den

/-- Whether `a ≤ b`. -/
def Fraction.le (a b : Fraction) : Bool :=
  a.num * b.den ≤ b.num * a.den

/-- The distance between two fractions. -/
def Fraction.distance (a b : Fraction) : Fraction :=
  let x := a.num * b.den
  let y := b.num * a.den
  ⟨if x ≤ y then y - x else x - y, a.den * b.den⟩

/-- Whether a decimal rounds to the given double. -/
def Binary.holds (b : Binary) (x : Fraction) : Bool :=
  let low :=
    if b.narrowBelow then Fraction.scaled (4 * b.mantissa - 1) 2 (b.exponent - 2)
    else Fraction.scaled (2 * b.mantissa - 1) 2 (b.exponent - 1)
  let high := Fraction.scaled (2 * b.mantissa + 1) 2 (b.exponent - 1)
  if b.mantissa % 2 == 0 then low.le x && x.le high else low.lt x && x.lt high

/-- The largest `e` with `10 ^ e ≤ x`, for a positive `x`, searched upwards from a lower bound. -/
def magnitude (x : Fraction) : Nat → Int → Int
  | 0, e => e
  | fuel + 1, e =>
    if (Fraction.scaled 1 10 (e + 1)).le x then magnitude x fuel (e + 1) else e

/-- The point of the grid `10 ^ e` nearest to the value that rounds to the double, if one of the
two neighbours of the value does. -/
def gridPoint? (b : Binary) (value : Fraction) (e : Int) : Option Nat :=
  let unit := Fraction.scaled 1 10 e
  let below := value.num * unit.den / (value.den * unit.num)
  let at_ := fun n => Fraction.scaled n 10 e
  let okBelow := 0 < below && b.holds (at_ below)
  let okAbove := b.holds (at_ (below + 1))
  if okBelow && okAbove then
    let toBelow := value.distance (at_ below)
    let toAbove := value.distance (at_ (below + 1))
    if toBelow.lt toAbove then some below
    else if toAbove.lt toBelow then some (below + 1)
    else some (if below % 2 == 0 then below else below + 1)
  else if okBelow then some below
  else if okAbove then some (below + 1)
  else none

/-- Tries grids of growing fineness, beginning with a single digit. -/
def search (b : Binary) (value : Fraction) : Nat → Int → Nat × Int
  | 0, e => (value.num / value.den, e)
  | fuel + 1, e =>
    match gridPoint? b value e with
    | some n => (n, e)
    | none => search b value fuel (e - 1)

/-- Drops trailing zeros of a digit string, raising the exponent. -/
def dropZeros (n : Nat) (e : Int) : Nat → Nat × Int
  | 0 => (n, e)
  | fuel + 1 => if n % 10 == 0 && n != 0 then dropZeros (n / 10) (e + 1) fuel else (n, e)

/-- The shortest decimal `n · 10 ^ e` that rounds to a positive finite double. -/
def shortest (b : Binary) : Nat × Int :=
  let value := Fraction.scaled b.mantissa 2 b.exponent
  let e := magnitude value 640 (-324)
  let (n, e) := search b value 18 e
  dropZeros n e 20

/-- How digits and an exponent become text. -/
structure FloatText where
  /-- The smallest decimal exponent of the first digit that is written positionally. -/
  positionalFrom : Int
  /-- The first decimal exponent of the first digit that is written with an exponent. -/
  positionalTo : Int
  /-- The least number of digits of an exponent. -/
  exponentWidth : Nat

/-- The default text of a number. -/
def FloatText.standard : FloatText := ⟨-4, 16, 2⟩

/-- The text of `digits · 10 ^ e`. -/
def FloatText.write (f : FloatText) (n : Nat) (e : Int) : String :=
  let digits := (Text.decimal n).toList
  let point : Int := digits.length + e
  let lead := point - 1
  if f.positionalFrom ≤ lead && lead < f.positionalTo then
    if point ≤ 0 then
      "0." ++ String.ofList (List.replicate (-point).toNat '0' ++ digits)
    else if (digits.length : Int) ≤ point then
      String.ofList (digits ++ List.replicate (point - digits.length).toNat '0') ++ ".0"
    else
      String.ofList (digits.take point.toNat) ++ "." ++ String.ofList (digits.drop point.toNat)
  else
    let mantissa :=
      match digits with
      | [d] => d.toString
      | d :: rest => d.toString ++ "." ++ String.ofList rest
      | [] => ""
    mantissa ++ "e" ++ (if lead < 0 then "-" else "+") ++
      Text.decimalPadded f.exponentWidth lead.natAbs

/-- The text of a double: the fewest digits that read back as the same number. -/
def floatText (x : Float) : String :=
  if x.isNaN then "nan"
  else
    let bits := x.toBits
    let sign := if bits.toNat ≥ Nat.pow 2 63 then "-" else ""
    if x.isInf then sign ++ "inf"
    else if bits.toNat % Nat.pow 2 63 == 0 then sign ++ "0.0"
    else
      let (n, e) := shortest (Binary.ofBits bits)
      sign ++ FloatText.standard.write n e

/-- The integer equal to a double, if there is one. -/
def integerOfFloat? (x : Float) : Option Int :=
  if x.isNaN || x.isInf then none
  else
    let bits := x.toBits
    if bits.toNat % Nat.pow 2 63 == 0 then some 0
    else
      let b := Binary.ofBits bits
      let f := Fraction.scaled b.mantissa 2 b.exponent
      if f.num % f.den == 0 then
        let n : Int := (f.num / f.den : Nat)
        some (if bits.toNat ≥ Nat.pow 2 63 then -n else n)
      else none

end RouteAtlas.Decimal
