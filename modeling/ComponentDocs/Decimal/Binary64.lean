/-!
Binary floating point numbers of 64 bits, exactly.

A finite number is a mantissa times a power of two. Reading rounds a decimal to
the nearest such number, and writing gives the fewest decimal digits that read
back as the same number. All arithmetic is on natural numbers.
-/

namespace ComponentDocs.Decimal

/-- A number of the 64-bit binary format; a finite one is `mantissa · 2 ^ power`. -/
inductive Binary64 where
  | finite (negative : Bool) (mantissa : Nat) (power : Int)
  | infinite (negative : Bool)
  | notANumber
deriving Repr, DecidableEq, Inhabited

/-- A decimal number `digits · 10 ^ scale`. -/
structure Scaled where
  digits : Nat
  scale : Int
deriving Repr, DecidableEq, Inhabited

/-- The quotient rounded to the nearest number, a tie to the even one. -/
def roundDiv (num den : Nat) : Nat :=
  let q := num / den
  let r := num % den
  if 2 * r < den then q
  else if den < 2 * r then q + 1
  else if q % 2 = 0 then q
  else q + 1

/-- `num / den` times `base` to a power, as a quotient of naturals. -/
def scaleRatio (base : Nat) (power : Int) (num den : Nat) : Nat × Nat :=
  match power with
  | .ofNat n => (num * Nat.pow base n, den)
  | .negSucc n => (num, den * Nat.pow base (n + 1))

/-- The largest power of the format's last place. -/
def maxPower : Int := 971

/-- The smallest power of the format's last place. -/
def minPower : Int := -1074

/-- The smallest mantissa of a number that uses all bits of the format. -/
def hidden : Nat := 4503599627370496

/-- Whether a number fits into a signed word of 64 bits. -/
def fitsSigned (value : Int) : Bool :=
  -9223372036854775808 ≤ value && value < 9223372036854775808

/-- Whether a number fits into an unsigned word of 64 bits. -/
def fitsUnsigned (value : Nat) : Bool :=
  value < 18446744073709551616

/-- The number nearest to a positive quotient. -/
def ofRatio (negative : Bool) (num den : Nat) : Binary64 :=
  if num = 0 then
    .finite negative 0 minPower
  else
    let estimate : Int := (Nat.log2 num : Int) - (Nat.log2 den : Int)
    let (a, b) := scaleRatio 2 (-estimate) num den
    let top := if a < b then estimate - 1 else estimate
    let power := max (top - 52) minPower
    let (a, b) := scaleRatio 2 (-power) num den
    let mantissa := roundDiv a b
    let (mantissa, power) :=
      if mantissa = 2 * hidden then (hidden, power + 1) else (mantissa, power)
    if maxPower < power then .infinite negative
    else .finite negative mantissa power

/-- The number of decimal digits of a natural number. -/
def digitCount (n : Nat) : Nat :=
  (Nat.toDigits 10 n).length

/--
The number nearest to a decimal. Decimals far outside the format's range are
decided by their size alone.
-/
def Binary64.ofScaled (negative : Bool) (x : Scaled) : Binary64 :=
  let size := (digitCount x.digits : Int) + x.scale
  if x.digits = 0 then .finite negative 0 minPower
  else if 400 < size then .infinite negative
  else if size < -400 then .finite negative 0 minPower
  else
    let (num, den) := scaleRatio 10 x.scale x.digits 1
    ofRatio negative num den

/-- The least `p` with `num / den < 10 ^ (p + 1)`, for `den ≤ num`. -/
def decimalTop (num den : Nat) : Int :=
  if den ≤ num then
    (digitCount (num / den) : Int) - 1
  else
    let places := digitCount (den / num)
    if den ≤ num * Nat.pow 10 (places - 1) then 1 - (places : Int)
    else -(places : Int)

/--
Looks for a decimal with `count` digits between two bounds around `value`. All
three stand over the same denominator, and `closed` says if bounds count.
-/
def decimalWithin (closed : Bool) (low value high den : Nat) (count : Nat) :
    Option Scaled :=
  let scale := decimalTop value den + 1 - (count : Int)
  let (num, den') := scaleRatio 10 (-scale) value den
  let below := num / den'
  let inside (x : Nat) : Bool :=
    let (scaled, divisor) := scaleRatio 10 scale x 1
    let point := scaled * den
    let left := low * divisor
    let right := high * divisor
    if closed then left ≤ point && point ≤ right
    else left < point && point < right
  let remainder := num % den'
  match inside below, inside (below + 1) with
  | true, true =>
      if 2 * remainder ≤ den' then some ⟨below, scale⟩
      else some ⟨below + 1, scale⟩
  | true, false => some ⟨below, scale⟩
  | false, true => some ⟨below + 1, scale⟩
  | false, false => none

/-- Removes trailing zeros; the bound is the number of digits. -/
def Scaled.reduce : Nat → Scaled → Scaled
  | 0, x => x
  | n + 1, x =>
      if x.digits ≠ 0 ∧ x.digits % 10 = 0 then
        Scaled.reduce n ⟨x.digits / 10, x.scale + 1⟩
      else x

/--
The decimal with the fewest digits among those that round to
`mantissa · 2 ^ power`, and of these the nearest. Seventeen digits always
suffice, so the exact value below is only reached for zero.
-/
def shortest (mantissa : Nat) (power : Int) : Scaled :=
  if mantissa = 0 then ⟨0, 0⟩
  else
    let narrow := mantissa = hidden ∧ minPower < power
    let low := if narrow then 4 * mantissa - 1 else 4 * mantissa - 2
    let (unit, den) := scaleRatio 2 (power - 2) 1 1
    let found := (List.range 17).findSome? fun n =>
      decimalWithin (mantissa % 2 = 0) (low * unit) (4 * mantissa * unit)
        ((4 * mantissa + 2) * unit) den (n + 1)
    match found with
    | some x => Scaled.reduce 20 x
    | none => ⟨mantissa, 0⟩

/-- Digits with a decimal point where the scale puts it. -/
def Scaled.positional (x : Scaled) : String :=
  let digits := Nat.toDigits 10 x.digits
  match x.scale with
  | .ofNat n => String.ofList (digits ++ List.replicate n '0')
  | .negSucc n =>
      let places := n + 1
      let padded := List.replicate (places + 1 - digits.length) '0' ++ digits
      let whole := padded.take (padded.length - places)
      let part := padded.drop (padded.length - places)
      String.ofList (whole ++ '.' :: part)

/-- The sign in front of a number's text. -/
def signText (negative : Bool) : String :=
  if negative then "-" else ""

/-- The shortest text of a number, never with an exponent. -/
def Binary64.positional : Binary64 → String
  | .finite negative mantissa power =>
      signText negative ++ (shortest mantissa power).positional
  | .infinite negative => signText negative ++ "inf"
  | .notANumber => "NaN"

/--
The shortest text of a number that always shows a point or an exponent. Below
ten to the minus five, and from ten to the sixteen on, it has an exponent.
-/
def Binary64.pointed : Binary64 → String
  | .finite negative mantissa power =>
      let x := shortest mantissa power
      let digits := Nat.toDigits 10 x.digits
      let point := (digits.length : Int) + x.scale
      let body :=
        if 0 ≤ x.scale ∧ point ≤ 16 then x.positional ++ ".0"
        else if -5 < point ∧ point ≤ 16 then x.positional
        else
          let whole := digits.take 1
          let part := digits.drop 1
          String.ofList whole ++
            (if part.isEmpty then "" else "." ++ String.ofList part) ++
            "e" ++ toString (point - 1)
      signText negative ++ body
  | .infinite negative => signText negative ++ "inf"
  | .notANumber => "NaN"

/-- Reads decimal digits, from the most significant on. -/
def digitsValue (base : Nat) (cs : List Char) : Nat :=
  cs.foldl (fun n c => n * base + digit c) 0
where
  digit (c : Char) : Nat :=
    if c.isDigit then c.toNat - '0'.toNat
    else if 'a' ≤ c ∧ c ≤ 'f' then c.toNat - 'a'.toNat + 10
    else if 'A' ≤ c ∧ c ≤ 'F' then c.toNat - 'A'.toNat + 10
    else 0

/--
The decimal written by an integral part, a fractional part and an exponent, all
given by their digits.
-/
def Scaled.ofDigits (whole part : List Char) (negativeExponent : Bool)
    (exponent : List Char) : Scaled :=
  let value := digitsValue 10 exponent
  let shift : Int := if negativeExponent then -value else value
  ⟨digitsValue 10 (whole ++ part), shift - part.length⟩

end ComponentDocs.Decimal
