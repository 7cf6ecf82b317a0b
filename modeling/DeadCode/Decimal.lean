/-!
# Decimal numbers of double precision

A number with a fraction is kept as the shortest decimal that reads back as the same double. `nearest` rounds a
quotient to 53 bits, `shortest` finds the decimal, and `render` writes it: positional while the decimal point lies
within sixteen digits, with an exponent otherwise.
-/

namespace DeadCode
set_option autoImplicit false

/-- A decimal `digits · 10 ^ exponent` with a sign, or one of the three values that are none. -/
inductive Decimal where
  | finite (negative : Bool) (digits : Nat) (exponent : Int)
  | infinite (negative : Bool)
  | undefined
  deriving DecidableEq, Repr, Inhabited

namespace Decimal

/-- The quotient of `a` by `b` to the nearest integer, a half to the even neighbour. -/
def roundDiv (a b : Nat) : Nat :=
  let q := a / b
  let r := a % b
  if 2 * r > b || (2 * r == b && q % 2 == 1) then q + 1 else q

/-- `a · 2 ^ (-q)` over `b` as a pair. -/
def scaleTwo (a b : Nat) (q : Int) : Nat × Nat :=
  if q ≤ 0 then (a * Nat.pow 2 (-q).toNat, b) else (a, b * Nat.pow 2 q.toNat)

/-- The double nearest to `a / b`, as `m · 2 ^ q` with `m < 2 ^ 53`. -/
def nearest (a b : Nat) : Nat × Int :=
  if a == 0 then (0, 0) else
  let guess : Int := (a.log2 : Int) - (b.log2 : Int) - 53
  let small := fun (q : Int) => let s := scaleTwo a b q; s.1 / s.2 < Nat.pow 2 53
  let q₀ := if small guess then guess else if small (guess + 1) then guess + 1 else guess + 2
  let q := max q₀ (-1074)
  let s := scaleTwo a b q
  let m := roundDiv s.1 s.2
  if m == Nat.pow 2 53 then (Nat.pow 2 52, q + 1) else (m, q)

/-- `d · 10 ^ e` as a quotient. -/
def ratio (d : Nat) (e : Int) : Nat × Nat := if e ≥ 0 then (d * Nat.pow 10 e.toNat, 1) else (d, Nat.pow 10 (-e).toNat)

/-- Number of decimal digits. -/
def digitCount (n : Nat) : Nat := (Nat.toDigits 10 n).length

/-- The least exponent `e` with `a / b < 10 ^ e`. -/
def magnitude (a b : Nat) : Int :=
  let e : Int := (digitCount a : Int) - (digitCount b : Int)
  let below := fun (e : Int) => if e ≥ 0 then a < b * Nat.pow 10 e.toNat else a * Nat.pow 10 (-e).toNat < b
  if below e then e else e + 1

/-- A decimal without trailing zeros, by at most `n` divisions. -/
def dropZeros : Nat → Nat → Int → Nat × Int
  | 0, d, e => (d, e)
  | n + 1, d, e => if d != 0 && d % 10 == 0 then dropZeros n (d / 10) (e + 1) else (d, e)

/-- The decimal with at most `n` more digits than tried so far that reads back as `target`. -/
def searchDigits (a b : Nat) (target : Nat × Int) (mag : Int) : Nat → Nat → Nat × Int
  | 0, k => let s := ratio 1 (k - mag); (roundDiv (a * s.1) (b * s.2), mag - k)
  | n + 1, k =>
    let e : Int := mag - k
    let s := ratio 1 (-e)
    let lo := a * s.1 / (b * s.2)
    let back := fun (d : Nat) => let r := ratio d e; nearest r.1 r.2 == target
    match back lo, back (lo + 1) with
    | true, true => (roundDiv (a * s.1) (b * s.2), e)
    | true, false => (lo, e)
    | false, true => (lo + 1, e)
    | false, false => searchDigits a b target mag n (k + 1)

/-- The shortest decimal of the double nearest to `a / b`. -/
def ofRatio (negative : Bool) (a b : Nat) : Decimal :=
  let t := nearest a b
  if t.1 == 0 then .finite negative 0 0
  else if t.2 > 971 then .infinite negative
  else
    let v := if t.2 ≥ 0 then (t.1 * Nat.pow 2 t.2.toNat, 1) else (t.1, Nat.pow 2 (-t.2).toNat)
    let r := searchDigits v.1 v.2 t (magnitude v.1 v.2) 17 1
    let z := dropZeros 20 r.1 r.2
    .finite negative z.1 z.2

/-- `d · 10 ^ e` rounded to double precision. -/
def ofDigits (negative : Bool) (d : Nat) (e : Int) : Decimal :=
  if d == 0 then .finite negative 0 0
  else if (digitCount d : Int) + e > 310 then .infinite negative
  else if (digitCount d : Int) + e < -330 then .finite negative 0 0
  else let r := ratio d e; ofRatio negative r.1 r.2

/-- An integer as a decimal. -/
def ofInt (n : Int) : Decimal := ofDigits (n < 0) n.natAbs 0

/-- Is the number zero? -/
def isZero : Decimal → Bool
  | .finite _ d _ => d == 0
  | _ => false

/-- The double cut toward zero, if it is finite. All digits of a large one come from the double, not from its shortest
decimal. -/
def toInt? : Decimal → Option Int
  | .finite neg d e =>
    let r := ratio d e
    let t := nearest r.1 r.2
    let n : Nat := if t.2 ≥ 0 then t.1 * Nat.pow 2 t.2.toNat else t.1 / Nat.pow 2 (-t.2).toNat
    some (if neg then -(n : Int) else n)
  | _ => none

/-- Decimal text. -/
def render : Decimal → String
  | .undefined => "NaN"
  | .infinite neg => if neg then "-Infinity" else "Infinity"
  | .finite neg d e =>
    let ds := Nat.toDigits 10 d
    let n : Int := ds.length
    let point : Int := if d == 0 then 1 else n + e
    let zeros := fun (k : Int) => List.replicate k.toNat '0'
    let body :=
      if -4 < point && point ≤ 16 then
        if point ≤ 0 then '0' :: '.' :: zeros (-point) ++ ds
        else if point ≥ n then ds ++ zeros (point - n) ++ ['.', '0']
        else ds.take point.toNat ++ '.' :: ds.drop point.toNat
      else
        let x := point - 1
        let xs := Nat.toDigits 10 x.natAbs
        let mantissa := match ds with
          | [] => []
          | [c] => [c]
          | c :: cs => c :: '.' :: cs
        mantissa ++ 'e' :: (if x < 0 then '-' else '+') :: (if xs.length < 2 then '0' :: xs else xs)
    String.ofList (if neg then '-' :: body else body)

end Decimal
end DeadCode
