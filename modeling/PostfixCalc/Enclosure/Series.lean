import PostfixCalc.Enclosure.Basic

/-!
# Enclosures by power series

Each function sums the first terms of its series and widens the sum by twice
the first term left out.  That bounds the tail, because from there on the terms
alternate and shrink, or shrink at least by half.
-/

namespace PostfixCalc

namespace Enclosure

variable {p : Nat}

/-- The sum of `count` terms of a series, counted from `i`, and the first term
left out.  A term is what `weigh` makes of its power, and `next` makes the
power after it. -/
def sumTerms (weigh next : Nat → Enclosure p → Enclosure p) :
    Nat → Nat → Enclosure p → Enclosure p → Enclosure p × Enclosure p
  | 0, i, power, sum => (sum, weigh i power)
  | count + 1, i, power, sum =>
      sumTerms weigh next count (i + 1) (next i power) (sum.add (weigh i power))

/-- A series cut after `count` terms, with its tail accounted for. -/
def series (weigh next : Nat → Enclosure p → Enclosure p) (count : Nat)
    (first : Enclosure p) : Enclosure p :=
  let (sum, omitted) := sumTerms weigh next count 0 first (zero p)
  sum.widen omitted

/-- The term of an odd power in the series of the inverse tangents. -/
def overOdd (i : Nat) (power : Enclosure p) : Enclosure p :=
  power.scale 1 (2 * i + 1)

/-- The inverse tangent of `1 / q`. -/
def arctanInverse (p q : Nat) : Enclosure p :=
  series overOdd (fun _ power => power.scale (-1) (q * q)) (p / 4 + 2) (ofRatio p 1 q)

/-- The number π, as `16 arctan (1/5) - 4 arctan (1/239)`. -/
def pi (p : Nat) : Enclosure p :=
  ((arctanInverse p 5).scale 16 1).sub ((arctanInverse p 239).scale 4 1)

/-- The inverse hyperbolic tangent, for arguments up to one third. -/
def artanh (w : Enclosure p) : Enclosure p :=
  let square := w.mul w
  series overOdd (fun _ power => power.mul square) (p / 3 + 2) w

/-- The natural logarithm of two, as `2 artanh (1/3)`. -/
def logTwo (p : Nat) : Enclosure p :=
  (artanh (ofRatio p 1 3)).scale 2 1

/-- The natural logarithm of `n / d` for a quotient from one to two. -/
def logRatio (p n d : Nat) : Enclosure p :=
  (artanh (ofRatio p ((n : Int) - d) (n + d))).scale 2 1

/-- The exponential function, for arguments of magnitude below one. -/
def exp (x : Enclosure p) : Enclosure p :=
  series (fun _ term => term) (fun i term => (term.mul x).scale 1 (i + 1)) (p / 4 + 8) (one p)

/-- The sine, for arguments of magnitude below one. -/
def sin (x : Enclosure p) : Enclosure p :=
  let square := x.mul x
  series (fun _ term => term)
    (fun i term => (term.mul square).scale (-1) ((2 * i + 2) * (2 * i + 3))) (p / 8 + 8) x

/-- The cosine, for arguments of magnitude below one. -/
def cos (x : Enclosure p) : Enclosure p :=
  let square := x.mul x
  series (fun _ term => term)
    (fun i term => (term.mul square).scale (-1) ((2 * i + 1) * (2 * i + 2))) (p / 8 + 8) (one p)

end Enclosure

end PostfixCalc
