/-!
# Durations

Time limits are whole milliseconds. They are shown in milliseconds below one second, and from there
in seconds without trailing zeros.
-/

namespace MeshRoom

/-- A length of time. -/
structure Duration where
  millis : Nat
deriving DecidableEq, Repr, Inhabited

namespace Duration

def ofSeconds (s : Nat) : Duration := ⟨1000 * s⟩

/-- Three digits of a fraction, without those zeros that end it. -/
def fractionDigits (n : Nat) : List Char :=
  let digits := [n / 100 % 10, n / 10 % 10, n % 10].map Nat.digitChar
  (digits.reverse.dropWhile (· = '0')).reverse

/-- The text of a duration. Zero is shown in the least unit. -/
def text (d : Duration) : String :=
  if d.millis = 0 then "0ns"
  else if d.millis < 1000 then toString d.millis ++ "ms"
  else
    let fraction := fractionDigits (d.millis % 1000)
    toString (d.millis / 1000) ++
      (if fraction.isEmpty then "" else "." ++ String.ofList fraction) ++ "s"

end Duration

end MeshRoom
