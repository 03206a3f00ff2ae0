/-
  Written numbers: decimal and hexadecimal digits.

  Key definitions include:
    * `RecordQuery.Text.natural`
    * `RecordQuery.Text.integer`
    * `RecordQuery.Text.padded`
    * `RecordQuery.Text.positional`
    * `RecordQuery.Text.hexadecimal`

  Key theorems include:
    * `RecordQuery.Text.isDigit_of_mem_padded`
-/

------------------------------------------------------------
-- Decimal Digits
------------------------------------------------------------

namespace RecordQuery

namespace Text

/- A natural number in decimal, without leading zeros. -/
def natural
    (n : Nat) :
    String :=
  String.ofList (Nat.toDigits 10 n)

/- An integer in decimal, with a sign if negative. -/
def integer
    (n : Int) :
    String :=
  if n < 0 then
    "-" ++ natural n.natAbs
  else
    natural n.natAbs

/- The digits of `n`, with zeros in front up to a width. -/
def paddedDigits
    (width n : Nat) :
    List Char :=
  List.replicate
      (width - (Nat.toDigits 10 n).length) '0' ++
    Nat.toDigits 10 n

/- A number in decimal with at least `width` digits. -/
def padded
    (width n : Nat) :
    String :=
  String.ofList (paddedDigits width n)

/-
  The number `n / 10 ^ scale` with exactly `scale` digits
  after the point, and no point if there are none.
-/
def positional
    (n scale : Nat) :
    String :=
  if scale = 0 then
    natural n
  else
    natural (n / Nat.pow 10 scale) ++ "." ++
      padded scale (n % Nat.pow 10 scale)

/- Padded numbers consist of digits. -/
theorem isDigit_of_mem_padded
    {width n : Nat}
    {c : Char}
    (hMem : c ∈ (padded width n).toList) :
    c.isDigit = true := by
  simp only [padded, paddedDigits, String.toList_ofList,
    List.mem_append, List.mem_replicate] at hMem
  rcases hMem with ⟨_, hZero⟩ | hDigit
  · subst hZero
    decide
  · exact Nat.isDigit_of_mem_toDigits (by decide)
      (by decide) hDigit

end Text

end RecordQuery

------------------------------------------------------------
-- Hexadecimal Digits
------------------------------------------------------------

namespace RecordQuery

namespace Text

/-
  The last `count` hexadecimal digits of a number, most
  significant first, in lower case.
-/
def hexDigits
    (n : Nat) :
    Nat → List Char
| 0 => []
| count + 1 =>
    Nat.digitChar (n / 16 ^ count % 16) ::
      hexDigits n count

/- The last `count` hexadecimal digits of a number. -/
def hexadecimal
    (count n : Nat) :
    String :=
  String.ofList (hexDigits n count)

/- A byte as two hexadecimal digits in upper case. -/
def upperHexByte
    (byte : UInt8) :
    String :=
  String.ofList
    ((hexDigits byte.toNat 2).map Char.toUpper)

end Text

end RecordQuery
