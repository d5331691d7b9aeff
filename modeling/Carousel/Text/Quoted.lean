/-
  Carousel — text between double quotes.

  * `quote`: a quote and a backslash get a backslash, five controls have a letter of their
    own, and every other character that cannot be shown on its own is written as its
    number in hexadecimal; all else stands for itself.
-/
import Carousel.Text.Unprintable

namespace Carousel.Text

/-- The written form of one character between double quotes. -/
def quoteChar (c : Char) : List Char :=
  match c with
  | '\x00' => ['\\', '0']
  | '\t' => ['\\', 't']
  | '\n' => ['\\', 'n']
  | '\r' => ['\\', 'r']
  | '"' => ['\\', '"']
  | '\\' => ['\\', '\\']
  | _ =>
    if unprintable c then
      ['\\', 'u', '\x7b'] ++ Nat.toDigits 16 c.toNat ++ ['\x7d']
    else [c]

/-- A text between double quotes. -/
def quote (s : String) : String :=
  String.ofList (['"'] ++ s.toList.flatMap quoteChar ++ ['"'])

end Carousel.Text
