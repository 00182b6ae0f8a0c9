/-!
# Text as lists of characters

The searching, trimming and splitting that the rest of the library needs, each defined by
recursion on a list of characters so that it can be reasoned about, and then lifted to `String`.
`isBlank` is the class of white space removed by `trim`: the ASCII controls from tab to carriage
return and from file separator to unit separator, the space, and the space separators and line
separators of other scripts.
-/

namespace RouteAtlas.Text

/-! ### Characters -/

/-- What holds of all characters with small numbers, checked one by one. -/
theorem of_toNat_lt {n : Nat} {P : Char → Prop} (h : ∀ i : Fin n, P (Char.ofNat i)) {c : Char}
    (hc : c.toNat < n) : P c := by
  have hP := h ⟨c.toNat, hc⟩
  rwa [Char.ofNat_toNat] at hP

/-! ### White space -/

/-- White space for the purpose of trimming. -/
def isBlank (c : Char) : Bool :=
  let n := c.toNat
  (9 ≤ n && n ≤ 13) || (28 ≤ n && n ≤ 32) || n == 0x85 || n == 0xA0 || n == 0x1680 ||
  (0x2000 ≤ n && n ≤ 0x200A) || n == 0x2028 || n == 0x2029 || n == 0x202F || n == 0x205F ||
  n == 0x3000

/-- Drops the characters of a class from the end of a list. -/
def dropEndWhile (p : Char → Bool) (cs : List Char) : List Char :=
  (cs.reverse.dropWhile p).reverse

/-- Drops white space at both ends of a list. -/
def trimChars (cs : List Char) : List Char :=
  dropEndWhile isBlank (cs.dropWhile isBlank)

/-- Drops white space at both ends of a text. -/
def trim (s : String) : String :=
  String.ofList (trimChars s.toList)

/-! ### Searching -/

/-- Whether one list of characters occurs somewhere inside another. -/
def occursIn (needle : List Char) : List Char → Bool
  | [] => needle.isEmpty
  | c :: cs => needle.isPrefixOf (c :: cs) || occursIn needle cs

/-- Whether `s` contains `needle` as a contiguous part. -/
def contains (s needle : String) : Bool :=
  occursIn needle.toList s.toList

/-- Whether `s` begins with `start`. -/
def beginsWith (s start : String) : Bool :=
  start.toList.isPrefixOf s.toList

/-- The rest of a list after a given beginning, if it has that beginning. -/
def after? : List Char → List Char → Option (List Char)
  | [], cs => some cs
  | _ :: _, [] => none
  | d :: ds, c :: cs => if d == c then after? ds cs else none

/-! ### Splitting and joining -/

/-- Splits a list at every occurrence of a separator; there is always at least one part. -/
def splitChars (sep : Char) : List Char → List (List Char)
  | [] => [[]]
  | c :: cs =>
    if c == sep then [] :: splitChars sep cs
    else
      match splitChars sep cs with
      | [] => [[c]]
      | part :: rest => (c :: part) :: rest

/-- Splits a text at every occurrence of a separator. -/
def split (sep : Char) (s : String) : List String :=
  (splitChars sep s.toList).map String.ofList

/-- Puts a separator between texts. -/
def join (sep : String) (parts : List String) : String :=
  sep.intercalate parts

/-- Replaces every occurrence of a character by a text. -/
def replaceChar (old : Char) (new : List Char) (cs : List Char) : List Char :=
  cs.flatMap fun c => if c == old then new else [c]

/-! ### Layout -/

/-- Pads a text with spaces on the right up to a width. -/
def padRight (width : Nat) (s : String) : String :=
  s ++ String.ofList (List.replicate (width - s.length) ' ')

/-- Pads a text with a character on the left up to a width. -/
def padLeft (width : Nat) (fill : Char) (s : String) : String :=
  String.ofList (List.replicate (width - s.length) fill) ++ s

/-- A text repeated. -/
def repeated (n : Nat) (s : String) : String :=
  String.join (List.replicate n s)

/-- The hexadecimal digits of a number in lower case, padded with zeros to a width. -/
def hex (width n : Nat) : String :=
  padLeft width '0' (String.ofList (Nat.toDigits 16 n))

/-- Digits of a number in decimal. -/
def decimal (n : Nat) : String :=
  String.ofList (Nat.toDigits 10 n)

/-- A number in decimal, padded with zeros to a width. -/
def decimalPadded (width n : Nat) : String :=
  padLeft width '0' (decimal n)

/-- An integer in decimal. -/
def integer : Int → String
  | .ofNat n => decimal n
  | .negSucc n => "-" ++ decimal (n + 1)

/-- The value of a hexadecimal digit. -/
def hexDigit? (c : Char) : Option Nat :=
  if '0' ≤ c && c ≤ '9' then some (c.toNat - 48)
  else if 'a' ≤ c && c ≤ 'f' then some (c.toNat - 87)
  else if 'A' ≤ c && c ≤ 'F' then some (c.toNat - 55)
  else none

/-- The number written by a list of hexadecimal digits, if all are such digits. -/
def hexValue? (cs : List Char) : Option Nat :=
  cs.foldlM (fun n c => (hexDigit? c).map (n * 16 + ·)) 0

end RouteAtlas.Text
