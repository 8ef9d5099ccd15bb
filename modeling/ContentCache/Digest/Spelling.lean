import ContentCache.Text.Blank

/-!
# Spellings of a digest

A digest that a caller gives may have blanks around it, the name of the algorithm and a colon in
front, and letters of either case. Its plain form is the hexadecimal in lower case.
-/

namespace ContentCache.Digest

/-- The name of the algorithm that may stand before a digest. -/
def algorithmName : List Char := "sha256".toList

/-- What follows the first colon, when the algorithm's name stands before it in any case. -/
def withoutAlgorithm (cs : List Char) : List Char :=
  if (cs.takeWhile (· ≠ ':')).map Char.toLower = algorithmName && cs.contains ':' then
    (cs.dropWhile (· ≠ ':')).drop 1
  else cs

/-- The plain form of a digest, as characters. -/
def plainChars (cs : List Char) : List Char :=
  (withoutAlgorithm (Text.trimChars cs)).map Char.toLower

/-- The plain form of a digest: bare, in lower case. -/
def plain (digest : String) : String := String.ofList (plainChars digest.toList)

end ContentCache.Digest
