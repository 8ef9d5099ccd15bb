import ContentCache.Bytes
import ContentCache.Json.Token

/-!
# Escapes in URLs

A character that may not stand in a part of a URL is written as the bytes of its UTF-8 form, each as
a percent sign and two hexadecimal digits. Which characters these are depends on the part.

Main statements: `escape_eq_self` (text without such characters stays as it is) and `escape_append`.
-/

namespace ContentCache.Url

/-- Control characters and everything that is not ASCII are escaped in every part. -/
def escapesAlways (c : Char) : Bool := c.toNat < 32 || 127 ≤ c.toNat

def escapesInFragment (c : Char) : Bool := escapesAlways c || " \"<>`".toList.contains c

def escapesInPath (c : Char) : Bool := escapesInFragment c || "#?\x7b\x7d".toList.contains c

def escapesInUser (c : Char) : Bool := escapesInPath c || "/:;=@[\\]^|".toList.contains c

def escapesInQuery (c : Char) : Bool := escapesAlways c || " \"#<>".toList.contains c

/-- What is escaped in the query of a URL of the web. -/
def escapesInWebQuery (c : Char) : Bool := escapesInQuery c || c = '\''

def escapeDigit (n : Nat) : Char := if n < 10 then Char.ofNat (48 + n) else Char.ofNat (55 + n)

/-- A byte as a percent sign and two digits. -/
def escapeByte (b : UInt8) : List Char :=
  ['%', escapeDigit (b.toNat / 16), escapeDigit (b.toNat % 16)]

def escapeChar (must : Char → Bool) (c : Char) : List Char :=
  if must c then (Bytes.ofText (String.singleton c)).flatMap escapeByte else [c]

/-- Text with the characters escaped that must be. -/
def escape (must : Char → Bool) (cs : List Char) : List Char := cs.flatMap (escapeChar must)

theorem escape_append (must : Char → Bool) (a b : List Char) :
    escape must (a ++ b) = escape must a ++ escape must b := by
  simp [escape]

/-- Text without characters that must be escaped stays as it is. -/
theorem escape_eq_self {must : Char → Bool} {cs : List Char} (h : ∀ c ∈ cs, must c = false) :
    escape must cs = cs := by
  induction cs with
  | nil => rfl
  | cons c rest ih =>
    have hr := ih fun d hd => h d (List.mem_cons_of_mem _ hd)
    have hc : escapeChar must c = [c] := by simp [escapeChar, h c (by simp)]
    have hs : escape must (c :: rest) = escapeChar must c ++ escape must rest := by simp [escape]
    rw [hs, hc, hr]
    rfl

/-- The bytes of a text with its escapes resolved. A percent sign without two digits stands for
itself. -/
def unescape : List Char → Bytes
  | '%' :: a :: b :: rest =>
    match Json.hexValue? a, Json.hexValue? b with
    | some high, some low => UInt8.ofNat (high * 16 + low) :: unescape rest
    | _, _ => 37 :: unescape (a :: b :: rest)
  | c :: rest => Bytes.ofText (String.singleton c) ++ unescape rest
  | [] => []

end ContentCache.Url
