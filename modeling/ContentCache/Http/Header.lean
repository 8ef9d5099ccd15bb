import ContentCache.Bytes

/-!
# Header values

What may stand in the value of a header, how a value arrives, and the value that carries a user name
and a password.

* `isHeaderText`: a value without control characters, tabs apart.
* `fieldValue`: a value as it arrives, without the blanks around it.
* `base64`: three bytes become four characters, the last group filled up with equals signs.

Main statement: `base64_length` (the length of the encoded form is a multiple of four).
-/

namespace ContentCache.Http

/-- Whether a text may be the value of a header: no control character but the tab. -/
def isHeaderText (value : String) : Bool :=
  value.toList.all fun c => (32 ≤ c.toNat && c.toNat ≠ 127) || c = '\t'

def isFieldBlank (c : Char) : Bool := c = ' ' || c = '\t'

/-- A value as it arrives: blanks around it are not part of it. -/
def fieldValue (value : String) : String :=
  let front := value.toList.dropWhile isFieldBlank
  String.ofList (front.reverse.dropWhile isFieldBlank).reverse

/-! ## User names and passwords -/

/-- The character for six bits. -/
def base64Digit (n : Nat) : Char :=
  if n < 26 then Char.ofNat (65 + n)
  else if n < 52 then Char.ofNat (71 + n)
  else if n < 62 then Char.ofNat (n - 4)
  else if n = 62 then '+'
  else '/'

/-- Four characters for every three bytes. -/
def base64Chars : Bytes → List Char
  | [] => []
  | [a] =>
    let v := a.toNat * 65536
    [base64Digit (v / 262144), base64Digit (v / 4096 % 64), '=', '=']
  | [a, b] =>
    let v := a.toNat * 65536 + b.toNat * 256
    [base64Digit (v / 262144), base64Digit (v / 4096 % 64), base64Digit (v / 64 % 64), '=']
  | a :: b :: c :: rest =>
    let v := a.toNat * 65536 + b.toNat * 256 + c.toNat
    base64Digit (v / 262144) :: base64Digit (v / 4096 % 64) :: base64Digit (v / 64 % 64) ::
      base64Digit (v % 64) :: base64Chars rest

def base64 (data : Bytes) : String := String.ofList (base64Chars data)

/-- The encoded form is a multiple of four characters long. -/
theorem base64_length (data : Bytes) : (base64Chars data).length = 4 * ((data.length + 2) / 3) := by
  fun_induction base64Chars data with
  | case1 => rfl
  | case2 => simp
  | case3 => simp
  | case4 a b c rest v ih =>
    simp only [List.length_cons, ih]
    omega

def basicCredentials (user password : String) : String :=
  "Basic " ++ base64 (Bytes.ofText (user ++ ":" ++ password))

def bearerCredentials (token : String) : String := "Bearer " ++ token

end ContentCache.Http
