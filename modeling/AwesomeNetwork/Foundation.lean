import Mathlib.Data.List.AList
import Mathlib.Data.Rat.Defs

/-! # The Foundation values the library works on

`Foundation` collects the parts of Foundation that are not part of the sources
and decide which URL a string denotes. Everything else here is plain data.
-/

namespace AwesomeNetwork

/-- A byte buffer. -/
abbrev Data := List UInt8

/-- Seconds, as exact numbers. -/
abbrev TimeInterval := ℚ

/-- A Swift dictionary, its keys in the order in which they are enumerated. -/
abbrev Dictionary (Key Value : Type) := AList (fun _ : Key => Value)

/-- `String(data:encoding: .utf8)`. -/
def utf8String (data : Data) : Option String :=
  String.fromUTF8? ⟨data.toArray⟩

/-- `URLQueryItem`. -/
structure URLQueryItem where
  name : String
  value : Option String
deriving DecidableEq, Repr

/-- `URLComponents`; the path is percent-decoded. -/
structure URLComponents where
  scheme : Option String
  host : Option String
  path : String
  queryItems : Option (List URLQueryItem)
deriving DecidableEq, Repr

/-- `URL`, by its components; the path is percent-encoded, as it stands in the URL. -/
structure URL where
  scheme : Option String
  host : Option String
  percentEncodedPath : String
  queryItems : Option (List URLQueryItem)
deriving DecidableEq, Repr

/-- The value of a hexadecimal digit. -/
def hexDigitValue (digit : Char) : Option Nat :=
  if 48 ≤ digit.toNat ∧ digit.toNat ≤ 57 then some (digit.toNat - 48)
  else if 65 ≤ digit.toNat ∧ digit.toNat ≤ 70 then some (digit.toNat - 55)
  else if 97 ≤ digit.toNat ∧ digit.toNat ≤ 102 then some (digit.toNat - 87)
  else none

/-- The text of a run of escaped bytes, if they are valid UTF-8. -/
def escapedText (bytes : Data) : Option (List Char) :=
  -- each byte of a run of ASCII stands for its character
  if bytes.all (· < 128) then some (bytes.map fun byte => Char.ofNat byte.toNat)
  else (utf8String bytes).map String.toList

/-- What `removingPercentEncoding` makes of a text that follows a run of escaped bytes. -/
def removingEscapes (bytes : Data) : List Char → Option (List Char)
  | [] => escapedText bytes
  | '%' :: high :: low :: rest =>
      match hexDigitValue high, hexDigitValue low with
      | some high, some low => removingEscapes (bytes ++ [UInt8.ofNat (16 * high + low)]) rest
      | _, _ => none
  | letter :: rest =>
      if letter = '%' then none
      else
        (escapedText bytes).bind fun before =>
          (removingEscapes [] rest).map fun after => before ++ letter :: after

/-- `removingPercentEncoding`: nothing when an escape is malformed or the bytes that are
escaped are not valid UTF-8. -/
def removingPercentEncoding (text : List Char) : Option (List Char) := removingEscapes [] text

/-- `url.path`: the path without the slash at its end, and then without its percent
encoding; it is empty when the encoding cannot be removed. -/
def URL.path (url : URL) : String :=
  let letters := url.percentEncodedPath.toList
  let letters :=
    if letters.length > 1 ∧ letters.getLast? = some '/' then letters.dropLast else letters
  String.ofList ((removingPercentEncoding letters).getD [])

/-- `url.lastPathComponent`: the last non-empty component of the encoded path, without its
percent encoding, so that it may hold slashes; `"/"` for a path of slashes only and `""`
for the empty path. -/
def URL.lastPathComponent (url : URL) : String :=
  match ((url.percentEncodedPath.toList.splitOn '/').filter (· ≠ [])).getLast? with
  | some component => String.ofList ((removingPercentEncoding component).getD [])
  | none => if url.percentEncodedPath = "" then "" else "/"

/-- How Foundation reads a string as URL components and assembles them. -/
structure Foundation where
  urlComponents : String → Option URLComponents
  url : URLComponents → Option URL

/-- `NSError`, as far as the completion handlers read it. -/
structure NSError where
  code : Int
  localizedDescription : String
deriving DecidableEq, Repr

/-- The code of a request that timed out. -/
def NSURLErrorTimedOut : Int := -1001

/-- The code of a task that was cancelled. -/
def NSURLErrorCancelled : Int := -999

/-- The code of a request without a connection. -/
def NSURLErrorNotConnectedToInternet : Int := -1009

/-- What `URLSession` passes to the completion handler of a task: `statusCode`
is present when the response is an `HTTPURLResponse`. -/
structure SessionResponse where
  data : Option Data
  statusCode : Option Int
  error : Option NSError
deriving DecidableEq, Repr

end AwesomeNetwork
