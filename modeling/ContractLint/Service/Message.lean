import ContractLint.Json.Encoding
import ContractLint.Text.Utf8

/-!
# Requests and responses

The parts of an HTTP exchange that the service looks at.  The body of a request counts only when
its content type is a JSON type and its octets are JSON within the limits of the reader.
-/

namespace ContractLint

/-- A request. -/
structure Request where
  /-- The method, in letters of either case. -/
  method : String := "GET"
  /-- The path with its query. -/
  target : String
  /-- The header fields. -/
  headers : List (String × String) := []
  /-- The content type of the body. -/
  contentType : Option String := none
  /-- The octets of the body. -/
  body : List Nat := []

/-- A response: its status and its body, if that is JSON. -/
structure Response where
  /-- The status code. -/
  status : Nat
  /-- The JSON body. -/
  body : Option (Json RawText) := none

namespace Request

/-- A string in lower case letters. -/
def lower (text : String) : String :=
  String.ofList (text.toList.map Char.toLower)

/-- The value of a header field, whose name is compared without regard to case. -/
def header? (request : Request) (name : String) : Option String :=
  (request.headers.find? fun (field, _) => lower field == lower name).map (·.2)

/-- The text without what a target may not hold: control characters and blanks at the front, and
tabs and line breaks anywhere. -/
def cleanTarget (target : Text) : Text :=
  (target.dropWhile fun c => c.toNat ≤ 0x20).filter fun c => !(['\t', '\n', '\r'].contains c)

/-- Whether a character can stand in the scheme of a target. -/
def isSchemeChar (c : Char) : Bool :=
  c.isAlphanum || c == '+' || c == '-' || c == '.'

/-- The target without a scheme and a colon in front. -/
def dropScheme (target : Text) : Text :=
  match target.dropWhile isSchemeChar with
  | ':' :: rest => if target.head?.any Char.isAlpha then rest else target
  | _ => target

/-- The target without two slashes and a host in front. -/
def dropHost : Text → Text
  | '/' :: '/' :: rest => rest.dropWhile fun c => c != '/' && c != '?' && c != '#'
  | target => target

/-- The octet that the first two characters of a text write. -/
def octetAtFront? : Text → Option Nat
  | high :: low :: _ => do
    let high ← Json.hexValue? (.char high)
    let low ← Json.hexValue? (.char low)
    return high * 16 + low
  | _ => none

/-- The octets of a text in which a percent sign and two hexadecimal digits write an octet; `skip`
is the number of characters that belong to an octet before. -/
def percentOctets : Nat → Text → List Nat
  | _, [] => []
  | skip + 1, _ :: rest => percentOctets skip rest
  | 0, c :: rest =>
    match if c = '%' then octetAtFront? rest else none with
    | some octet => octet :: percentOctets 2 rest
    | none => Utf8.encodeChar c ++ percentOctets 0 rest

/-- The path that a target names: without scheme, host, query and fragment, and decoded.  It starts
with one slash, unless it is empty. -/
def path (request : Request) : Text :=
  let target := dropHost (dropScheme (cleanTarget request.target.toList))
  let decoded := Utf8.decode (percentOctets 0 (target.takeWhile fun c => c != '?' && c != '#'))
  if decoded.isEmpty then [] else '/' :: decoded.dropWhile (· == '/')

/-- The method in capital letters. -/
def verb (request : Request) : String :=
  String.ofList (request.method.toList.map Char.toUpper)

/-- The media type of a content type, without parameters and in lower case. -/
def mediaType (contentType : String) : Text :=
  (Text.trim (Text.before ';' contentType.toList)).map Char.toLower

/-- Whether a media type is JSON or built on it. -/
def isJsonType (media : Text) : Bool :=
  media == "application/json".toList
    || ("application/".toList.isPrefixOf media && "+json".toList.isSuffixOf media)

/-- The most digits of an integer in a body. -/
def digitLimit : Nat := 4300

/-- The value in the body of a request, where at most `nesting` arrays and objects can be nested. -/
def json (nesting : Nat) (request : Request) : Except Json.ReadFault (Json RawText) :=
  if request.contentType.any (isJsonType ∘ mediaType) then
    Json.readOctets { digits := some digitLimit, depth := some nesting } request.body
  else .error .malformed

/-- The text to be analysed: the value of `sourceCode` in an object, if that is a text that is not
blank. -/
def sourceIn? (value : Json RawText) : Option RawText :=
  match value.get? (.ofString "sourceCode") with
  | some (.string text) => if (Text.trim text.face).isEmpty then none else some text
  | _ => none

/-- The user that a request names, without blanks around the name. -/
def user? (request : Request) : Option String :=
  let name := Text.trim ((request.header? "X-User-Id").getD "").toList
  if name.isEmpty then none else some (String.ofList name)

end Request

namespace Response

/-- A successful response. -/
def ok (body : Json RawText) : Response :=
  ⟨200, some body⟩

/-- A response that reports an error. -/
def error (status : Nat) (message : String) : Response :=
  ⟨status, some (.object [("error", .string message)])⟩

/-- The response to a request that breaks off. -/
def broken : Response :=
  ⟨500, none⟩

end Response

end ContractLint
