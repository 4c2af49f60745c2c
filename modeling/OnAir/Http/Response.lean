import OnAir.Answer
import OnAir.Http.Cookie

/-!
# Responses

A response carries a document, a picture or nothing. Redirects name their target in a header, in
which every character that has no place in an address is quoted.
-/

namespace OnAir.Http

inductive Content
  | document (value : Json)
  | picture (bytes : Bytes)
  | nothing
  deriving Repr

def Content.header : Content → List (String × String)
  | .document _ => [("content-type", "application/json")]
  | .picture _ => [("content-type", "image/jpeg")]
  | .nothing => []

structure Response where
  status : Nat
  headers : List (String × String)
  cookies : List SetCookie
  content : Content
  deriving Repr

def isLocationChar (c : Char) : Bool :=
  Url.isUnreserved c || ":/%#?=@[]!$&'()*+,;".toList.contains c

def protection : List (String × String) := [
  ("cache-control", "private, no-cache, must-revalidate"),
  ("referrer-policy", "no-referrer"),
  ("x-content-type-options", "nosniff")]

namespace Response

def of (status : Nat) (content : Content) : Response :=
  ⟨status, content.header, [], content⟩

def document (status : Nat) (value : Json) : Response :=
  of status (.document value)

def detail (status : Nat) (word : String) : Response :=
  document status (.obj [("detail", .str word)])

def redirect (status : Nat) (location : String) : Response :=
  ⟨status, [("location", String.ofList (Url.quote isLocationChar location.toList))], [], .nothing⟩

def withHeader (r : Response) (name value : String) : Response :=
  { r with headers := r.headers ++ [(name, value)] }

def guarded (r : Response) : Response :=
  { r with headers := r.headers ++ protection }

end Response
end OnAir.Http
