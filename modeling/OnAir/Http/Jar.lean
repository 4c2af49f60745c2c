import OnAir.Http.Cookie
import OnAir.Text.Order

/-!
# The cookie jar

A browser's cookies: each name once. A response changes the jar as its cookie lines say, in their
order, and the next request carries what is in it.
-/

namespace OnAir.Http

structure Jar where
  cookies : List (String × String)
  deriving DecidableEq, Repr

namespace Jar

def empty : Jar := ⟨[]⟩

def get? (jar : Jar) (name : String) : Option String :=
  jar.cookies.lookup name

def remove (jar : Jar) (name : String) : Jar :=
  ⟨jar.cookies.filter (·.1 ≠ name)⟩

def put (jar : Jar) (name value : String) : Jar :=
  ⟨(jar.remove name).cookies ++ [(name, value)]⟩

/-- The jar after one cookie line; a line whose age is zero removes its cookie. -/
def apply (jar : Jar) (line : SetCookie) : Jar :=
  if line.maxAge = 0 then jar.remove line.name else jar.put line.name line.value

def applyAll (jar : Jar) (lines : List SetCookie) : Jar :=
  lines.foldl apply jar

/-- The header a request carries, in the order of names; none for an empty jar. -/
def header? (jar : Jar) : Option String :=
  if jar.cookies.isEmpty then none
  else some ("; ".intercalate ((Text.sortBy (·.1) jar.cookies).map fun (name, value) =>
    name ++ "=" ++ value))

end Jar
end OnAir.Http
