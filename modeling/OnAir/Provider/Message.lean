import OnAir.Bytes.Basic

/-!
# Messages to and from the identity provider

Two requests go out, one with a form and one without. What comes back is a response, or nothing but
a fault of the transport.
-/

namespace OnAir.Provider

structure Request where
  method : String
  url : String
  authorization : String
  accept : Option String
  contentType : Option String
  body : Option String
  deriving DecidableEq, Repr

structure Response where
  status : Int
  headers : List (String × String)
  body : Bytes
  deriving DecidableEq, Repr

/-- A fault of the transport. Most faults say that the exchange failed; `foreign` ones do not. -/
structure TransportFault where
  foreign : Bool
  name : String
  text : String
  deriving DecidableEq, Repr

inductive Reply
  | response (r : Response)
  | fault (f : TransportFault)
  deriving DecidableEq, Repr

/-- How the provider answers from now on: to token requests and to profile requests. -/
structure Script where
  token : Reply
  user : Reply
  deriving DecidableEq, Repr

end OnAir.Provider
