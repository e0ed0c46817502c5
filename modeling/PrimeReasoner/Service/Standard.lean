import PrimeReasoner.Json.Decoded
import PrimeReasoner.Number.Shortest
import PrimeReasoner.Service.Framework

/-!
# A framework for the service

The framework that the service is commonly run in finds a route by its path and method, shows a few pages
about the service of its own, and takes the fields out of JSON objects.

* `Framework.standard` is this framework, for a given depth to which values in a body may be nested.
* `Route.find` finds the route of a request.
* `Wanted.read` takes a field out of a body.

A complaint about a body quotes what was given. That fails if there is a number in it that is not
finite, or something that is no text (`Json.flaw?`).
-/

namespace PrimeReasoner

/-! ## Paths -/

namespace Route

/-- The route at a path; a line feed may follow. -/
def ofPath? (path : String) : Option Route :=
  all.find? fun route => path == route.path || path == route.path ++ "\n"

/-- The paths of the pages about the service. -/
def pages : List String := ["/docs", "/docs/oauth2-redirect", "/redoc", "/openapi.json"]

/-- Is there a page at the path? A line feed may follow. -/
def isPage (path : String) : Bool := pages.any fun page => path == page || path == page ++ "\n"

/-- Is there a page or a route at the path? -/
def isKnown (path : String) : Bool := (ofPath? path).isSome || isPage path

/-- Is there something at the path without the slashes at its end, or with one? -/
def isMoved (path : String) : Bool :=
  match path.toList.getLast? with
  | some '/' =>
    path != "/" && isKnown (String.ofList ((path.toList.reverse.dropWhile (· == '/')).reverse))
  | _ => isKnown (path ++ "/")

/-- The methods that show a page. -/
def pageMethods : List String := ["GET", "HEAD"]

/-- The route of a method and a path. -/
def find (method path : String) : Except Aside Route :=
  match ofPath? path with
  | some route => if method == route.method then .ok route else .error .notAllowed
  | none =>
    if isPage path then .error (if pageMethods.contains method then .page else .notAllowed)
    else .error (if isMoved path then .moved else .notFound)

end Route

/-! ## Quoting what was given -/

/-- The flaw of two parts together: a number that is not finite counts first. -/
def Flaw.either : Option Flaw → Option Flaw → Option Flaw
  | some .notFinite, _ | _, some .notFinite => some .notFinite
  | some .torn, _ | _, some .torn => some .torn
  | none, none => none

namespace Json

/-- Is the number, as it is written, beyond all finite numbers or no number? Integers never are. -/
def isInfinite (text : String) : Bool :=
  let s := text.toList
  let isWhole := (Numeral.unsigned s).all Text.isDigit
  !isWhole && !((Numeral.double? s).map Double.isFinite).getD false

/-- Is the field left out where a value is quoted? -/
def isHidden : Word → Bool
  | .text name => "_sa".toList.isPrefixOf name.toList
  | .torn codes => ("_sa".toList.map Char.toNat).isPrefixOf codes

/-- The flaw of what stands between quotes. -/
def Word.flaw? : Word → Option Flaw
  | .text _ => none
  | .torn _ => some .torn

mutual

/-- Why a value cannot be quoted, if it cannot. -/
def flaw? : Json → Option Flaw
  | .null | .bool _ => none
  | .number text => if isInfinite text then some .notFinite else none
  | .string value => value.flaw?
  | .array items => flawOfItems? items
  | .object fields => flawOfFields? fields

/-- Why some values cannot be quoted, if they cannot. -/
def flawOfItems? : List Json → Option Flaw
  | [] => none
  | item :: items => Flaw.either (flaw? item) (flawOfItems? items)

/-- Why some fields cannot be quoted, if they cannot. A field that is given again does not count. -/
def flawOfFields? : List (Word × Json) → Option Flaw
  | [] => none
  | (name, value) :: fields =>
    if isHidden name || fields.any fun other => other.1 == name then flawOfFields? fields
    else Flaw.either (Flaw.either name.flaw? (flaw? value)) (flawOfFields? fields)

end

end Json

/-! ## Reading a body -/

namespace Wanted

/-- Takes the field out of a value. No value counts as one that is no object, and not as a missing one. -/
def ofJson (wanted : Wanted) : Json → Except Rejection String
  | .object fields =>
    match Json.field? wanted.field fields with
    | some (.string (.text value)) => .ok value
    | some value => .error { fault := .notText, flaw := value.flaw? }
    | none => .error { fault := .missing, flaw := (Json.object fields).flaw? }
  | value => .error { fault := .notObject, flaw := value.flaw? }

/-- Takes the field out of a body, in which values may be nested `depth` deep. -/
def read (depth : Nat) (wanted : Wanted) (body : String) : Except Rejection String :=
  if body.isEmpty then .error { fault := .empty }
  else match Json.decoded? body with
    | none => .error { fault := .unreadable }
    | some chars =>
      match Json.read depth chars with
      | .ok json => wanted.ofJson json
      | .error (.malformed offset) => .error { fault := .notJson offset }
      | .error .excessive => .error { fault := .unreadable }

end Wanted

/-- The common framework, where values in a body may be nested `depth` deep. -/
def Framework.standard (depth : Nat) : Framework where
  route := Route.find
  field := Wanted.read depth

end PrimeReasoner
