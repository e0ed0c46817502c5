import PrimeReasoner.Service.Body

/-!
# Frameworks

The service runs in a framework, which finds out what a request is for, takes the field that is wanted
out of its body, and answers by itself what is not for the service.

* `Request` is a request, and `Route` lists what the service can be asked for, each at a path of its own
  and with one method.
* `Framework` is what the service needs of its framework. Nothing is said here about how requests and
  routes are matched, nor about how a body is read.
* `Framework.read` reads a body and checks the text in it.
-/

namespace PrimeReasoner

/-- A request to the service. -/
structure Request where
  /-- What to do with the path. -/
  method : String
  /-- What the request is about. -/
  path : String
  /-- What the request carries. -/
  body : String := ""
deriving DecidableEq, Repr

/-- What can be asked for. -/
inductive Route where
  /-- What the service is. -/
  | about
  /-- Whether it is alive. -/
  | health
  /-- To learn from a text. -/
  | learn
  /-- To answer a question. -/
  | query
  /-- What it knows. -/
  | knowledge
  /-- To forget everything. -/
  | reset
  /-- Its figures. -/
  | performance
deriving DecidableEq, Repr

namespace Route

/-- All routes. -/
def all : List Route := [about, health, learn, query, knowledge, reset, performance]

/-- Where a route is. -/
def path : Route → String
  | about => "/"
  | health => "/health"
  | learn => "/learn"
  | query => "/query"
  | knowledge => "/knowledge"
  | reset => "/reset"
  | performance => "/performance/stats"

/-- The method that a route takes. -/
def method : Route → String
  | learn | query | reset => "POST"
  | about | health | knowledge | performance => "GET"

end Route

/-- What the framework answers by itself. -/
inductive Aside where
  /-- A page about the service. -/
  | page
  /-- There is nothing at this path. -/
  | notFound
  /-- The path takes another method. -/
  | notAllowed
  /-- What is asked for is at the same path without a slash at its end, or with one. -/
  | moved
deriving DecidableEq, Repr

/-- What the service leaves to the framework that it runs in. -/
structure Framework where
  /-- The route that a method and a path lead to. -/
  route : (method path : String) → Except Aside Route
  /-- The text of the wanted field in a body. -/
  field : Wanted → (body : String) → Except Rejection String

/-- The text that a body carries, if it is as it should be. -/
def Framework.read (framework : Framework) (wanted : Wanted) (body : String) :
    Except Rejection String :=
  match framework.field wanted body with
  | .ok value => wanted.check value
  | .error rejection => .error rejection

end PrimeReasoner
