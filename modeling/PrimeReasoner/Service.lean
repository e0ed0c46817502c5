import PrimeReasoner.Service.Response

/-!
# The service

The service holds one session and answers requests about it, one after the other. It counts the
requests to learn and to answer, and the failures.

* `Service.follow` answers a request at a route.
* `Service.handle` answers one request, `Service.handleAll` several in a row, in a framework.
-/

namespace PrimeReasoner

/-- The service. -/
structure Service where
  /-- The session that all requests share. -/
  session : Session
  /-- Requests to learn or to answer that were handled to their end. -/
  requests : Nat := 0
  /-- Requests that failed. -/
  errors : Nat := 0

namespace Service

/-- Lists what is known. -/
def summary (service : Service) : Summary × Service :=
  let (summary, session) := service.session.summary
  (summary, { service with session })

/-- Counts a request that was handled to its end. -/
def countRequest (service : Service) : Service := { service with requests := service.requests + 1 }

/-- Counts a failure. -/
def countError (service : Service) : Service := { service with errors := service.errors + 1 }

/-- Learns from a text. -/
def learn (service : Service) (text : String) : Response × Service :=
  match service.session.learn text with
  | (.error error, session) => (.failed (.encoding error), countError { service with session })
  | (.ok [], session) => (.noSentences, (countRequest { service with session }).countError)
  | (.ok lessons, session) =>
    let (summary, service) := Service.summary { service with session }
    (.learned (lessons.map Lesson.line) summary.facts.length summary.rules.length,
      service.countRequest)

/-- Answers a question. A failure is counted as such only. -/
def query (service : Service) (question : String) : Response × Service :=
  match service.session.ask question with
  | (.ok answer, session) => (.answered answer, countRequest { service with session })
  | (.error error, session) => (.failed (.deduction error), countError { service with session })

/-- Handles what the body of a request carries, if it is as it should be. -/
def withBody (framework : Framework) (service : Service) (wanted : Wanted) (body : String)
    (handle : String → Response × Service) : Response × Service :=
  match framework.read wanted body with
  | .ok text => handle text
  | .error { fault := .unreadable, .. } => (.unreadable, service)
  | .error { fault, flaw := none } => (.invalid wanted fault, service)
  | .error { flaw := some flaw, .. } => (.failed (.quoting flaw), service.countError)

/-- Answers a request at a route. -/
def follow (framework : Framework) (service : Service) (body : String) : Route → Response × Service
  | .about => (.about, service)
  | .health =>
    let (summary, service) := service.summary
    (.health summary.facts.length summary.rules.length, service)
  | .learn => service.withBody framework .text body service.learn
  | .query => service.withBody framework .question body service.query
  | .knowledge =>
    let (summary, service) := service.summary
    (.knowledge summary, service)
  | .reset =>
    let (summary, service) := Service.summary { service with session := service.session.reset }
    (.knowledge summary, service)
  | .performance =>
    (.performance service.requests service.errors service.session.figures, service)

/-- Answers a request. -/
def handle (framework : Framework) (service : Service) (request : Request) : Response × Service :=
  match framework.route request.method request.path with
  | .ok route => service.follow framework request.body route
  | .error aside => (.aside aside, service)

/-- Answers requests in a row. -/
def handleAll (framework : Framework) (service : Service) : List Request → List Response × Service
  | [] => ([], service)
  | request :: requests =>
    let (response, service) := service.handle framework request
    let (responses, service) := service.handleAll framework requests
    (response :: responses, service)

end Service

end PrimeReasoner
