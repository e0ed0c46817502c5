import PrimeReasoner.Proofs.Bookkeeping
import PrimeReasoner.Proofs.Isolation
import PrimeReasoner.Service
import PrimeReasoner.Service.Standard

/-!
# The counters of the service

The service counts requests and errors.  A request counts if it is one to learn or to answer, its body is as it
should be, and it is handled to its end.  An error is an accepted request that was answered with status 400, or any
request that was answered with status 500 (`counters_of_responses`).

**One request** ends in one of a few ways (`Service.Handles`), of which each has its effect on the counters
(`Service.Handles.counters`).

**Where the two part.**  A request that breaks off is an error and no request.  That happens to a question if the depth
limit is no number (`Service.Handles.status_eq_iff`), so there may be more errors than requests
(`failed_question_uncounted`), and to a body that cannot be quoted in the complaint about it.
-/

namespace PrimeReasoner

/-! ## Requests -/

/-- What a body has to carry for a route, if anything. -/
def Route.wanted? : Route → Option Wanted
  | .learn => some .text
  | .query => some .question
  | _ => none

namespace Request

/-- The route that a request leads to, if any. -/
def route? (framework : Framework) (request : Request) : Option Route :=
  (framework.route request.method request.path).toOption

/-- What the body has to carry, if it is a request to learn or to answer. -/
def wanted? (framework : Framework) (request : Request) : Option Wanted :=
  (request.route? framework).bind Route.wanted?

/-- What is to be learned or answered, if the body is as it should be. -/
def text? (framework : Framework) (request : Request) : Option String :=
  (request.wanted? framework).bind fun wanted => (framework.read wanted request.body).toOption

/-- Is it a request to learn or to answer, with a body as it should be? -/
def isAccepted (framework : Framework) (request : Request) : Bool := (request.text? framework).isSome

/-- The fact that is asked about in an accepted question of a known form. -/
def goal? (framework : Framework) (request : Request) : Option Fact :=
  match request.wanted? framework, request.text? framework with
  | some .question, some text => Sentence.question? text.toList
  | _, _ => none

lemma goal?_of_question {framework : Framework} {request : Request} {text : String}
    (hwanted : request.wanted? framework = some .question) (htext : request.text? framework = some text) :
    request.goal? framework = Sentence.question? text.toList := by
  rw [goal?, hwanted, htext]

end Request

/-- Does the request count, answered so?  It does if it is accepted and did not break off. -/
def countsAsRequest (framework : Framework) (exchange : Request × Response) : Bool :=
  exchange.1.isAccepted framework && exchange.2.status != 500

/-- Is it an error?  It is one if it is accepted and answered with status 400, or if it broke off. -/
def countsAsError (framework : Framework) (exchange : Request × Response) : Bool :=
  exchange.1.isAccepted framework && exchange.2.status == 400 || exchange.2.status == 500

namespace Service

open Session (Turn)

/-! ## One request -/

/-- The service with its session after some turns. -/
def after (service : Service) (turns : List Turn) : Service :=
  { service with session := service.session.takeAll turns }

section Fields

variable (service : Service) (turns : List Turn)

@[simp] lemma session_after : (service.after turns).session = service.session.takeAll turns := rfl
@[simp] lemma requests_after : (service.after turns).requests = service.requests := rfl
@[simp] lemma errors_after : (service.after turns).errors = service.errors := rfl
@[simp] lemma session_countRequest : service.countRequest.session = service.session := rfl
@[simp] lemma requests_countRequest : service.countRequest.requests = service.requests + 1 := rfl
@[simp] lemma errors_countRequest : service.countRequest.errors = service.errors := rfl
@[simp] lemma session_countError : service.countError.session = service.session := rfl
@[simp] lemma requests_countError : service.countError.requests = service.requests := rfl
@[simp] lemma errors_countError : service.countError.errors = service.errors + 1 := rfl

end Fields

/-- **How the handling of a request ends.** -/
inductive Handles (framework : Framework) (service : Service) (request : Request) : Response → Service → Prop
  /-- It is not a request to learn or to answer. -/
  | elsewhere (response : Response) (turns : List Turn) (hwanted : request.wanted? framework = none)
      (hstatus : response.status ∈ [200, 307, 404, 405]) :
      Handles framework service request response (service.after turns)
  /-- The body is not what it should be. -/
  | rejected (wanted : Wanted) (hwanted : request.wanted? framework = some wanted)
      (htext : request.text? framework = none) (response : Response) (hstatus : response.status ∈ [400, 422]) :
      Handles framework service request response service
  /-- The body is not what it should be, which cannot be told. -/
  | unquotable (wanted : Wanted) (hwanted : request.wanted? framework = some wanted)
      (htext : request.text? framework = none) (flaw : Flaw) :
      Handles framework service request (.failed (.quoting flaw)) service.countError
  | silent (text : String) (hwanted : request.wanted? framework = some .text)
      (htext : request.text? framework = some text) :
      Handles framework service request .noSentences (service.after [.learn text]).countRequest.countError
  | learned (text : String) (hwanted : request.wanted? framework = some .text)
      (htext : request.text? framework = some text) (results : List String) (facts rules : ℕ) :
      Handles framework service request (.learned results facts rules)
        (service.after [.learn text, .summarise]).countRequest
  | unlearned (text : String) (hwanted : request.wanted? framework = some .text)
      (htext : request.text? framework = some text) (error : EncodingError)
      (hlearn : (service.session.learn text).1 = .error error) :
      Handles framework service request (.failed (.encoding error)) (service.after [.learn text]).countError
  | answered (text : String) (hwanted : request.wanted? framework = some .question)
      (htext : request.text? framework = some text) (answer : Answer)
      (hask : (service.session.ask text).1 = .ok answer) :
      Handles framework service request (.answered answer) (service.after [.ask text]).countRequest
  | unanswered (text : String) (hwanted : request.wanted? framework = some .question)
      (htext : request.text? framework = some text) (error : DeductionError)
      (hask : (service.session.ask text).1 = .error error) :
      Handles framework service request (.failed (.deduction error)) (service.after [.ask text]).countError

variable {framework : Framework} {service later : Service} {request : Request} {response : Response}

lemma handles_withBody {wanted : Wanted} {handle : String → Response × Service}
    (hwanted : request.wanted? framework = some wanted)
    (hhandle : ∀ text, request.text? framework = some text →
      service.Handles framework request (handle text).1 (handle text).2) :
    service.Handles framework request (service.withBody framework wanted request.body handle).1
      (service.withBody framework wanted request.body handle).2 := by
  have htext : request.text? framework = (framework.read wanted request.body).toOption := by
    rw [Request.text?, hwanted, Option.bind_some]
  unfold withBody
  split
  · next text hread => exact hhandle text (by rw [htext, hread]; rfl)
  · next hread => exact .rejected wanted hwanted (by rw [htext, hread]; rfl) .unreadable (by simp [Response.status])
  · next hread => exact .rejected wanted hwanted (by rw [htext, hread]; rfl) (.invalid _ _) (by simp [Response.status])
  · next hread => exact .unquotable wanted hwanted (by rw [htext, hread]; rfl) _

lemma handles_learn {text : String} (hwanted : request.wanted? framework = some .text)
    (htext : request.text? framework = some text) :
    service.Handles framework request (service.learn text).1 (service.learn text).2 := by
  have hafter : service.after [.learn text] = { service with session := (service.session.learn text).2 } := rfl
  have hsummary : service.after [.learn text, .summarise] =
      { service with session := (service.session.learn text).2.summary.2 } := rfl
  unfold Service.learn
  rcases hlearn : service.session.learn text with ⟨error | _ | ⟨lesson, lessons⟩, session⟩
  all_goals rw [hlearn] at hafter hsummary
  · have hend := Handles.unlearned text hwanted htext error (by rw [hlearn])
    rw [hafter] at hend
    exact hend
  · have hend : service.Handles framework request _ _ := .silent text hwanted htext
    rw [hafter] at hend
    exact hend
  · have hend : service.Handles framework request _ _ := .learned text hwanted htext
      ((lesson :: lessons).map Lesson.line) session.summary.1.facts.length session.summary.1.rules.length
    rw [hsummary] at hend
    exact hend

lemma handles_query {text : String} (hwanted : request.wanted? framework = some .question)
    (htext : request.text? framework = some text) :
    service.Handles framework request (service.query text).1 (service.query text).2 := by
  have hafter : service.after [.ask text] = { service with session := (service.session.ask text).2 } := rfl
  unfold Service.query
  rcases hask : service.session.ask text with ⟨error | answer, session⟩
  all_goals rw [hask] at hafter
  · have hend := Handles.unanswered text hwanted htext error (by rw [hask])
    rw [hafter] at hend
    exact hend
  · have hend := Handles.answered text hwanted htext answer (by rw [hask])
    rw [hafter] at hend
    exact hend

lemma handles_follow {route : Route} (hroute : request.route? framework = some route) :
    service.Handles framework request (service.follow framework request.body route).1
      (service.follow framework request.body route).2 := by
  have hwanted : request.wanted? framework = route.wanted? := by rw [Request.wanted?, hroute, Option.bind_some]
  cases route with
  | about => exact .elsewhere .about [] hwanted (by simp [Response.status])
  | health => exact .elsewhere (.health _ _) [.summarise] hwanted (by simp [Response.status])
  | learn => exact handles_withBody hwanted fun text htext => handles_learn hwanted htext
  | query => exact handles_withBody hwanted fun text htext => handles_query hwanted htext
  | knowledge => exact .elsewhere (.knowledge _) [.summarise] hwanted (by simp [Response.status])
  | reset => exact .elsewhere (.knowledge _) [.reset, .summarise] hwanted (by simp [Response.status])
  | performance => exact .elsewhere (.performance _ _ _) [] hwanted (by simp [Response.status])

/-- **Every request** is handled in one of these ways. -/
theorem handles_handle (framework : Framework) (service : Service) (request : Request) :
    service.Handles framework request (service.handle framework request).1
      (service.handle framework request).2 := by
  unfold handle
  cases hroute : framework.route request.method request.path with
  | ok route => exact handles_follow (by rw [Request.route?, hroute]; rfl)
  | error kind =>
      have hwanted : request.wanted? framework = none := by
        rw [Request.wanted?, Request.route?, hroute]
        rfl
      exact .elsewhere (.aside kind) [] hwanted (by cases kind <;> simp [Response.status, Aside.status])

namespace Handles

lemma exists_turns (h : service.Handles framework request response later) :
    ∃ turns, later.session = service.session.takeAll turns := by
  cases h with
  | elsewhere _ turns => exact ⟨turns, by simp⟩
  | rejected => exact ⟨[], rfl⟩
  | unquotable => exact ⟨[], rfl⟩
  | silent text => exact ⟨[.learn text], by simp⟩
  | learned text => exact ⟨[.learn text, .summarise], by simp⟩
  | unlearned text => exact ⟨[.learn text], by simp⟩
  | answered text => exact ⟨[.ask text], by simp⟩
  | unanswered text => exact ⟨[.ask text], by simp⟩

/-- **The counters after a request** are known from how it was answered. -/
lemma counters (h : service.Handles framework request response later) :
    later.requests = service.requests + (if countsAsRequest framework (request, response) then 1 else 0) ∧
    later.errors = service.errors + (if countsAsError framework (request, response) then 1 else 0) := by
  cases h with
  | elsewhere _ turns hwanted hstatus =>
      have htext : request.text? framework = none := by rw [Request.text?, hwanted, Option.bind_none]
      have hne : response.status ≠ 500 := by
        intro heq
        simp [heq] at hstatus
      simp [countsAsRequest, countsAsError, Request.isAccepted, htext, hne]
  | rejected _ _ htext _ hstatus =>
      have hne : response.status ≠ 500 := by
        intro heq
        simp [heq] at hstatus
      simp [countsAsRequest, countsAsError, Request.isAccepted, htext, hne]
  | unquotable _ _ htext => simp [countsAsRequest, countsAsError, Request.isAccepted, htext, Response.status]
  | silent _ _ htext => simp [countsAsRequest, countsAsError, Request.isAccepted, htext, Response.status]
  | learned _ _ htext => simp [countsAsRequest, countsAsError, Request.isAccepted, htext, Response.status]
  | unlearned _ _ htext => simp [countsAsRequest, countsAsError, Request.isAccepted, htext, Response.status]
  | answered _ _ htext => simp [countsAsRequest, countsAsError, Request.isAccepted, htext, Response.status]
  | unanswered _ _ htext => simp [countsAsRequest, countsAsError, Request.isAccepted, htext, Response.status]

/-- **Other requests, and rejected ones**, leave the counters alone. -/
lemma unchanged (h : service.Handles framework request response later)
    (hcase : request.wanted? framework = none ∨ response.status = 422) :
    later.requests = service.requests ∧ later.errors = service.errors := by
  cases h with
  | elsewhere => exact ⟨rfl, rfl⟩
  | rejected => exact ⟨rfl, rfl⟩
  | unquotable _ hwanted => simp [hwanted, Response.status] at hcase
  | silent _ hwanted => simp [hwanted, Response.status] at hcase
  | learned _ hwanted => simp [hwanted, Response.status] at hcase
  | unlearned _ hwanted => simp [hwanted, Response.status] at hcase
  | answered _ hwanted => simp [hwanted, Response.status] at hcase
  | unanswered _ hwanted => simp [hwanted, Response.status] at hcase

/-- **An accepted request breaks off** exactly if it is a question that is understood and the depth limit is no
number. -/
lemma status_eq_iff (h : service.Handles framework request response later) (hsound : service.session.store.Sound)
    (haccepted : request.isAccepted framework = true) : response.status = 500 ↔
      (request.goal? framework).isSome ∧ ∀ limit, service.session.engine.depthBound ≠ .ok limit := by
  cases h with
  | elsewhere _ _ hwanted => simp [Request.isAccepted, Request.text?, hwanted] at haccepted
  | rejected _ _ htext => simp [Request.isAccepted, htext] at haccepted
  | unquotable _ _ htext => simp [Request.isAccepted, htext] at haccepted
  | silent _ hwanted => simp [Request.goal?, hwanted, Response.status]
  | learned _ hwanted => simp [Request.goal?, hwanted, Response.status]
  | unlearned text _ _ error hlearn =>
      rw [Session.learn_eq hsound] at hlearn
      simp at hlearn
  | answered text hwanted htext answer hask =>
      rw [Request.goal?_of_question hwanted htext, ← Session.ask_fails_iff hsound text, hask]
      simp [Response.status]
  | unanswered text hwanted htext error hask =>
      rw [Request.goal?_of_question hwanted htext, ← Session.ask_fails_iff hsound text, hask]
      simp [Response.status]

end Handles

/-! ## Requests in a row -/

lemma exists_turns_handleAll (framework : Framework) (service : Service) (requests : List Request) :
    ∃ turns, (service.handleAll framework requests).2.session = service.session.takeAll turns := by
  induction requests generalizing service with
  | nil => exact ⟨[], rfl⟩
  | cons request requests ih =>
      obtain ⟨first, hfirst⟩ := (handles_handle framework service request).exists_turns
      obtain ⟨rest, hrest⟩ := ih (service.handle framework request).2
      refine ⟨first ++ rest, ?_⟩
      rw [Session.takeAll, List.foldl_append, ← Session.takeAll, ← Session.takeAll, ← hfirst]
      exact hrest

/-- **The counters after requests in a row**, by induction from the first one. -/
lemma counters_handleAll (framework : Framework) (service : Service) (requests : List Request) :
    (service.handleAll framework requests).1.length = requests.length ∧
    (service.handleAll framework requests).2.requests =
      service.requests + (requests.zip (service.handleAll framework requests).1).countP (countsAsRequest framework) ∧
    (service.handleAll framework requests).2.errors =
      service.errors + (requests.zip (service.handleAll framework requests).1).countP (countsAsError framework) := by
  induction requests generalizing service with
  | nil => exact ⟨rfl, rfl, rfl⟩
  | cons request requests ih =>
      obtain ⟨hrequests, herrors⟩ := (handles_handle framework service request).counters
      obtain ⟨hlength, hrequests', herrors'⟩ := ih (service.handle framework request).2
      rw [handleAll]
      simp only [List.length_cons, List.zip_cons_cons, List.countP_cons]
      refine ⟨by rw [hlength], ?_, ?_⟩
      · rw [hrequests', hrequests]
        omega
      · rw [herrors', herrors]
        omega

end Service

/-- **If no request breaks off**, the accepted ones are counted, and the errors are among them. -/
lemma counters_of_unbroken {framework : Framework} {requests : List Request} {responses : List Response}
    (hlength : responses.length = requests.length) (hstatus : ∀ response ∈ responses, response.status ≠ 500) :
    (requests.zip responses).countP (countsAsRequest framework) = requests.countP (Request.isAccepted framework) ∧
    (requests.zip responses).countP (countsAsError framework) = (requests.zip responses).countP (fun exchange =>
      exchange.1.isAccepted framework && (exchange.2.status == 400 || exchange.2.status == 500)) ∧
    (requests.zip responses).countP (countsAsError framework) ≤
      (requests.zip responses).countP (countsAsRequest framework) := by
  have hne : ∀ exchange ∈ requests.zip responses, exchange.2.status ≠ 500 := by
    intro exchange hexchange
    exact hstatus exchange.2 (List.of_mem_zip hexchange).2
  refine ⟨?_, ?_, ?_⟩
  · have hfirst : (requests.zip responses).map Prod.fst = requests := List.map_fst_zip hlength.ge
    conv_rhs => rw [← hfirst, List.countP_map]
    refine List.countP_congr fun exchange hexchange => ?_
    simp [countsAsRequest, hne exchange hexchange]
  · refine List.countP_congr fun exchange hexchange => ?_
    simp [countsAsError, hne exchange hexchange]
  · refine List.countP_mono_left fun exchange hexchange herror => ?_
    have haccepted : exchange.1.isAccepted framework = true := by
      simp only [countsAsError, beq_eq_false_iff_ne.mpr (hne exchange hexchange), Bool.or_false,
        Bool.and_eq_true] at herror
      exact herror.1
    simp [countsAsRequest, haccepted, hne exchange hexchange]

/-- **What the counters say.**  Whatever framework the service runs in, however it is configured, and whatever it is
asked for, `requests` counts the accepted requests that did not break off, and `errors` counts the accepted ones
answered with status 400 and all that broke off.  Without the latter, these are the accepted requests and those among
them that failed, so there are at most as many errors as requests.  An accepted request breaks off exactly if it is a
question that is understood and the depth limit is no number; requests at other routes, and requests rejected with
status 422, are not counted. -/
theorem counters_of_responses (framework : Framework) {machine : Machine} {config : Config} {session : Session}
    (hsession : Session.ofConfig machine config = .ok session) (requests : List Request) :
    let responses := (Service.handleAll framework { session } requests).1
    let service := (Service.handleAll framework { session } requests).2
    responses.length = requests.length ∧
    service.requests = (requests.zip responses).countP (countsAsRequest framework) ∧
    service.errors = (requests.zip responses).countP (countsAsError framework) ∧
    ((∀ response ∈ responses, response.status ≠ 500) →
      service.requests = requests.countP (Request.isAccepted framework) ∧
      service.errors = (requests.zip responses).countP (fun exchange =>
        exchange.1.isAccepted framework && (exchange.2.status == 400 || exchange.2.status == 500)) ∧
      service.errors ≤ service.requests) ∧
    ∀ request : Request,
      (request.isAccepted framework = true → ((service.handle framework request).1.status = 500 ↔
        (request.goal? framework).isSome ∧
          ∀ limit, ({ machine, maxDepth := config.maxDepth } : Engine).depthBound ≠ .ok limit)) ∧
      (request.wanted? framework = none ∨ (service.handle framework request).1.status = 422 →
        (service.handle framework request).2.requests = service.requests ∧
        (service.handle framework request).2.errors = service.errors) := by
  intro responses service
  obtain ⟨bound, rfl⟩ := Session.eq_start_of_ofConfig hsession
  have hstart : (Session.start machine config bound).store.Sound := Store.sound_fresh bound []
  obtain ⟨hlength, hrequests, herrors⟩ :=
    Service.counters_handleAll framework { session := Session.start machine config bound } requests
  obtain ⟨turns, hturns⟩ :=
    Service.exists_turns_handleAll framework { session := Session.start machine config bound } requests
  rw [Nat.zero_add] at hrequests herrors
  refine ⟨hlength, hrequests, herrors, ?_, ?_⟩
  · intro hstatus
    obtain ⟨haccepted, hfailed, hle⟩ := counters_of_unbroken hlength hstatus
    exact ⟨hrequests.trans haccepted, herrors.trans hfailed, hrequests.ge.trans' (herrors.le.trans hle)⟩
  · intro request
    have hhandles := Service.handles_handle framework service request
    have hsound : service.session.store.Sound := by
      rw [hturns]
      exact Session.sound_takeAll hstart turns
    have hdepth : service.session.engine.depthBound =
        ({ machine, maxDepth := config.maxDepth } : Engine).depthBound := by
      rw [hturns]
      obtain ⟨-, hconfigured, hmachine⟩ := Session.configured_takeAll hstart rfl turns
      exact Engine.depthBound_congr hmachine hconfigured
    refine ⟨fun haccepted => ?_, hhandles.unchanged⟩
    rw [← hdepth]
    exact hhandles.status_eq_iff hsound haccepted

/-- A framework to try the service in. -/
def sampleFramework : Framework := .standard 10

/-- The responses to some requests in this framework, and the service afterwards. -/
def sampleRun (session : Session) (requests : List Request) : List Response × Service :=
  Service.handleAll sampleFramework { session } requests

/-- A text without a sentence, and a question about the health of the service. -/
def harmlessRequests : List Request := [⟨"POST", "/learn", "\x7b\"text\": \"?\"\x7d"⟩, ⟨"GET", "/health", ""⟩]

theorem counters_of_harmless_requests :
    Session.ofConfig .usual {} = .ok (Session.start .usual {} 1000) ∧
    (sampleRun (Session.start .usual {} 1000) harmlessRequests).1.map Response.status = [400, 200] ∧
    (sampleRun (Session.start .usual {} 1000) harmlessRequests).2.requests =
      harmlessRequests.countP (Request.isAccepted sampleFramework) ∧
    (sampleRun (Session.start .usual {} 1000) harmlessRequests).2.errors ≤
      (sampleRun (Session.start .usual {} 1000) harmlessRequests).2.requests := by
  have hsession : Session.ofConfig .usual {} = .ok (Session.start .usual {} 1000) := by rfl
  have hstatus : (sampleRun (Session.start .usual {} 1000) harmlessRequests).1.map Response.status = [400, 200] := by
    decide +kernel
  obtain ⟨-, -, -, hunbroken, -⟩ := counters_of_responses sampleFramework hsession harmlessRequests
  obtain ⟨hrequests, -, hle⟩ := hunbroken fun response hresponse heq => by
    have hmem := List.mem_map_of_mem (f := Response.status) hresponse
    rw [← sampleRun, hstatus, heq] at hmem
    simp at hmem
  exact ⟨hsession, hstatus, hrequests, hle⟩

/-- A question that is understood. -/
def plainQuestion : Request := ⟨"POST", "/query", "\x7b\"question\": \"Is a b?\"\x7d"⟩

/-- **More errors than requests.**  A question that breaks off is an error only. -/
theorem failed_question_uncounted :
    Session.ofConfig .usual { maxDepth := .scalar (.text "deep") } = .ok deepSession ∧
    plainQuestion.isAccepted sampleFramework = true ∧
    (sampleRun deepSession [plainQuestion]).1.map Response.status = [500] ∧
    (sampleRun deepSession [plainQuestion]).2.requests = 0 ∧
    (sampleRun deepSession [plainQuestion]).2.errors = 1 := by
  have hsession : Session.ofConfig .usual { maxDepth := .scalar (.text "deep") } = .ok deepSession := by rfl
  exact ⟨hsession, by decide +kernel⟩

end PrimeReasoner
