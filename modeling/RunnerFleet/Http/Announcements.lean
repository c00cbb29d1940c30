import RunnerFleet.Arbiter
import RunnerFleet.Http.Exchange
import RunnerFleet.Json.Parser
import RunnerFleet.Json.Schema

/-!
# The endpoint for guests' announcements

A guest posts its hardware id and its address as a JSON document, whatever content type it names.
-/

namespace RunnerFleet.Http

/-- What a guest announces. -/
structure Announcement where
  guest : GuestId
  address : String
  deriving DecidableEq, Repr

/-- Reads the document of an announcement; missing fields are empty. -/
def Announcement.ofJson? (v : Json) : Option Announcement := do
  match ← v.pick? ["runner_id", "ip_address"] with
  | [guest, address] =>
    return {
      guest := ← Json.defaulted? Json.asText? "" guest
      address := ← Json.defaulted? Json.asText? "" address }
  | _ => none

/-- The announcement in a request's body, or the answer that refuses it. -/
def readAnnouncement (body : List UInt8) : Except Answer Announcement :=
  match (Json.parse? body).bind Announcement.ofJson? with
  | none => .error (.ofText 400 "Invalid request body")
  | some a =>
    if a.guest = "" ∨ a.address = "" then
      .error (.ofText 400 "Missing runner_id or ip_address")
    else .ok a

/-- The answer to an announcement that was routed. -/
def announcementAnswer : Except ArbiterError AddressWait → Answer
  | .ok _ => .ofJson 200 (.ofFields [("status", .text "ok")])
  | .error .noPendingRequests => .ofText 404 "No pending requests"
  | .error _ => .ofText 500 "Internal error"

/-- Serves one request: the arbiter afterwards, the delivery it made, and the answer. -/
def serveAnnouncement (a : Arbiter) (method target : String) (body : List UInt8) :
    Arbiter × Option (AddressWait × String) × Answer :=
  match fill? [.word "", .word "notify-ip"] (segmentsOf target) with
  | none => (a, none, .notFound)
  | some _ =>
    if method != "POST" then (a, none, .methodNotAllowed "POST")
    else
      match readAnnouncement body with
      | .error answer => (a, none, answer)
      | .ok announcement =>
        let (a, routed) := a.announce announcement.guest
        (a, routed.toOption.map ((·, announcement.address)), announcementAnswer routed)

end RunnerFleet.Http
