import OutOfBand.Proofs.Session.Opening
import OutOfBand.Session.Program

/-! # The lifecycle of a session

A program that runs inside a session of its own leaves no session behind. However it goes on, whether it
closes the session itself and whether it ends in a value or in a panic, a session that was created on the
device is deleted once, and the deletion is the last that the session sends. What the program does after a
close finds the session closed, and what the device answers to the deletion changes nothing about how the
program ends. What the client makes of a request when it is redirected belongs to that request.
-/
namespace OutOfBand

open Session

namespace Program

variable {α β : Type}

/-- The value of a program that finds the session closed: every request is answered with that error. -/
def abandoned : Program α → α
  | done value => value
  | execute _ next => (next (.error .closed)).abandoned
  | close next => next.abandoned

/-- Run a program up to the first time it closes the session, and say what is left of it then. -/
def untilClosed : Program α → Session → Wire → Program α × Wire
  | done value, _, wire => (done value, wire)
  | execute spec next, session, wire =>
    match session.execute spec wire with
    | (reply, wire) => (next reply).untilClosed session wire
  | close next, _, wire => (next, wire)

theorem run_of_closed {s : Session} (h : s.isOpen = false) (p : Program α) (wire : Wire) :
    p.run s wire = (p.abandoned, s, wire) := by
  induction p with
  | done value => rfl
  | execute spec next ih => simp only [run, execute_of_closed h, ih, abandoned]
  | close next ih => simp only [run, close_of_closed h, ih, abandoned]

/-- A program and the close behind it come to the same as its run up to the first close, that close,
and the rest on a closed session. -/
theorem run_close (p : Program α) (s : Session) (wire : Wire) :
    (p.run s wire).1 = (p.untilClosed s wire).1.abandoned ∧
      ((p.run s wire).2.1.close (p.run s wire).2.2).2 = (s.close (p.untilClosed s wire).2).2 := by
  induction p generalizing wire with
  | done value => exact ⟨rfl, rfl⟩
  | execute spec next ih =>
    rcases hx : s.execute spec wire with ⟨reply, later⟩
    simp only [run, untilClosed, hx]
    exact ih reply later
  | close next _ =>
    have hclosed := close_isOpen s wire
    simp only [run, untilClosed, run_of_closed hclosed, close_of_closed hclosed, and_self]

theorem untilClosed_client (p : Program α) (s : Session) (wire : Wire) : (p.untilClosed s wire).2.client = wire.client := by
  induction p generalizing wire with
  | done value => rfl
  | execute spec next ih =>
    have hclient := s.execute_client spec wire
    rcases hx : s.execute spec wire with ⟨reply, later⟩
    rw [hx] at hclient
    simp only [untilClosed, hx]
    exact (ih reply later).trans hclient
  | close next _ => rfl

theorem run_bind (p : Program α) (f : α → Program β) (s : Session) (wire : Wire) :
    (p.bind f).run s wire = (f (p.run s wire).1).run (p.run s wire).2.1 (p.run s wire).2.2 := by
  induction p generalizing s wire with
  | done value => rfl
  | execute spec next ih => exact ih _ s _
  | close next ih => exact ih _ _

theorem untilClosed_sent (p : Program α) (s : Session) (wire : Wire) :
    ∃ work : List Attempt, (p.untilClosed s wire).2.attempts = wire.attempts ++ work ∧
      ∀ a ∈ work, AsksForJson a.request := by
  induction p generalizing wire with
  | done value => exact ⟨[], (List.append_nil _).symm, fun a ha => absurd ha List.not_mem_nil⟩
  | execute spec next ih =>
    obtain ⟨sent, hlog, _, hsent⟩ := execute_sent s spec wire
    rcases hx : s.execute spec wire with ⟨reply, later⟩
    rw [hx] at hlog
    obtain ⟨work, hwork, hasks⟩ := ih reply later
    refine ⟨sent ++ work, ?_, ?_⟩
    · simp only [untilClosed, hx]
      rw [hwork, show later.attempts = wire.attempts ++ sent from hlog, List.append_assoc]
    · intro a ha
      rcases List.mem_append.mp ha with ha | ha
      · exact (hsent a ha).1
      · exact hasks a ha
  | close next _ => exact ⟨[], (List.append_nil _).symm, fun a ha => absurd ha List.not_mem_nil⟩

end Program

namespace Body

variable {α : Type}

theorem run_released (body : Body α) : body.released.run = Program.bind body.run (fun outcome => .close (.done outcome)) := by
  have hreleased : ∀ p : Program (Except Panic α),
      (released (ExceptT.mk p)).run = p.bind (fun outcome => .close (.done outcome)) := by
    intro p
    induction p with
    | done outcome =>
      cases outcome with
      | ok value => rfl
      | error payload => rfl
    | execute spec next ih => exact congrArg (Program.execute spec) (funext ih)
    | close next ih => exact congrArg Program.close ih
  exact hreleased body.run

/-- The session is closed behind the body as behind any program, and a panic goes on only then. -/
theorem inSession_eq (files : FileTree) (config : SessionConfig) (body : Body α) (wire : Wire) :
    body.inSession files config wire =
      match withSession files config body.run wire with
      | (.error e, wire) => (.ok (.error e), wire)
      | (.ok outcome, wire) => (outcome.map .ok, wire) := by
  unfold inSession withSession
  rcases Session.open files config wire with ⟨shown, opened⟩
  cases shown with
  | error e => rfl
  | ok session =>
    dsimp only
    rw [run_released, Program.run_bind]
    rfl

/-- What a session leaves behind, however its body ends: in a result, in a failure or in a panic. The attempts of a run
are those of opening, those of the body's own requests, and those of closing: at most a login, then requests in use,
then the deletion of the session on the device if the login reply has granted a token and told an id, and otherwise
nothing. Only where the client does not take the URL of the deletion is none sent. The body ends as it does when
everything after its first close finds the session closed, whatever stands in for the device and the network that
answer the deletion. -/
theorem inSession_lifecycle (files : FileTree) (config : SessionConfig) (body : Body α) (wire : Wire) :
    ∃ opening work closing : List Attempt,
      (body.inSession files config wire).2.attempts = wire.attempts ++ opening ++ work ++ closing ∧
      opening.length ≤ 1 ∧ (∀ a ∈ opening, IsLogin config a.request) ∧
      (∀ a ∈ opening ++ work, ∀ id, ¬ IsDeletion config id a.request) ∧
      (∀ id, createdSession? files config wire = some id ↔ ∃ reply token, loginReply? files config wire = some reply ∧
        200 ≤ reply.status ∧ reply.status < 300 ∧ reply.headers.text? tokenHeader = some token ∧ token ≠ "" ∧
        GivesId reply id) ∧
      (match createdSession? files config wire with
        | some id => Releases config wire.client id closing
        | none => closing = []) ∧
      match Session.open files config wire with
      | (.error e, _) => (body.inSession files config wire).1 = .ok (.error e) ∧ work = [] ∧ closing = []
      | (.ok session, opened) =>
        let (rest, worked) := Program.untilClosed body.run session opened
        body.inSession files config wire = (rest.abandoned.map .ok, (session.close worked).2) ∧
        worked.attempts = wire.attempts ++ opening ++ work ∧
        ∀ (device : Device) (network : Network),
          let (closed, later) := session.close { worked with device := device, network := network }
          rest.run closed later = (rest.abandoned, closed, later) := by
  obtain ⟨opening, hopening, hlength, hlogin⟩ := open_sent files config wire
  have hresult := open_result files config wire
  have hclient := open_client files config wire
  have hnotDeletion : ∀ a ∈ opening, ∀ id, ¬ IsDeletion config id a.request :=
    fun a ha id => (hlogin a ha).not_isDeletion id
  have hnamed := fun id => @createdSession?_eq_some_iff files config wire id
  rcases ho : Session.open files config wire with ⟨result, opened⟩
  rw [ho] at hopening hresult hclient
  cases result with
  | error e =>
    have hrun : body.inSession files config wire = (.ok (.error e), opened) := by simp only [inSession, ho]
    refine ⟨opening, [], [], ?_, hlength, hlogin, ?_, hnamed, ?_, ?_⟩
    · simpa only [hrun, List.append_nil] using hopening
    · simpa only [List.append_nil] using hnotDeletion
    · rw [hresult]
    · simp only [hrun, and_self]
  | ok session =>
    obtain ⟨hopened, hcreated⟩ := hresult
    obtain ⟨work, hwork, hasks⟩ := Program.untilClosed_sent body.run session opened
    have hworked := (Program.untilClosed_client body.run session opened).trans hclient
    obtain ⟨closing, hclosing, hrelease⟩ := hopened.close_sent (Program.untilClosed body.run session opened).2
    rw [hworked, hcreated] at hrelease
    obtain ⟨hvalue, hwire⟩ := Program.run_close body.run session opened
    have hrun : body.inSession files config wire =
        ((Program.untilClosed body.run session opened).1.abandoned.map .ok,
          (session.close (Program.untilClosed body.run session opened).2).2) := by
      simp only [inSession_eq, withSession, ho, hvalue, hwire]
    rw [hopening] at hwork
    refine ⟨opening, work, closing, ?_, hlength, hlogin, ?_, hnamed, hrelease, ?_⟩
    · rw [hrun, hclosing, hwork]
    · intro a ha
      rcases List.mem_append.mp ha with ha | ha
      · exact hnotDeletion a ha
      · exact fun id hdeletion => hdeletion.not_asksForJson (hasks a ha)
    · exact ⟨hrun, hwork, fun device network => Program.run_of_closed (close_isOpen _ _) _ _⟩

/-- Redirects add requests to those of the session: behind a login that has failed, and behind the deletion. -/
theorem inSession_redirected :
    let config : SessionConfig := ⟨⟨"127.0.0.1", 443, .http, .system, 30000⟩, .basic "root" "calvin", .redfish, none⟩
    let wire (replies : List Reply) : Wire := ⟨⟨.ipv4 0x7F000001, 443, true, none, replies⟩, []⟩
    let requested (replies : List Reply) : List (String × String) :=
      ((pure () : Body Unit).inSession FileTree.empty config (wire replies)).2.requests.map
        (fun request => (request.method, request.url.target))
    requested [.answer 302 [("location", "/login")] [], .answer 200 [] []] =
        [("POST", "/redfish/v1/SessionService/Sessions"), ("GET", "/login")] ∧
      requested [.answer 201 [("x-auth-token", "t"), ("location", "/redfish/v1/SessionService/Sessions/7")] [],
          .answer 307 [("location", "/elsewhere")] [], .answer 204 [] []] =
        [("POST", "/redfish/v1/SessionService/Sessions"), ("DELETE", "/redfish/v1/SessionService/Sessions/7"),
          ("DELETE", "/elsewhere")] := by
  decide +kernel

end Body

end OutOfBand
