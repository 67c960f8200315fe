import Mathlib.Data.List.Forall2
import OutOfBand.Failure
import OutOfBand.Proofs.Session.Exchange
import OutOfBand.Session.Program

/-! # Transcripts

What a program asks for and what it hears, request by request. The value of a run follows from its
transcript alone. On an open session an exchange of the transcript is one attempt on the wire, or it is
none: then HTTP does not allow what the session shows, or the client does not take the URL.
-/
namespace OutOfBand

open Http Session

variable {α : Type}

/-- One request of a program and what came back for it. -/
structure Exchange where
  spec : RequestSpec
  reply : Except SessionError Envelope

/-- There is no complete response, so the failure that comes of it tells that the device was not reached. -/
def Exchange.isLost (e : Exchange) : Bool :=
  match e.reply with
  | .ok _ => false
  | .error err => (Failure.ofSessionError err).isUnreachable

def Exchange.isAnswered (e : Exchange) : Bool := isAnsweredWell e.reply

/-- The request was not attempted, as no client could send it. -/
def Exchange.isUnsent (e : Exchange) : Bool := OutOfBand.isUnsent e.reply

def Attempt.isLost (a : Attempt) : Bool := a.fate.toOption.isNone

theorem Attempt.isLost_of_succeeded {a : Attempt} (h : a.succeeded = true) : a.isLost = false := by
  unfold succeeded at h
  unfold isLost
  cases hfate : a.fate.toOption with
  | none =>
    rw [hfate] at h
    cases h
  | some status => rfl

theorem Exchange.isLost_of_isAnswered {e : Exchange} (h : e.isAnswered = true) : e.isLost = false := by
  unfold isAnswered isAnsweredWell at h
  unfold isLost
  cases hreply : e.reply with
  | ok reply => rfl
  | error err =>
    rw [hreply] at h
    cases h

theorem Exchange.isLost_of_isUnsent {e : Exchange} (h : e.isUnsent = true) : e.isLost = true := by
  rw [isLost, isUnsent_iff.mp h]
  rfl

theorem Failure.isUnreachable_ofLoss (timeout : Nat) (loss : Loss) :
    (ofSessionError (.ofLoss timeout loss)).isUnreachable = true := by
  cases loss with
  | _ => rfl

/-! ## Programs -/

namespace Program

/-- The exchanges of a run, in order. -/
def transcript : Program α → Session → Wire → List Exchange
  | done _, _, _ => []
  | execute spec next, session, wire =>
    match session.execute spec wire with
    | (reply, wire) => ⟨spec, reply⟩ :: (next reply).transcript session wire
  | close next, session, wire =>
    match session.close wire with
    | (session, wire) => next.transcript session wire

/-- The program makes these requests and ends in the value when it hears these replies to them. -/
inductive Hears : Program α → List Exchange → α → Prop
  | done (value : α) : Hears (.done value) [] value
  | execute {spec : RequestSpec} {next : Except SessionError Envelope → Program α} {reply : Except SessionError Envelope}
      {rest : List Exchange} {value : α} (h : Hears (next reply) rest value) :
      Hears (.execute spec next) (⟨spec, reply⟩ :: rest) value
  | close {next : Program α} {rest : List Exchange} {value : α} (h : Hears next rest value) :
      Hears (.close next) rest value

/-- The value of a run is the one that follows from its transcript. -/
theorem hears_transcript (p : Program α) (s : Session) (wire : Wire) :
    p.Hears (p.transcript s wire) (p.run s wire).1 := by
  induction p generalizing s wire with
  | done value => exact .done value
  | execute spec next ih => exact .execute (ih _ s _)
  | close next ih => exact .close (ih _ _)

/-- No request has headers of its own, and the session stays open. -/
inductive IsPlain : Program α → Prop
  | done (value : α) : IsPlain (.done value)
  | execute {spec : RequestSpec} {next : Except SessionError Envelope → Program α} (hspec : spec.headers = [])
      (hnext : ∀ reply, IsPlain (next reply)) : IsPlain (.execute spec next)

end Program

/-! ## What is sent -/

/-- The attempt carries the request of the exchange, and its fate is the reply. -/
structure Exchange.IsSentAs (e : Exchange) (a : Attempt) : Prop where
  reply : a.HasReply e.reply
  isLost : a.isLost = e.isLost
  method : a.request.method = e.spec.method
  body : a.request.body = e.spec.body
  asksForJson : AsksForJson a.request

/-- The attempt goes to where the path of the exchange leads from the base. -/
def Exchange.IsAddressedAs (base : Url) (root : String) (e : Exchange) (a : Attempt) : Prop :=
  ∃ url, e.spec.resolve base root = .ok url ∧ a.request.url = url.withoutUserInfo

theorem Exchange.IsSentAs.succeeded {e : Exchange} {a : Attempt} (h : e.IsSentAs a) : a.succeeded = e.isAnswered :=
  h.reply.succeeded_eq

theorem exists_mem_of_forall₂ {β γ : Type} {R : β → γ → Prop} {front : List β} {back : List γ}
    (h : List.Forall₂ R front back) {c : γ} (hc : c ∈ back) : ∃ b ∈ front, R b c := by
  induction h with
  | nil => cases hc
  | cons hfirst _ ih =>
    rcases List.mem_cons.mp hc with rfl | hc
    · exact ⟨_, List.mem_cons_self, hfirst⟩
    · obtain ⟨b, hb, hrelated⟩ := ih hc
      exact ⟨b, List.mem_cons_of_mem _ hb, hrelated⟩

/-- The attempts are the exchanges that were sent, one by one, each carried as one attempt. -/
def AreCarried (R : Exchange → Attempt → Prop) (exchanges : List Exchange) (sent : List Attempt) : Prop :=
  List.Forall₂ R (exchanges.filter (fun e => !e.isUnsent)) sent

namespace AreCarried

variable {R : Exchange → Attempt → Prop} {exchanges : List Exchange} {sent : List Attempt}

theorem imp {R' : Exchange → Attempt → Prop} (h : AreCarried R exchanges sent) (himp : ∀ e a, R e a → R' e a) :
    AreCarried R' exchanges sent := List.Forall₂.imp (fun e a => himp e a) h

theorem exists_of_mem_sent (h : AreCarried R exchanges sent) {a : Attempt} (ha : a ∈ sent) :
    ∃ e ∈ exchanges, e.isUnsent = false ∧ R e a := by
  obtain ⟨e, he, hcarried⟩ := exists_mem_of_forall₂ h ha
  obtain ⟨hmem, hsent⟩ := List.mem_filter.mp he
  exact ⟨e, hmem, by simpa using hsent, hcarried⟩

theorem exists_sent_of_mem (h : AreCarried R exchanges sent) {e : Exchange} (he : e ∈ exchanges) (hsent : e.isUnsent = false) :
    ∃ a ∈ sent, R e a := by
  have hback : List.Forall₂ (fun a e => R e a) sent (exchanges.filter (fun e => !e.isUnsent)) := List.Forall₂.flip h
  exact exists_mem_of_forall₂ hback (List.mem_filter.mpr ⟨he, by rw [hsent]; rfl⟩)

theorem cons_sent {e : Exchange} {a : Attempt} (he : e.isUnsent = false) (ha : R e a) (h : AreCarried R exchanges sent) :
    AreCarried R (e :: exchanges) (a :: sent) := by
  rw [AreCarried, List.filter_cons, he]
  exact .cons ha h

theorem cons_unsent {e : Exchange} (he : e.isUnsent = true) (h : AreCarried R exchanges sent) :
    AreCarried R (e :: exchanges) sent := by
  rw [AreCarried, List.filter_cons, he]
  exact h

theorem eq_nil (h : AreCarried R [] sent) : sent = [] := List.forall₂_nil_left_iff.mp h

theorem of_cons_sent {e : Exchange} (h : AreCarried R (e :: exchanges) sent) (he : e.isUnsent = false) :
    ∃ a rest, sent = a :: rest ∧ R e a ∧ AreCarried R exchanges rest := by
  rw [AreCarried, List.filter_cons, he] at h
  obtain ⟨a, rest, ha, hrest, rfl⟩ := List.forall₂_cons_left_iff.mp h
  exact ⟨a, rest, rfl, ha, hrest⟩

theorem of_cons_unsent {e : Exchange} (h : AreCarried R (e :: exchanges) sent) (he : e.isUnsent = true) :
    AreCarried R exchanges sent := by
  rw [AreCarried, List.filter_cons, he] at h
  exact h

end AreCarried

namespace Session

theorem exchange_error {trust : Trust} {timeout : Nat} {composed : Except Loss Request} {wire : Wire} {e : SessionError}
    (h : (exchange trust timeout composed wire).1 = .error e) : (Failure.ofSessionError e).isUnreachable = true := by
  have hloss : ∃ loss, e = .ofLoss timeout loss := by
    cases composed with
    | error loss =>
      cases h
      exact ⟨loss, rfl⟩
    | ok request =>
      simp only [exchange] at h
      rcases hsend : wire.send trust request with ⟨response, later⟩
      rw [hsend] at h
      cases response with
      | error loss =>
        cases h
        exact ⟨loss, rfl⟩
      | ok response => cases h
  obtain ⟨loss, rfl⟩ := hloss
  exact Failure.isUnreachable_ofLoss timeout loss

theorem IsReady.execute_sentAs {s : Session} (hs : s.IsReady) {spec : RequestSpec} {wire : Wire}
    (h : s.CanSend wire.client spec) :
    ∃ a : Attempt, (s.execute spec wire).2.attempts = wire.attempts ++ [a] ∧
      Exchange.IsSentAs ⟨spec, (s.execute spec wire).1⟩ a ∧
      Exchange.IsAddressedAs s.base s.family.root ⟨spec, (s.execute spec wire).1⟩ a ∧
      Exchange.isUnsent ⟨spec, (s.execute spec wire).1⟩ = false := by
  obtain ⟨a, hlog, hreply, hrequest, hsent⟩ := hs.execute_attempt h
  obtain ⟨_, _, hexecute⟩ := hs.execute_eq_exchange h.headers wire
  have hlost : a.isLost = Exchange.isLost ⟨spec, (s.execute spec wire).1⟩ := by
    rw [Attempt.isLost, hreply, Exchange.isLost]
    dsimp only
    cases hx : (s.execute spec wire).1 with
    | ok reply => rfl
    | error e =>
      rw [hexecute] at hx
      exact (exchange_error hx).symm
  exact ⟨a, hlog, ⟨hreply, hlost, hrequest.method, hrequest.body, hrequest.asksForJson⟩, hrequest.url, hsent⟩

end Session

namespace Program.IsPlain

variable {p : Program α} {s : Session}

/-- On an open session each exchange of a run that can be sent is one attempt, and any other is none. -/
theorem run_carried (hp : p.IsPlain) (hs : s.IsReady) (wire : Wire) :
    (p.run s wire).2.1 = s ∧ (p.run s wire).2.2.client = wire.client ∧
      (∃ sent : List Attempt, (p.run s wire).2.2.attempts = wire.attempts ++ sent ∧
        AreCarried (fun e a => e.IsSentAs a ∧ e.IsAddressedAs s.base s.family.root a) (p.transcript s wire) sent) ∧
      ∀ e ∈ p.transcript s wire, e.spec.headers = [] ∧ (e.isUnsent = true ↔ ¬ s.CanSend wire.client e.spec) := by
  induction hp generalizing wire with
  | done value => exact ⟨rfl, rfl, ⟨[], (List.append_nil _).symm, .nil⟩, fun e he => absurd he List.not_mem_nil⟩
  | @execute spec next hspec _ ih =>
    by_cases hcan : s.CanSend wire.client spec
    · obtain ⟨a, hlog, hsent, haddressed, hunsent⟩ := hs.execute_sentAs hcan
      have hclient := s.execute_client spec wire
      rcases hx : s.execute spec wire with ⟨reply, later⟩
      rw [hx] at hlog hsent haddressed hunsent hclient
      obtain ⟨hsession, hkept, ⟨sent, hattempts, hall⟩, hplain⟩ := ih reply later
      rw [show later.client = wire.client from hclient] at hkept hplain
      simp only [run, transcript, hx]
      refine ⟨hsession, hkept, ⟨a :: sent, ?_, hall.cons_sent hunsent ⟨hsent, haddressed⟩⟩, fun e he => ?_⟩
      · rw [hattempts, show later.attempts = wire.attempts ++ [a] from hlog, List.append_assoc, List.singleton_append]
      · rcases List.mem_cons.mp he with rfl | he
        · exact ⟨hspec, by simp [hcan, show Exchange.isUnsent ⟨spec, reply⟩ = false from hunsent]⟩
        · exact hplain e he
    · have hx := hs.execute_of_unsendable hcan
      obtain ⟨hsession, hkept, ⟨sent, hattempts, hall⟩, hplain⟩ := ih (.error .unsendable) wire
      simp only [run, transcript, hx]
      refine ⟨hsession, hkept, ⟨sent, hattempts, hall.cons_unsent rfl⟩, fun e he => ?_⟩
      rcases List.mem_cons.mp he with rfl | he
      · exact ⟨hspec, by simp only [hcan, not_false_eq_true, iff_true]; rfl⟩
      · exact hplain e he

end Program.IsPlain

end OutOfBand
