import OutOfBand.Proofs.Session.Transcript

/-! # What a device has left to say

Every answer with a successful status uses up one of the replies that a device has left, as a device without any
finds nothing. So the answers of a run are no more than the replies there were before it, and what follows the
device's own lead for as long as it is answered comes to an end.
-/
namespace OutOfBand

open Http Session

variable {α : Type}

theorem Device.next_replies (device : Device) (method : String) :
    device.next.2.replies.length +
        (((device.next.1.response method).toOption.map fun r => Http.isSuccess r.status).getD false).toNat ≤
      device.replies.length := by
  cases hreplies : device.replies with
  | nil =>
    have hnothing : Http.isSuccess 404 = false := by decide
    simp [next, hreplies, Reply.response, Except.toOption, hnothing]
  | cons reply rest =>
    have hone := Bool.toNat_le (((reply.response method).toOption.map fun r => Http.isSuccess r.status).getD false)
    simp only [next, hreplies, List.length_cons]
    omega

theorem Wire.take_replies (wire : Wire) : wire.take.2.device.replies.length ≤ wire.device.replies.length :=
  Nat.le_trans (Nat.le_add_right _ _) (wire.device.next_replies "GET")

theorem Wire.pursue_replies (trust : Trust) (hopLimit : Nat) (request : Request) (wire : Wire) :
    (pursue trust hopLimit request wire).2.device.replies.length +
        (((pursue trust hopLimit request wire).1.response.toOption.map fun r => Http.isSuccess r.status).getD false).toNat ≤
      wire.device.replies.length := by
  refine pursue_induct (P := fun _ wire result => result.2.device.replies.length +
    ((result.1.response.toOption.map fun r => Http.isSuccess r.status).getD false).toNat ≤ wire.device.replies.length)
    ?_ ?_ ?_ ?_ hopLimit request wire
  · exact fun request wire loss _ => Nat.le_refl _
  · exact fun request wire => wire.device.next_replies request.method
  · exact fun request wire => wire.take_replies
  · exact fun request wire status target result h => Nat.le_trans h wire.take_replies

namespace Session

theorem exchange_replies (trust : Trust) (timeout : Nat) (composed : Except Loss Request) (wire : Wire) :
    (exchange trust timeout composed wire).2.device.replies.length +
        (isAnsweredWell (exchange trust timeout composed wire).1).toNat ≤ wire.device.replies.length := by
  cases composed with
  | error loss => exact Nat.le_refl _
  | ok request =>
    cases htaken : wire.client.takes request.url with
    | false =>
      rw [exchange_of_refused htaken]
      exact Nat.le_refl _
    | true =>
      have hpursued := Wire.pursue_replies trust wire.client.hopLimit request wire
      simp only [exchange, Wire.send, htaken, ↓reduceIte]
      cases hresponse : (Wire.pursue trust wire.client.hopLimit request wire).1.response with
      | error loss =>
        rw [hresponse] at hpursued
        exact hpursued
      | ok response =>
        rw [hresponse] at hpursued
        exact hpursued

theorem execute_replies (s : Session) (spec : RequestSpec) (wire : Wire) :
    (s.execute spec wire).2.device.replies.length + (isAnsweredWell (s.execute spec wire).1).toNat ≤
      wire.device.replies.length := by
  unfold execute
  split
  · split
    · exact Nat.le_refl _
    · exact exchange_replies _ _ _ wire
  · exact Nat.le_refl _

theorem close_replies (s : Session) (wire : Wire) :
    (s.close wire).2.device.replies.length ≤ wire.device.replies.length := by
  unfold close
  dsimp only
  split
  · split
    · rename_i request _
      exact Nat.le_trans (Nat.le_add_right _ _) (exchange_replies s.trust s.timeout request wire)
    · exact Nat.le_refl _
  · exact Nat.le_refl _

theorem login_replies (trust : Trust) (timeout : Nat) (base : Url) (family : Family) (path username password : String)
    (wire : Wire) :
    (login trust timeout base family path username password wire).2.device.replies.length ≤
      wire.device.replies.length := by
  cases hurl : base.join path with
  | error fault =>
    simp only [login, hurl]
    exact Nat.le_refl _
  | ok url =>
    have hsent := exchange_replies trust timeout (compose "POST" url [("accept", jsonType)]
      (some (loginBody family username password))) wire
    rcases hx : exchange trust timeout (compose "POST" url [("accept", jsonType)]
      (some (loginBody family username password))) wire with ⟨reply, later⟩
    rw [hx] at hsent
    simp only [login, hurl, hx]
    cases reply with
    | error e => exact Nat.le_trans (Nat.le_add_right _ _) hsent
    | ok reply => exact Nat.le_trans (Nat.le_add_right _ _) hsent

theorem authorize_replies (trust : Trust) (base : Url) (config : SessionConfig) (wire : Wire) :
    (authorize trust base config wire).2.device.replies.length ≤ wire.device.replies.length := by
  unfold authorize
  split
  · exact Nat.le_refl _
  · exact Nat.le_refl _
  · rename_i username password path _ _
    have hgranted := login_replies trust config.endpoint.timeout base config.family path username password wire
    rcases hx : login trust config.endpoint.timeout base config.family path username password wire with ⟨granted, later⟩
    rw [hx] at hgranted
    cases granted with
    | error e => exact hgranted
    | ok granted => exact hgranted

theorem open_replies (files : FileTree) (config : SessionConfig) (wire : Wire) :
    (Session.open files config wire).2.device.replies.length ≤ wire.device.replies.length := by
  unfold Session.open
  split
  · exact Nat.le_refl _
  · exact Nat.le_refl _
  · rename_i trust base _ _
    have hshown := authorize_replies trust base config wire
    rcases hx : authorize trust base config wire with ⟨shown, later⟩
    rw [hx] at hshown
    cases shown with
    | error e => exact hshown
    | ok shown => exact hshown

end Session

theorem Program.run_replies (p : Program α) (s : Session) (wire : Wire) :
    (p.run s wire).2.2.device.replies.length + (p.transcript s wire).countP Exchange.isAnswered ≤
      wire.device.replies.length := by
  induction p generalizing s wire with
  | done value => exact Nat.le_refl _
  | execute spec next ih =>
    have hstep := execute_replies s spec wire
    rcases hx : s.execute spec wire with ⟨reply, later⟩
    rw [hx] at hstep
    have hrest := ih reply s later
    have hfirst : Exchange.isAnswered ⟨spec, reply⟩ = isAnsweredWell reply := rfl
    simp only [run, transcript, hx, List.countP_cons, hfirst]
    cases hanswered : isAnsweredWell reply with
    | true =>
      simp only [hanswered, Bool.toNat_true, ↓reduceIte] at hstep ⊢
      omega
    | false =>
      simp only [hanswered, Bool.toNat_false, Bool.false_eq_true, ↓reduceIte] at hstep ⊢
      omega
  | close next ih =>
    have hclose := close_replies s wire
    have hrest := ih (s.close wire).1 (s.close wire).2
    simp only [run, transcript]
    omega

end OutOfBand
