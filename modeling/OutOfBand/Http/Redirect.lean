import OutOfBand.Client
import OutOfBand.Http.Request

/-! # Redirects

A reply may lead elsewhere, and then the client sends the request once more, with what goes along. Such
a request shows nothing that the first one did not show, apart from the URL that it comes from.
-/
namespace OutOfBand.Http

/-- Replies with these codes lead to their location. -/
def isRedirect (status : Nat) : Bool := [301, 302, 303, 307, 308].contains status

/-- The headers that tell about the body. -/
def payloadHeaders : List String := ["content-type", "content-length", "content-encoding", "transfer-encoding"]

def refererHeader : String := "referer"

/-- What is told about the URL that a request comes from: nothing when it comes out of TLS. -/
def refererOf (source target : Url) : Option String :=
  if source.scheme == "https".toList && target.scheme == "http".toList then none
  else some { source with fragment := none }.text

namespace Headers

/-- Put a value in place of the others of that name. -/
def replace (headers : Headers) (name value : String) : Headers :=
  headers.filter (fun header => header.1 != name) ++ [(name, value)]

end Headers

namespace Request

/-- The headers that go along to where a reply leads. -/
def keptHeaders (client : Client) (request : Request) (way : Onward) (target : Url) : Headers :=
  request.headers.filter (fun header =>
    !client.leavesOut request.url target header.1 && (way == .whole || !payloadHeaders.contains header.1))

/-- The request that goes to where a reply with some status leads. -/
def onward (client : Client) (request : Request) (status : Nat) (target : Url) : Request :=
  let way := client.onward request.method status
  let kept := request.keptHeaders client way target
  { method := if way == .asGet then "GET" else request.method
    url := target.withoutUserInfo
    headers := ((refererOf request.url target).map (kept.replace refererHeader)).getD kept
    body := if way == .whole then request.body else none }

/-- What a request is that redirects have made of another one: the same again, perhaps without its body,
or a `GET`. Its headers are headers of the first one, but for the one that tells where it comes from. -/
structure Follows (next first : Request) : Prop where
  payload : (next.method = first.method ∧ (next.body = first.body ∨ next.body = none)) ∨
    (next.method = "GET" ∧ next.body = none)
  headers : List.Sublist (next.headers.filter (fun header => header.1 != refererHeader)) first.headers

namespace Follows

theorem trans {last next first : Request} (h : last.Follows next) (h' : next.Follows first) : last.Follows first := by
  refine ⟨?_, ?_⟩
  · rcases h.payload, h'.payload with ⟨⟨hmethod, hbody⟩ | hget, ⟨hmethod', hbody'⟩ | ⟨hmethod', hbody'⟩⟩
    · refine Or.inl ⟨hmethod.trans hmethod', ?_⟩
      rcases hbody with hbody | hbody
      · rwa [hbody]
      · exact Or.inr hbody
    · refine Or.inr ⟨hmethod.trans hmethod', ?_⟩
      rcases hbody with hbody | hbody
      · exact hbody.trans hbody'
      · exact hbody
    · exact Or.inr hget
    · exact Or.inr hget
  · have hlater := h.headers.filter (fun header => header.1 != refererHeader)
    rw [List.filter_filter] at hlater
    simp only [Bool.and_self] at hlater
    exact hlater.trans h'.headers

end Follows

theorem keptHeaders_sublist (client : Client) (request : Request) (way : Onward) (target : Url) :
    List.Sublist (request.keptHeaders client way target) request.headers :=
  List.filter_sublist

theorem onward_follows (client : Client) (request : Request) (status : Nat) (target : Url) :
    (request.onward client status target).Follows request := by
  refine ⟨?_, ?_⟩
  · unfold onward
    cases client.onward request.method status with
    | whole => exact Or.inl ⟨rfl, Or.inl rfl⟩
    | withoutBody => exact Or.inl ⟨rfl, Or.inr rfl⟩
    | asGet => exact Or.inr ⟨rfl, rfl⟩
  · have hkept := request.keptHeaders_sublist client (client.onward request.method status) target
    unfold onward
    cases refererOf request.url target with
    | none => exact List.filter_sublist.trans hkept
    | some source =>
      -- the header that is added is the one that does not count
      simp only [Option.map_some, Option.getD_some, Headers.replace, List.filter_append, List.filter_filter,
        Bool.and_self, bne_self_eq_false, Bool.false_eq_true, not_false_eq_true, List.filter_cons_of_neg, List.filter_nil,
        List.append_nil]
      exact List.filter_sublist.trans hkept

end Request

end OutOfBand.Http
