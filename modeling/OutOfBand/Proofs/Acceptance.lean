import OutOfBand.Acceptance
import OutOfBand.Proofs.Report

/-! # What a reply is reported as

A reply by itself is reported as failed exactly if it is not accepted. Either way the report hands on what was answered,
and changes nothing. The message of a failure is the most specific one that the reply has. Where it has none there is
still a status or a field to name, so something is said, unless the reply is rejected for a field of its body and has an
empty message of its own.
-/
namespace OutOfBand

/-- A character that is not dropped stays. -/
theorem Text.mem_dropEndWhile {p : Char → Bool} {c : Char} {cs : List Char} (hp : p c = false) (h : c ∈ cs) :
    c ∈ dropEndWhile p cs := by
  have hkept : ∀ xs : List Char, c ∈ xs → c ∈ xs.dropWhile p := by
    intro xs hxs
    induction xs with
    | nil => exact hxs
    | cons d rest ih =>
      rw [List.dropWhile_cons]
      split
      case isTrue hd =>
        rcases List.mem_cons.mp hxs with rfl | hrest
        · rw [hp] at hd
          cases hd
        · exact ih hrest
      case isFalse => exact hxs
  rw [dropEndWhile, List.mem_reverse]
  exact hkept cs.reverse (List.mem_reverse.mpr h)

namespace Http.Envelope

theorem ne_empty_of_nonempty {s : String} (h : nonempty s = true) : s ≠ "" := by
  rintro rfl
  cases h

theorem ne_empty_of_filter {found : Option String} {s : String} (h : found.filter nonempty = some s) : s ≠ "" :=
  ne_empty_of_nonempty (Option.filter_eq_some_iff.mp h).2

/-! ## Messages -/

theorem VendorError.bestMessage?_ne_empty {v : VendorError} {s : String} (h : bestMessage? v = some s) : s ≠ "" := by
  rcases Option.or_eq_some_iff.mp h with hinfo | ⟨_, hown⟩
  · exact ne_empty_of_filter hinfo
  · exact ne_empty_of_filter hown

theorem statusLine_ne_empty (e : Envelope) : e.statusLine ≠ "" := by
  have hmem : 'H' ∈ (s!"HTTP {e.status} {e.reason}").toList := by
    change 'H' ∈ ("HTTP " ++ toString e.status ++ " " ++ e.reason).toList
    simp
  have hkept := Text.mem_dropEndWhile (p := Text.isBlank) (by decide) hmem
  intro hempty
  rw [statusLine, Text.trimEnd, ← String.toList_inj, String.toList_ofList] at hempty
  rw [hempty] at hkept
  cases hkept

/-- The most specific message of a reply always says something. -/
theorem diagnostic_ne_empty (e : Envelope) : e.diagnostic ≠ "" := by
  unfold diagnostic
  cases hfound : (e.vendorError?.bind VendorError.bestMessage?).or ((e.field? "Message").filter nonempty) with
  | none => exact e.statusLine_ne_empty
  | some s =>
    rcases Option.or_eq_some_iff.mp hfound with hvendor | ⟨_, hown⟩
    · obtain ⟨v, _, hbest⟩ := Option.bind_eq_some_iff.mp hvendor
      exact VendorError.bestMessage?_ne_empty hbest
    · exact ne_empty_of_filter hown

end Http.Envelope

namespace Acceptance

open Http

/-- The status is a successful one, so the reply is judged by a field of its body, and its own message is an empty text. -/
def LeavesUnsaid (a : Acceptance) (e : Envelope) : Prop :=
  (∃ field accepted, a = .bodyField field accepted) ∧ e.isSuccess = true ∧ e.field? "Message" = some ""

theorem ne_empty_of_mem {s : String} {c : Char} (h : c ∈ s.toList) : s ≠ "" := by
  rintro rfl
  cases h

theorem failureMessage_eq_empty_iff (a : Acceptance) (e : Envelope) : a.failureMessage e = "" ↔ a.LeavesUnsaid e := by
  cases a with
  | httpStatus =>
    refine iff_of_false e.diagnostic_ne_empty ?_
    rintro ⟨⟨_, _, hother⟩, _⟩
    cases hother
  | driverResult =>
    refine iff_of_false ?_ ?_
    · simp only [failureMessage]
      cases hown : (e.field? "Message").filter (!·.isEmpty) with
      | some s =>
        have hs := (Option.filter_eq_some_iff.mp hown).2
        rintro rfl
        cases hs
      | none =>
        refine ne_empty_of_mem (c := 'T') ?_
        change 'T' ∈ ("The operation reported status '" ++ (e.field? "Status").getD "<missing>" ++ "'").toList
        simp
    · rintro ⟨⟨_, _, hother⟩, _⟩
      cases hother
  | bodyField field accepted =>
    simp only [failureMessage, LeavesUnsaid]
    cases hsuccess : e.isSuccess with
    | false =>
      refine iff_of_false e.diagnostic_ne_empty ?_
      rintro ⟨_, hother, _⟩
      cases hother
    | true =>
      rw [if_pos rfl]
      cases hown : e.field? "Message" with
      | some s =>
        refine ⟨fun hempty => ⟨⟨field, accepted, rfl⟩, rfl, congrArg some hempty⟩, ?_⟩
        rintro ⟨_, _, hempty⟩
        exact Option.some.inj hempty
      | none =>
        refine iff_of_false ?_ ?_
        · refine ne_empty_of_mem (c := 'U') ?_
          change 'U' ∈ ("Unexpected " ++ field ++ " '" ++ (e.field? field).getD "<missing>" ++ "'").toList
          simp
        · rintro ⟨_, _, hother⟩
          cases hother

/-! ## Reports -/

theorem interpret_of_accepted {a : Acceptance} {e : Envelope} (h : a.accepts e = true) :
    ∃ message, a.interpret e = ⟨.unchanged, message, [("response", e.body)]⟩ := by
  simp only [interpret, require, h, if_pos]
  exact ⟨_, rfl⟩

theorem reservedKeys_contains_failureKey (a : Acceptance) : Report.reservedKeys.contains a.failureKey = false := by
  cases a with
  | driverResult => decide
  | _ => simp only [failureKey]; decide

theorem interpret_of_rejected {a : Acceptance} {e : Envelope} (h : a.accepts e = false) :
    a.interpret e = ⟨.failed, a.failureMessage e, [(a.failureKey, e.failureBody)]⟩ := by
  have hfailed : a.interpret e = (Report.failed (a.failureMessage e)).withPayload a.failureKey e.failureBody := by
    simp only [interpret, require, h]
    rfl
  rw [hfailed, Report.withPayload, reservedKeys_contains_failureKey]
  rfl

theorem failureBody_of_text {e : Envelope} (hnull : e.body = .null) (htext : e.raw ≠ "") : e.failureBody = .string e.raw := by
  have hraw : e.raw.isEmpty = false := Bool.eq_false_iff.mpr fun hempty => htext (String.isEmpty_iff.mp hempty)
  rw [Envelope.failureBody, hnull, hraw]
  rfl

theorem failureBody_of_body {e : Envelope} (h : e.body ≠ .null ∨ e.raw = "") : e.failureBody = e.body := by
  unfold Envelope.failureBody
  split
  case isFalse => rfl
  case isTrue hboth =>
    rw [Bool.and_eq_true, Bool.not_eq_true'] at hboth
    rcases h with hbody | hraw
    · cases hnull : e.body with
      | null => exact absurd hnull hbody
      | _ =>
        rw [hnull] at hboth
        cases hboth.1
    · rw [hraw] at hboth
      cases hboth.2

/-- Whatever is expected of a reply and whatever the reply is, it is reported as failed exactly if it is not accepted, and
never as changed or unreachable. If it is accepted the report hands on its body and nothing else. If it is rejected the
report hands on its body or, where that says nothing and there is a text, the text, under the key of what was expected and
with nothing else. Its message is then empty exactly if the reply leaves it unsaid. -/
theorem interpret_hands_on (a : Acceptance) (e : Envelope) :
    ((a.interpret e).isFailed = true ↔ a.accepts e = false) ∧
      (a.interpret e).isChanged = false ∧ (a.interpret e).isUnreachable = false ∧
      (a.accepts e = true → (a.interpret e).payload = [("response", e.body)]) ∧
      (a.accepts e = false →
        (e.body = .null → e.raw ≠ "" → (a.interpret e).payload = [(a.failureKey, .string e.raw)]) ∧
        (e.body ≠ .null ∨ e.raw = "" → (a.interpret e).payload = [(a.failureKey, e.body)]) ∧
        ((a.interpret e).message = "" ↔ a.LeavesUnsaid e)) := by
  cases haccepts : a.accepts e with
  | true =>
    obtain ⟨message, hreport⟩ := interpret_of_accepted haccepts
    rw [hreport]
    exact ⟨iff_of_false Bool.false_ne_true (by simp), rfl, rfl, fun _ => rfl, fun h => absurd h (by simp)⟩
  | false =>
    rw [interpret_of_rejected haccepts]
    refine ⟨iff_of_true rfl rfl, rfl, rfl, fun h => absurd h (by simp), fun _ => ⟨fun hnull htext => ?_, fun hbody => ?_, ?_⟩⟩
    · rw [failureBody_of_text hnull htext]
    · rw [failureBody_of_body hbody]
    · exact failureMessage_eq_empty_iff a e

/-- A task that has ended as it should not, and an empty message about it. The report fails without a word. -/
theorem interpret_says_nothing :
    let a : Acceptance := .bodyField "TaskState" ["Completed"]
    let e : Envelope := .ofReply 200 [] "\x7b\"TaskState\":\"Exception\",\"Message\":\"\"\x7d"
    (a.interpret e).isFailed = true ∧ (a.interpret e).message = "" := by
  decide +kernel

end Acceptance

end OutOfBand
