import OutOfBand.Document
import OutOfBand.Http.Envelope
import OutOfBand.Proofs.Attachment
import OutOfBand.Proofs.Json.RoundTrip

/-! # Documents read back

What is written as JSON is read as what it was written for: the body of an envelope made here, and the document of a
report in either of its JSON formats. Everything below the space is escaped, so compact text stays on its line.
-/
namespace OutOfBand

namespace Json

/-! ## One line -/

/-- The text has no character below the space, a line break among them. -/
def HasNoControl (text : List Char) : Prop := ∀ c ∈ text, 0x20 ≤ c.toNat

theorem hasNoControl_nil : HasNoControl [] := fun _ hc => absurd hc List.not_mem_nil

theorem hasNoControl_cons {c : Char} {text : List Char} (hc : 0x20 ≤ c.toNat) (h : HasNoControl text) :
    HasNoControl (c :: text) := List.forall_mem_cons.mpr ⟨hc, h⟩

theorem hasNoControl_append {front rest : List Char} (hfront : HasNoControl front) (hrest : HasNoControl rest) :
    HasNoControl (front ++ rest) := List.forall_mem_append.mpr ⟨hfront, hrest⟩

theorem hasNoControl_renderString (s : String) : HasNoControl (renderString s) := by
  refine hasNoControl_cons (by decide) (hasNoControl_append (fun c hc => ?_) ?_)
  · obtain ⟨d, _, hc⟩ := List.mem_flatMap.mp hc
    exact not_control_escapeChar d c hc
  · exact hasNoControl_cons (by decide) hasNoControl_nil

theorem hasNoControl_toDigits (n : Nat) : HasNoControl (Nat.toDigits 10 n) := by
  intro c hc
  have hdigit := Nat.isDigit_of_mem_toDigits (by decide) (by decide) hc
  have hrange : 48 ≤ c.toNat ∧ c.toNat ≤ 57 := Char.isDigit_iff_toNat.mp hdigit
  omega

theorem hasNoControl_render {n : Numeral} (h : n.IsWhole) : HasNoControl n.render.toList := by
  cases n with
  | float x => cases h
  | int n =>
    cases n with
    | ofNat n =>
      rw [render_ofNat]
      exact hasNoControl_toDigits n
    | negSucc n =>
      rw [render_negSucc]
      exact hasNoControl_cons (by decide) (hasNoControl_toDigits (n + 1))

theorem hasNoControl_comma (first : Bool) : HasNoControl (if first then [] else [',']) := by
  cases first with
  | true => exact hasNoControl_nil
  | false => exact hasNoControl_cons (by decide) hasNoControl_nil

mutual

theorem hasNoControl_compactChars (value : Json) (h : value.IsWhole) : HasNoControl value.compactChars := by
  cases value with
  | null =>
    rw [compactChars, HasNoControl]
    simp
  | bool b =>
    cases b with
    | true =>
      rw [compactChars, HasNoControl]
      simp
    | false =>
      rw [compactChars, HasNoControl]
      simp
  | number n => exact hasNoControl_render h
  | string s => exact hasNoControl_renderString s
  | array items =>
    exact hasNoControl_cons (by decide) (hasNoControl_append (hasNoControl_compactItems true items h)
      (hasNoControl_cons (by decide) hasNoControl_nil))
  | object members =>
    exact hasNoControl_cons (by decide) (hasNoControl_append (hasNoControl_compactMembers true members h)
      (hasNoControl_cons (by decide) hasNoControl_nil))

theorem hasNoControl_compactItems (first : Bool) (items : List Json) (h : AreWhole items) :
    HasNoControl (compactItems first items) := by
  cases items with
  | nil => exact hasNoControl_nil
  | cons item rest =>
    exact hasNoControl_append (hasNoControl_comma first)
      (hasNoControl_append (hasNoControl_compactChars item h.1) (hasNoControl_compactItems false rest h.2))

theorem hasNoControl_compactMembers (first : Bool) (members : List (String × Json)) (h : MembersWhole members) :
    HasNoControl (compactMembers first members) := by
  cases members with
  | nil => exact hasNoControl_nil
  | cons entry rest =>
    have hvalue : HasNoControl (':' :: compactChars entry.2) :=
      hasNoControl_cons (by decide) (hasNoControl_compactChars entry.2 h.1)
    exact hasNoControl_append (hasNoControl_append (hasNoControl_append (hasNoControl_comma first)
      (hasNoControl_renderString entry.1)) hvalue) (hasNoControl_compactMembers false rest h.2)

end

/-! ## Bodies -/

theorem readChars_compactChars {value : Json} (hordered : value.IsOrdered) (h : value.IsWithinLimits) :
    readChars value.compactChars = .ok value := by
  rw [← Layout.write_oneLine 0 value]
  exact Layout.oneLine.readChars_write 0 hordered h

theorem read?_of_readChars {text : List Char} {value : Json} (h : readChars text = .ok value) :
    read? (String.ofList text) = some value := by
  rw [read?, String.toList_ofList, h]
  rfl

theorem not_isBlankText_compact {value : Json} (h : value.IsWhole) : Text.isBlankText value.compact = false := by
  obtain ⟨c, tail, hwritten, hsolid, _⟩ := Layout.oneLine.write_cons 0 h
  rw [Layout.write_oneLine] at hwritten
  rw [Text.isBlankText, compact, String.toList_ofList, hwritten, List.all_cons, hsolid, Bool.false_and]

end Json

/-- The text kept beside a body made here is the text of that body. -/
theorem Http.Envelope.body_ofReply_synthesized {body : Json} (hordered : body.IsOrdered) (h : body.IsWithinLimits)
    (sent status : Nat) (headers : Headers) : (ofReply status headers (synthesized sent body).raw).body = body := by
  cases hnull : body.isNull with
  | true =>
    obtain rfl : body = .null := by
      unfold Json.isNull at hnull
      split at hnull
      · rfl
      · cases hnull
    rfl
  | false =>
    have hraw : (synthesized sent body).raw = body.compact := if_neg (by rw [hnull]; exact Bool.false_ne_true)
    have hread : Json.read? body.compact = some body := Json.read?_of_readChars (Json.readChars_compactChars hordered h)
    simp only [ofReply, hraw, Json.not_isBlankText_compact h.whole, hread, Bool.false_eq_true, if_false, Option.getD_some]

namespace Report

/-! ## Reports -/

/-- The limits of the document are those of the entries, which stand in another order there. -/
theorem entries_withinLimits {r : Report} (hkeys : (Fields.keys r.entries).Nodup) (hordered : r.toJson.IsOrdered)
    (h : r.toJson.IsWithinLimits) :
    Json.MembersOrdered r.entries ∧ (Json.object r.entries).IsWithinLimits := by
  obtain ⟨members, hjson, hperm⟩ := toJson_perm hkeys
  rw [hjson] at hordered h
  refine ⟨Json.membersOrdered_iff.mpr fun entry hentry => ?_, Json.membersWhole_iff.mpr fun entry hentry => ?_,
    Nat.succ_le_succ (Json.nestingOfMembers_le_iff.mpr fun entry hentry => ?_)⟩
  · exact Json.membersOrdered_iff.mp hordered.2 entry (hperm.mem_iff.mpr hentry)
  · exact Json.membersWhole_iff.mp h.whole entry (hperm.mem_iff.mpr hentry)
  · exact Json.nestingOfMembers_le_iff.mp (Nat.le_of_succ_le_succ h.nesting) entry (hperm.mem_iff.mpr hentry)

/-- What the JSON formats of a report are read as. -/
structure IsReadBack (r : Report) : Prop where
  compact : Json.read? (r.render .jsonCompact) = some r.toJson
  pretty : Json.read? (r.render .json) = some r.toJson
  oneLine : '\n' ∉ (r.render .jsonCompact).toList ∧ '\r' ∉ (r.render .jsonCompact).toList

theorem isReadBack {r : Report} (hkeys : (Fields.keys r.entries).Nodup) (hordered : r.toJson.IsOrdered)
    (h : r.toJson.IsWithinLimits) : r.IsReadBack := by
  obtain ⟨hentries, hlimits⟩ := entries_withinLimits hkeys hordered h
  have hcompact := Json.Layout.oneLine.readChars_entries 0 hentries hlimits (List.forall_mem_nil _)
  have hpretty := Json.Layout.indented.readChars_entries 0 hentries hlimits (List.forall_mem_nil _)
  rw [List.append_nil, Json.Layout.write_oneLine, ← toJson_eq_ofEntries] at hcompact
  rw [List.append_nil, Json.Layout.write_indented, ← toJson_eq_ofEntries] at hpretty
  have hcontrol : Json.HasNoControl (r.render .jsonCompact).toList := by
    rw [render, Json.compact, String.toList_ofList]
    exact Json.hasNoControl_compactChars _ hlimits.whole
  exact {
    compact := Json.read?_of_readChars hcompact
    pretty := Json.read?_of_readChars hpretty
    oneLine := ⟨fun hline => absurd (hcontrol _ hline) (by decide), fun hline => absurd (hcontrol _ hline) (by decide)⟩ }

end Report

/-- JSON that is written here is read here as what it was written for: every body, and the document of every report
however it is made and whatever is attached to it, whose numbers are whole and which do not nest too deep. -/
theorem written_isReadBack :
    (∀ body : Json, body.IsOrdered → body.IsWithinLimits → ∀ (sent status : Nat) (headers : Http.Headers),
      (Http.Envelope.ofReply status headers (Http.Envelope.synthesized sent body).raw).body = body) ∧
    (∀ (made : Report) (attached : List (String × Json)), made.IsMade → (made.attach attached).toJson.IsOrdered →
      (made.attach attached).toJson.IsWithinLimits → (made.attach attached).IsReadBack) := by
  refine ⟨fun body hordered h sent status headers => Http.Envelope.body_ofReply_synthesized hordered h sent status headers,
    fun made attached hmade hordered h => Report.isReadBack ?_ hordered h⟩
  have hverdict : (made.attach attached).KeepsVerdict := hmade.keepsVerdict.foldl_withPayload attached
  exact hverdict.nodup_keys (Report.sorted_attach hmade.sorted attached)

/-- Both ends of the whole numbers, empty brackets, and texts and keys that need every kind of escape. -/
theorem written_isReadBack_escaped :
    (∃ body : Json, body = .object [("\"\n", .string "\u0001\té𝄞\\"),
        ("a", .array [.number (.int (-2 ^ 63)), .number (.int (2 ^ 64 - 1)), .array [], .object []])] ∧
      body.IsOrdered ∧ body.IsWithinLimits ∧
      (Http.Envelope.ofReply 500 [] (Http.Envelope.synthesized 200 body).raw).body = body) ∧
    (∃ report : Report, report = (Report.failed "first\nsecond").attach [("status", .array [.bool true]), ("job", .null)] ∧
      report.toJson.IsOrdered ∧ report.toJson.IsWithinLimits ∧ report.IsReadBack) := by
  refine ⟨⟨_, rfl, ?_⟩, ⟨_, rfl, ?_⟩⟩
  · refine ⟨?ordered, ?limits, written_isReadBack.1 _ ?ordered ?limits 200 500 []⟩
    case ordered =>
      exact ⟨⟨by decide, Fields.sorted_singleton _ _⟩, trivial,
        ⟨trivial, trivial, trivial, ⟨trivial, trivial⟩, trivial⟩, trivial⟩
    case limits =>
      have hlow : (Numeral.int (-2 ^ 63)).IsWhole := ⟨by decide, by decide⟩
      have hhigh : (Numeral.int (2 ^ 64 - 1)).IsWhole := ⟨by decide, by decide⟩
      exact ⟨⟨trivial, ⟨hlow, hhigh, trivial, trivial, trivial⟩, trivial⟩, by decide⟩
  · have hdocument : ((Report.failed "first\nsecond").attach [("status", .array [.bool true]), ("job", .null)]).toJson =
        .object [("changed", .bool false), ("failed", .bool true), ("job", .null), ("msg", .string "first\nsecond"),
          ("status", .array [.bool true])] := rfl
    refine ⟨?ordered, ?limits, written_isReadBack.2 (.failed _) _ (.failed _) ?ordered ?limits⟩
    case ordered =>
      rw [hdocument]
      exact ⟨⟨by decide, by decide, by decide, by decide, Fields.sorted_singleton _ _⟩, trivial, trivial, trivial, trivial,
        ⟨trivial, trivial⟩, trivial⟩
    case limits =>
      rw [hdocument]
      exact ⟨⟨trivial, trivial, trivial, trivial, ⟨trivial, trivial⟩, trivial⟩, by decide⟩

end OutOfBand
