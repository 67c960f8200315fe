import Mathlib.Data.List.DropRight
import OutOfBand.Proofs.Url.Root

/-! # Last segments

What stands behind the last slash of a link, slashes at its end apart: it is told by what stands on its two
sides, and unless it is empty nothing else is.
-/
namespace OutOfBand.Text

/-- The segment is the last of a link: a slash stands before it unless the link begins with it, and behind it there are
slashes at most. It is empty only if there is nothing before those. -/
def IsLastSegment (link segment : String) : Prop :=
  ∃ front slashes : List Char, link.toList = front ++ segment.toList ++ slashes ∧ '/' ∉ segment.toList ∧
    (∀ c ∈ slashes, c = '/') ∧ (front = [] ∨ segment ≠ "" ∧ ∃ before, front = before ++ ['/'])

theorem exists_dropEndWhile (p : Char → Bool) (cs : List Char) :
    ∃ back, cs = dropEndWhile p cs ++ back ∧ (∀ c ∈ back, p c = true) ∧
      ∀ before c, dropEndWhile p cs = before ++ [c] → p c = false := by
  induction cs using List.reverseRecOn with
  | nil => exact ⟨[], rfl, fun c hc => absurd hc List.not_mem_nil, fun before c h => by simp [dropEndWhile] at h⟩
  | append_singleton rest last ih =>
    have hstep : dropEndWhile p (rest ++ [last]) = if p last then dropEndWhile p rest else rest ++ [last] :=
      List.rdropWhile_concat p rest last
    rw [hstep]
    cases hlast : p last with
    | true =>
      obtain ⟨back, hrest, hback, hend⟩ := ih
      refine ⟨back ++ [last], ?_, ?_, hend⟩
      · rw [if_pos rfl, ← List.append_assoc, ← hrest]
      · rintro c hc
        rcases List.mem_append.mp hc with hc | hc
        · exact hback c hc
        · rwa [List.mem_singleton.mp hc]
    | false =>
      refine ⟨[], by simp, fun c hc => absurd hc List.not_mem_nil, fun before c h => ?_⟩
      rw [if_neg Bool.false_ne_true, List.append_singleton_inj] at h
      rw [← h.2, hlast]

/-- The last part of a text is what stands behind its last separator. -/
theorem exists_last_part (p : Char → Bool) (cs : List Char) :
    ∃ front back, cs = front ++ back ∧ (splitOn p cs).getLast? = some back ∧ (∀ c ∈ back, p c = false) ∧
      (front = [] ∨ ∃ before c, p c = true ∧ front = before ++ [c]) := by
  suffices h : ∃ front back, cs = front ++ back ∧ (∀ c ∈ back, p c = false) ∧
      (front = [] ∨ ∃ before c, p c = true ∧ front = before ++ [c]) by
    obtain ⟨front, back, rfl, hback, hfront⟩ := h
    refine ⟨front, back, rfl, ?_, hback, hfront⟩
    rcases hfront with rfl | ⟨before, c, hc, rfl⟩
    · rw [List.nil_append, splitOn_eq_singleton hback, List.getLast?_singleton]
    · rw [List.append_assoc, List.singleton_append, splitOn_append_cons hc, splitOn_eq_singleton hback,
        List.getLast?_append, List.getLast?_singleton, Option.some_or]
  induction cs using List.reverseRecOn with
  | nil => exact ⟨[], [], rfl, fun c hc => absurd hc List.not_mem_nil, Or.inl rfl⟩
  | append_singleton rest last ih =>
    cases hlast : p last with
    | true =>
      exact ⟨rest ++ [last], [], (List.append_nil _).symm, fun c hc => absurd hc List.not_mem_nil,
        Or.inr ⟨rest, last, hlast, rfl⟩⟩
    | false =>
      obtain ⟨front, back, rfl, hback, hfront⟩ := ih
      refine ⟨front, back ++ [last], List.append_assoc front back [last], fun c hc => ?_, hfront⟩
      rcases List.mem_append.mp hc with hc | hc
      · exact hback c hc
      · rwa [List.mem_singleton.mp hc]

theorem lastSegment_isLastSegment (link : String) : IsLastSegment link (lastSegment link) := by
  obtain ⟨slashes, hlink, hslashes, hend⟩ := exists_dropEndWhile (· == '/') link.toList
  obtain ⟨front, segment, hkept, hlast, hsegment, hfront⟩ :=
    exists_last_part (· == '/') (dropEndWhile (· == '/') link.toList)
  have hchars : (lastSegment link).toList = segment := by
    rw [lastSegment, hlast, Option.getD_some, String.toList_ofList]
  refine ⟨front, slashes, ?_, ?_, fun c hc => by simpa using hslashes c hc, ?_⟩
  · rw [hchars, ← hkept, ← hlink]
  · rw [hchars]
    intro hmem
    simpa using hsegment '/' hmem
  · rcases hfront with hnil | ⟨before, c, hc, hconcat⟩
    · exact Or.inl hnil
    · obtain rfl : c = '/' := by simpa using hc
      refine Or.inr ⟨fun hempty => ?_, before, hconcat⟩
      -- a slash with nothing behind it would have been dropped
      rw [hempty] at hchars
      rw [← hchars, hconcat, String.toList_empty, List.append_nil] at hkept
      cases hend before '/' hkept

theorem dropEndWhile_append_of_pos {p : Char → Bool} (front : List Char) {back : List Char} (h : ∀ c ∈ back, p c = true) :
    dropEndWhile p (front ++ back) = dropEndWhile p front := by
  have hback : ∀ c ∈ back.reverse, p c = true := fun c hc => h c (List.mem_reverse.mp hc)
  rw [dropEndWhile, List.reverse_append, List.dropWhile_append_of_pos hback, dropEndWhile]

/-- A last segment that is not empty is the one that is found. -/
theorem IsLastSegment.lastSegment_eq {link segment : String} (h : IsLastSegment link segment) (hne : segment ≠ "") :
    lastSegment link = segment := by
  obtain ⟨front, slashes, hlink, hslash, hslashes, hfront⟩ := h
  have hnot : ∀ c ∈ segment.toList, (c == '/') = false := by
    intro c hc
    rw [beq_eq_false_iff_ne]
    rintro rfl
    exact hslash hc
  have hcons : segment.toList ≠ [] := fun hnil => hne (String.toList_eq_nil_iff.mp hnil)
  obtain ⟨begin, last, hlast⟩ : ∃ begin last, segment.toList = begin ++ [last] :=
    ⟨_, _, (List.dropLast_concat_getLast hcons).symm⟩
  have hstays : (last == '/') = false := hnot last (by rw [hlast]; simp)
  have hend : dropEndWhile (· == '/') (front ++ segment.toList) = front ++ segment.toList := by
    rw [hlast, ← List.append_assoc, Url.dropEndWhile_append_cons (p := (· == '/')) hstays]
    rfl
  rw [lastSegment, hlink, dropEndWhile_append_of_pos _ (fun c hc => by rw [hslashes c hc]; rfl), hend]
  rcases hfront with rfl | ⟨_, before, rfl⟩
  · rw [List.nil_append, splitOn_eq_singleton hnot]
    simp
  · rw [List.append_assoc, List.singleton_append, splitOn_append_cons (by rfl), splitOn_eq_singleton hnot,
      List.getLast?_append]
    simp

end OutOfBand.Text
