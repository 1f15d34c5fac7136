import MinimalSip.Lib.Search

/-!
# Cutting a stream at a delimiter

A frame is a stretch of the stream that ends with the delimiter and contains
it nowhere earlier.  `Framed` says that a stream consists of frames followed
by a remainder without delimiter.  Such a decomposition is unique, and it can
be extended chunk by chunk: only the remainder is needed to continue.

The two facts together say that any receiver which keeps the remainder and
cuts greedily reports the same frames, however the stream arrives.
-/

namespace MinimalSip.Lib.Framing

open MinimalSip.Lib.Search

variable {α : Type*} [DecidableEq α]

/-- The delimiter occurs in the frame exactly once, at its end. -/
def IsFrame (delimiter frame : List α) : Prop :=
  ∃ content, frame = content ++ delimiter ∧
    find delimiter frame = some content.length

/-- The stream is these frames followed by this unfinished rest. -/
structure Framed
    (delimiter stream : List α) (frames : List (List α))
    (rest : List α) : Prop where
  split : stream = frames.flatten ++ rest
  frames : ∀ frame ∈ frames, IsFrame delimiter frame
  unfinished : find delimiter rest = none

/-- A frame ends with the delimiter. -/
theorem IsFrame.ends
    {delimiter frame : List α} (isFrame : IsFrame delimiter frame) :
    delimiter <:+ frame := by
  obtain ⟨content, rfl, -⟩ := isFrame
  exact List.suffix_append content delimiter

/-- Nothing follows an occurrence of the delimiter in a frame. -/
theorem IsFrame.once
    {delimiter frame before after : List α}
    (isFrame : IsFrame delimiter frame)
    (occurs : frame = before ++ delimiter ++ after) :
    after = [] := by
  obtain ⟨content, ends, found⟩ := isFrame
  obtain ⟨-, -, minimal⟩ := find_spec found
  have atBefore : delimiter <+: frame.drop before.length := by
    rw [occurs, List.append_assoc, List.drop_left]
    exact List.prefix_append _ _
  have notEarlier : content.length ≤ before.length := by
    by_contra earlier
    exact minimal before.length (Nat.lt_of_not_le earlier) atBefore
  have sizes := congrArg List.length (ends.symm.trans occurs)
  simp only [List.length_append] at sizes
  exact List.eq_nil_of_length_eq_zero (by omega)

/-- A frame is recognised in front of whatever follows it. -/
theorem IsFrame.find_append
    {delimiter frame : List α}
    (isFrame : IsFrame delimiter frame) (after : List α) :
    ∃ content, frame = content ++ delimiter ∧
      find delimiter (frame ++ after) = some content.length := by
  obtain ⟨content, rfl, found⟩ := isFrame
  refine ⟨content, rfl, ?_⟩
  obtain ⟨-, -, minimal⟩ := find_spec found
  have noStart : ∀ offset < content.length,
      ¬ delimiter <+:
        (content ++ (delimiter ++ after)).drop offset := by
    intro offset inside occurs
    apply minimal offset inside
    rw [← List.append_assoc, List.drop_append_of_le_length (by
      simp only [List.length_append]
      omega)] at occurs
    refine List.prefix_of_prefix_length_le occurs
      (List.prefix_append _ _) ?_
    simp only [List.length_drop, List.length_append]
    omega
  rw [List.append_assoc, find_append_of_no_start _ _ noStart,
    find_of_starts (List.prefix_append _ _)]
  simp

/-- A stream that the delimiter ends where it first occurs is one frame. -/
theorem IsFrame.of_find
    {delimiter stream : List α} {position : Nat}
    (found : find delimiter stream = some position) :
    IsFrame delimiter (stream.take (position + delimiter.length)) := by
  obtain ⟨bound, occurs, minimal⟩ := find_spec found
  have fits := find_add_length_le found
  have split : stream.take (position + delimiter.length) =
      stream.take position ++ delimiter := by
    rw [List.take_add, List.prefix_iff_eq_take.mp occurs |>.symm]
  have size : (stream.take position).length = position :=
    List.length_take_of_le bound
  refine ⟨stream.take position, split, ?_⟩
  have noStart : ∀ offset < (stream.take position).length,
      ¬ delimiter <+: (stream.take position ++ delimiter).drop offset := by
    intro offset inside occursEarly
    rw [size] at inside
    apply minimal offset inside
    rw [← split, List.drop_take] at occursEarly
    exact occursEarly.trans (List.take_prefix _ _)
  rw [split, find_append_of_no_start _ _ noStart,
    find_of_starts (List.prefix_refl _)]
  simp

namespace Framed

variable {delimiter stream chunk rest : List α}
  {frames : List (List α)}

/-- A stream without delimiter is all remainder. -/
theorem unfinished_stream
    (absent : find delimiter rest = none) :
    Framed delimiter rest [] rest :=
  ⟨rfl, by simp, absent⟩

/-- One more frame in front. -/
theorem cons
    {frame : List α} (isFrame : IsFrame delimiter frame)
    (framed : Framed delimiter stream frames rest) :
    Framed delimiter (frame ++ stream) (frame :: frames) rest where
  split := by rw [framed.split]; simp
  frames := by
    intro other member
    rcases List.mem_cons.mp member with rfl | inFrames
    · exact isFrame
    · exact framed.frames other inFrames
  unfinished := framed.unfinished

/-- Later chunks only extend the remainder. -/
theorem append
    {moreFrames : List (List α)} {newRest : List α}
    (framed : Framed delimiter stream frames rest)
    (continued : Framed delimiter (rest ++ chunk) moreFrames newRest) :
    Framed delimiter (stream ++ chunk) (frames ++ moreFrames) newRest where
  split := by
    rw [framed.split, List.append_assoc, continued.split]
    simp
  frames := by
    intro frame member
    exact (List.mem_append.mp member).elim
      (framed.frames frame) (continued.frames frame)
  unfinished := continued.unfinished

theorem find_eq_none
    (framed : Framed delimiter stream [] rest) :
    find delimiter stream = none := by
  rw [framed.split]
  exact framed.unfinished

/-- The first search in a framed stream finds the end of its first frame. -/
theorem find_eq_some
    {frame : List α}
    (framed : Framed delimiter stream (frame :: frames) rest) :
    ∃ content, frame = content ++ delimiter ∧
      find delimiter stream = some content.length := by
  have first := (framed.frames frame (by simp)).find_append
    (frames.flatten ++ rest)
  rw [framed.split]
  simpa using first

/-- A stream has at most one decomposition into frames and a remainder. -/
theorem unique
    {otherFrames : List (List α)} {otherRest : List α}
    (framed : Framed delimiter stream frames rest)
    (other : Framed delimiter stream otherFrames otherRest) :
    frames = otherFrames ∧ rest = otherRest := by
  induction frames generalizing stream otherFrames with
  | nil =>
      cases otherFrames with
      | nil =>
          have left := framed.split
          have right := other.split
          simp only [List.flatten_nil, List.nil_append] at left right
          exact ⟨rfl, left.symm.trans right⟩
      | cons frame others =>
          obtain ⟨content, -, found⟩ := other.find_eq_some
          rw [framed.find_eq_none] at found
          cases found
  | cons frame others ih =>
      obtain ⟨content, frameSplit, found⟩ := framed.find_eq_some
      cases otherFrames with
      | nil =>
          rw [other.find_eq_none] at found
          cases found
      | cons otherFrame moreFrames =>
          obtain ⟨otherContent, otherSplit, otherFound⟩ :=
            other.find_eq_some
          rw [found, Option.some.injEq] at otherFound
          have sameLength : frame.length = otherFrame.length := by
            rw [frameSplit, otherSplit]
            simp [otherFound]
          have streams : frame ++ (others.flatten ++ rest) =
              otherFrame ++ (moreFrames.flatten ++ otherRest) := by
            have both := framed.split.symm.trans other.split
            simpa using both
          obtain ⟨sameFrame, sameTail⟩ :=
            List.append_inj streams sameLength
          have framedTail :
              Framed delimiter (others.flatten ++ rest) others rest :=
            ⟨rfl, fun item member => framed.frames item (by simp [member]),
              framed.unfinished⟩
          obtain ⟨sameFrames, sameRest⟩ := ih framedTail
            ⟨sameTail,
              fun item member => other.frames item (by simp [member]),
              other.unfinished⟩
          exact ⟨by rw [sameFrame, sameFrames], sameRest⟩

end Framed

end MinimalSip.Lib.Framing
