import MinimalSip.Client.BuiltRequests
import MinimalSip.Proxy.LineEnds

/-!
# Extra header lines and the parser

The factory compares the name on an extra line, taken up to the colon, with
the names it has written so far.  The parser trims names.  Two names that
differ only by blanks around them are therefore two headers for the factory
and one name for the parser, and a Content-Length on an extra line is never
compared with the one that the factory writes last.

Apart from that the extra lines do what they say: a request is sound after
parsing exactly if no extra line is named Content-Length and names that agree
without blanks agree with them.  Names are compared without case throughout.
-/

namespace MinimalSip.Client

open MinimalSip.Lib.Cpp
open MinimalSip.Lib.Search
open MinimalSip.Common
open MinimalSip.Common.SIPMessage
open MinimalSip.Proxy.SIPParser
open MinimalSip.Client.SIPMessageFactory

/-! ## Names without case -/

/-- The names of a list of headers, in lower case. -/
def lowerNames (headers : List SIPHeader) : List CppString :=
  headers.map (fun header => lower header.name)

theorem sameName_iff {left right : CppString} :
    sameName left right = true ↔ lower left = lower right := by
  simp only [sameName, Bool.and_eq_true, decide_eq_true_eq]
  refine and_iff_right_of_imp ?_
  intro same
  simpa using congrArg List.length same

theorem strip_lower (name : CppString) :
    strip blanks (lower name) = lower (strip blanks name) := by
  refine strip_map (fun char => ?_) name
  constructor
  · intro blank
    have notLower : ∀ target ∈ blanks, target.isLower = false := by
      decide
    rw [eq_of_toLower (notLower _ blank) rfl]
    exact blank
  · intro blank
    have kept : ∀ target ∈ blanks, target.toLower = target := by
      decide
    rwa [kept char blank]

/-! ## The extra lines -/

/-- The names and values on the extra lines, as the factory takes them. -/
def injected (extraHeaders : CppString) : List SIPHeader :=
  (getlines extraHeaders).filterMap extraHeader

/-- A line `name: value`, both trimmed, with a name that is not empty. -/
def readLine (rawLine : CppString) : Option SIPHeader :=
  let line := popCarriageReturn rawLine
  match find ":" line with
  | none => none
  | some colon =>
      let name := strip blanks (line.take colon)
      if name = [] then none
      else some ⟨name, strip blanks (line.drop (colon + 1))⟩

/-- What the extra lines say. -/
def extraRead (extraHeaders : CppString) : List SIPHeader :=
  (getlines extraHeaders).filterMap readLine

/-- The factory removes blanks in front of a value, the reader all others. -/
theorem strip_drop_of_findFirstNotOf
    {value : CppString} {vstart : Nat}
    (found : findFirstNotOf " " value = some vstart) :
    strip blanks (value.drop vstart) = strip blanks value := by
  have leading : ∀ char ∈ value.take vstart, char ∈ blanks := by
    intro char member
    obtain rfl := List.mem_singleton.mp
      (mem_of_mem_take_findFirstNotOf found char member)
    decide
  calc strip blanks (value.drop vstart)
      = strip blanks (value.take vstart ++ value.drop vstart) :=
        (strip_append_of_mem leading _).symm
    _ = strip blanks value := by rw [List.take_append_drop]

theorem readLine_eq (rawLine : CppString) :
    readLine rawLine = (extraHeader rawLine).bind readHeader := by
  unfold readLine extraHeader
  dsimp only
  cases find ":" (popCarriageReturn rawLine) with
  | none => rfl
  | some colon =>
      dsimp only [Option.bind_some]
      cases found : findFirstNotOf " "
          ((popCarriageReturn rawLine).drop (colon + 1)) with
      | none => rfl
      | some vstart =>
          dsimp only [readHeader]
          rw [strip_drop_of_findFirstNotOf found]

theorem extraRead_eq (extraHeaders : CppString) :
    extraRead extraHeaders =
      (injected extraHeaders).filterMap readHeader := by
  rw [extraRead, injected, List.filterMap_filterMap]
  exact List.filterMap_congr (fun rawLine _ => readLine_eq rawLine)

/-- Assign the headers of a list one after the other. -/
def assignLines (lines headers : List SIPHeader) : List SIPHeader :=
  lines.foldl (fun headers header =>
    assignMatching header.name header.value headers) headers

/-- The loop over the lines assigns what is on them. -/
theorem addExtraHeaders_eq
    (extraHeaders : CppString) (headers : List SIPHeader) :
    addExtraHeaders extraHeaders headers =
      assignLines (injected extraHeaders) headers := by
  rw [addExtraHeaders, assignLines, injected, List.foldl_filterMap]
  congr 1
  funext headers rawLine
  unfold addExtraHeader
  cases extraHeader rawLine <;> rfl

/-! ## Assigning -/

section Assigning

variable {name value : CppString} {headers : List SIPHeader}
  {header : SIPHeader}

/-- Assigning appends a name exactly if it is not there in some case. -/
theorem lowerNames_assignMatching
    (name value : CppString) (headers : List SIPHeader) :
    lowerNames (assignMatching name value headers) =
      if lower name ∈ lowerNames headers then lowerNames headers
      else lowerNames headers ++ [lower name] := by
  induction headers with
  | nil => simp [assignMatching, lowerNames]
  | cons header rest ih =>
      unfold lowerNames at ih ⊢
      by_cases same : lower name = lower header.name
      · simp [assignMatching, sameName_iff, same]
      · simp only [assignMatching, sameName_iff, Ne.symm same, if_false,
          List.map_cons, ih, List.mem_cons, same, false_or]
        split_ifs <;> rfl

theorem mem_lowerNames_assignMatching
    {lowered : CppString}
    (listed : lowered ∈ lowerNames headers ∨ lowered = lower name) :
    lowered ∈ lowerNames (assignMatching name value headers) := by
  rw [lowerNames_assignMatching]
  rcases listed with old | rfl
  · split_ifs
    · exact old
    · exact List.mem_append_left _ old
  · split_ifs with present
    · exact present
    · exact List.mem_append_right _ (List.mem_singleton_self _)

/-- The assigned value stands under the name, in the case it was first in. -/
theorem exists_mem_assignMatching
    (name value : CppString) (headers : List SIPHeader) :
    ∃ kept, lower kept = lower name ∧
      SIPHeader.mk kept value ∈ assignMatching name value headers := by
  induction headers with
  | nil => exact ⟨name, rfl, List.mem_singleton_self _⟩
  | cons header rest ih =>
      unfold assignMatching
      split_ifs with same
      · exact ⟨header.name, sameName_iff.mp same, List.mem_cons_self⟩
      · obtain ⟨kept, named, member⟩ := ih
        exact ⟨kept, named, List.mem_cons_of_mem _ member⟩

theorem mem_assignMatching_of_ne
    (member : header ∈ headers) (other : lower header.name ≠ lower name) :
    header ∈ assignMatching name value headers := by
  induction headers with
  | nil => cases member
  | cons first rest ih =>
      unfold assignMatching
      rcases List.mem_cons.mp member with rfl | inRest
      · rw [if_neg (mt sameName_iff.mp other)]
        exact List.mem_cons_self
      · split_ifs
        · exact List.mem_cons_of_mem _ inRest
        · exact List.mem_cons_of_mem _ (ih inRest)

theorem name_mem_of_assignMatching
    (member : header ∈ assignMatching name value headers) :
    header.name ∈ headers.map SIPHeader.name ∨ header.name = name := by
  induction headers with
  | nil =>
      obtain rfl := List.mem_singleton.mp member
      exact Or.inr rfl
  | cons first rest ih =>
      unfold assignMatching at member
      split_ifs at member
      · rcases List.mem_cons.mp member with rfl | inRest
        · exact Or.inl List.mem_cons_self
        · exact Or.inl (List.mem_cons_of_mem _ (List.mem_map_of_mem inRest))
      · rcases List.mem_cons.mp member with rfl | inRest
        · exact Or.inl List.mem_cons_self
        · exact (ih inRest).imp_left (List.mem_cons_of_mem _)

end Assigning

section Lines

variable {lines headers : List SIPHeader} {header : SIPHeader}

/-- No two headers have one name. -/
def NamedApart (headers : List SIPHeader) : Prop :=
  headers.Pairwise (fun first second =>
    lower first.name ≠ lower second.name)

theorem namedApart_iff :
    NamedApart headers ↔ (lowerNames headers).Nodup :=
  List.pairwise_map.symm

theorem NamedApart.assignLines (apart : NamedApart headers) :
    NamedApart (assignLines lines headers) := by
  induction lines generalizing headers with
  | nil => exact apart
  | cons line rest ih =>
      refine ih ?_
      rw [namedApart_iff] at apart ⊢
      rw [lowerNames_assignMatching]
      split_ifs with present
      · exact apart
      · simpa using apart.concat present

/-- A header stays if no line has its name. -/
theorem mem_assignLines_of_ne
    (member : header ∈ headers)
    (others : ∀ line ∈ lines, lower line.name ≠ lower header.name) :
    header ∈ assignLines lines headers := by
  induction lines generalizing headers with
  | nil => exact member
  | cons line rest ih =>
      have first := others line List.mem_cons_self
      exact ih (mem_assignMatching_of_ne member first.symm)
        (fun other inRest => others other (List.mem_cons_of_mem _ inRest))

/-- The last line of a name decides the value. -/
theorem exists_mem_assignLines
    {before after : List SIPHeader} {line : SIPHeader}
    (others : ∀ later ∈ after, lower later.name ≠ lower line.name)
    (headers : List SIPHeader) :
    ∃ kept, lower kept = lower line.name ∧
      SIPHeader.mk kept line.value ∈
        assignLines (before ++ line :: after) headers := by
  obtain ⟨kept, named, member⟩ := exists_mem_assignMatching line.name
    line.value (assignLines before headers)
  refine ⟨kept, named, ?_⟩
  rw [assignLines, List.foldl_append, List.foldl_cons]
  refine mem_assignLines_of_ne member ?_
  rw [named]
  exact others

theorem mem_lowerNames_assignLines
    {lowered : CppString}
    (listed : lowered ∈ lowerNames headers ∨ lowered ∈ lowerNames lines) :
    lowered ∈ lowerNames (assignLines lines headers) := by
  induction lines generalizing headers with
  | nil => simpa [lowerNames, assignLines] using listed
  | cons line rest ih =>
      apply ih
      rcases listed with old | inLines
      · exact Or.inl (mem_lowerNames_assignMatching (Or.inl old))
      · rcases List.mem_cons.mp inLines with rfl | later
        · exact Or.inl (mem_lowerNames_assignMatching (Or.inr rfl))
        · exact Or.inr later

theorem name_mem_of_assignLines
    (member : header ∈ assignLines lines headers) :
    header.name ∈ headers.map SIPHeader.name ++
      lines.map SIPHeader.name := by
  induction lines generalizing headers with
  | nil => exact List.mem_append_left _ (List.mem_map_of_mem member)
  | cons line rest ih =>
      rcases List.mem_append.mp (ih member) with assigned | inRest
      · obtain ⟨first, inFirst, same⟩ := List.mem_map.mp assigned
        rw [← same, List.map_cons]
        rcases name_mem_of_assignMatching inFirst with old | new
        · exact List.mem_append_left _ old
        · exact List.mem_append_right _ (new ▸ List.mem_cons_self)
      · exact List.mem_append_right _ (List.mem_cons_of_mem _ inRest)

end Lines

/-! ## One header of a name -/

section Only

variable {α : Type} {test : α → Bool} {entries : List α} {entry : α}

theorem filter_eq_singleton_of_pairwise
    (apart : entries.Pairwise (fun first second =>
      test first = true → ¬ test second = true))
    (member : entry ∈ entries) (passes : test entry = true) :
    entries.filter test = [entry] := by
  induction entries with
  | nil => cases member
  | cons first rest ih =>
      obtain ⟨others, restApart⟩ := List.pairwise_cons.mp apart
      rcases List.mem_cons.mp member with rfl | inRest
      · rw [List.filter_cons_of_pos passes, List.cons_inj_right,
          List.filter_eq_nil_iff]
        exact fun other inRest => others other inRest passes
      · rw [List.filter_cons_of_neg
          (fun firstPasses => others entry inRest firstPasses passes)]
        exact ih restApart inRest

theorem pairwise_of_filter_eq_singleton
    (only : entries.filter test = [entry]) :
    entries.Pairwise (fun first second =>
      test first = true → ¬ test second = true) := by
  have alone : (entries.filter test).Pairwise (fun _ _ => False) := by
    rw [only]
    exact List.pairwise_singleton _ _
  exact (List.pairwise_filter.mp alone).imp
    (fun impossible first second => impossible first second)

/-- Some last entry passes a test that an entry passes. -/
theorem exists_last
    (member : entry ∈ entries) (passes : test entry = true) :
    ∃ before last after, entries = before ++ last :: after ∧
      test last = true ∧ ∀ later ∈ after, test later = false := by
  induction entries generalizing entry with
  | nil => cases member
  | cons first rest ih =>
      by_cases more : ∃ later ∈ rest, test later = true
      · obtain ⟨later, inRest, laterPasses⟩ := more
        obtain ⟨before, last, after, rfl, lastPasses, others⟩ :=
          ih inRest laterPasses
        exact ⟨first :: before, last, after, rfl, lastPasses, others⟩
      · have none : ∀ later ∈ rest, test later = false := by
          intro later inRest
          rw [← Bool.not_eq_true]
          exact fun laterPasses => more ⟨later, inRest, laterPasses⟩
        rcases List.mem_cons.mp member with rfl | inRest
        · exact ⟨[], entry, rest, rfl, passes, none⟩
        · exact absurd ⟨entry, inRest, passes⟩ more

end Only

/-! ## Sound requests -/

/-- The headers that every request has exactly once. -/
def requiredNames : List CppString :=
  ["Via".toList, "From".toList, "To".toList, "Call-ID".toList,
    "CSeq".toList, "Content-Length".toList]

/-- The headers of a message with this name, in any case. -/
def headersNamed (message : SIPMessage) (name : CppString) :
    List SIPHeader :=
  message.headers.filter (fun header => sameName header.name name)

/-- What a request says after parsing if its extra lines do what they say. -/
structure SoundRequest
    (extraHeaders body : CppString) (message : SIPMessage) : Prop where
  required : ∀ name ∈ requiredNames,
    ∃ value, headersNamed message name = [⟨name, value⟩]
  size : message.getHeader "Content-Length" = stdToString body.length
  body : message.body = body
  lastWins : ∀ before line after,
    extraRead extraHeaders = before ++ line :: after →
    line.name ≠ "Content-Length".toList →
    (∀ later ∈ after, sameName later.name line.name = false) →
    ∃ kept, headersNamed message line.name = [⟨kept, line.value⟩]

/-- The names that the factory writes in front of the extra lines. -/
def baseNames (method : CppString) : List CppString :=
  ["Via".toList, "From".toList, "To".toList, "Call-ID".toList,
    "CSeq".toList] ++
  if method = "REGISTER".toList ∨ method = "INVITE".toList
  then ["Contact".toList] else []

theorem names_baseHeaders
    (factory : SIPMessageFactory)
    (method fromUsername fromDomain toUsername toDomain callId :
      CppString) :
    (factory.baseHeaders method fromUsername fromDomain toUsername toDomain
      callId).map SIPHeader.name = baseNames method := by
  unfold SIPMessageFactory.baseHeaders baseNames
  split_ifs <;> rfl

/-- Every name that is compared while a request is built. -/
def usedNames (method extraHeaders : CppString) : List CppString :=
  baseNames method ++ (injected extraHeaders).map SIPHeader.name

/--
No extra line is named Content-Length, and names that agree when they are
trimmed agree as they are written.
-/
structure Injectable (method extraHeaders : CppString) : Prop where
  notLength : ∀ line ∈ injected extraHeaders,
    sameName (strip blanks line.name) "Content-Length" = false
  trimmed : ∀ first ∈ usedNames method extraHeaders,
    ∀ second ∈ usedNames method extraHeaders, strip blanks first ≠ [] →
      sameName (strip blanks first) (strip blanks second) = true →
        sameName first second = true

/-! ## Reading what was assigned -/

theorem baseNames_bare (method : CppString) :
    ∀ name ∈ baseNames method, strip blanks name = name ∧ name ≠ [] ∧
      sameName name "Content-Length" = false := by
  unfold baseNames
  split_ifs <;> decide

theorem mem_baseNames_of_required (method : CppString) :
    ∀ name ∈ requiredNames,
      name ∈ baseNames method ∨ name = "Content-Length".toList := by
  unfold baseNames
  split_ifs <;> decide

theorem baseNames_apart (method : CppString) :
    ((baseNames method).map lower).Nodup := by
  unfold baseNames
  split_ifs <;> decide

section Reading

variable {method extraHeaders body : CppString}
  {base : List SIPHeader} {header first second : SIPHeader}

theorem namedApart_base (named : base.map SIPHeader.name = baseNames method) :
    NamedApart base := by
  rw [namedApart_iff]
  have lowered : lowerNames base = (baseNames method).map lower := by
    rw [← named, List.map_map]
    rfl
  rw [lowered]
  exact baseNames_apart method

/-- What the parser makes of the assigned headers and Content-Length. -/
def readBack (extraHeaders body : CppString) (base : List SIPHeader) :
    List SIPHeader :=
  (addExtraHeaders extraHeaders base ++
    [SIPHeader.mk "Content-Length" (stdToString body.length)]).filterMap
      readHeader

theorem readHeader_eq_some_iff {read : SIPHeader} :
    readHeader header = some read ↔
      strip blanks header.name ≠ [] ∧
        read = ⟨strip blanks header.name, strip blanks header.value⟩ := by
  unfold readHeader
  split_ifs with empty
  · simp [empty]
  · simp [empty, eq_comm]

theorem readHeader_contentLength (body : CppString) :
    readHeader ⟨"Content-Length", stdToString body.length⟩ =
      some ⟨"Content-Length", stdToString body.length⟩ :=
  (contentLength_wellFormed body.length).readable.readHeader_eq

theorem contentLength_mem_readBack :
    ⟨"Content-Length", stdToString body.length⟩ ∈
      readBack extraHeaders body base :=
  List.mem_filterMap.mpr ⟨_, List.mem_append_right _
    (List.mem_singleton_self _), readHeader_contentLength body⟩

/-- The header is named by the request or by an extra line. -/
theorem name_mem_usedNames
    (named : base.map SIPHeader.name = baseNames method)
    (member : header ∈ addExtraHeaders extraHeaders base) :
    header.name ∈ usedNames method extraHeaders := by
  rw [addExtraHeaders_eq] at member
  unfold usedNames
  rw [← named]
  exact name_mem_of_assignLines member

/-- A used name is the name of a header, in some case. -/
theorem exists_mem_of_usedName
    (named : base.map SIPHeader.name = baseNames method)
    {name : CppString} (used : name ∈ usedNames method extraHeaders) :
    ∃ header ∈ addExtraHeaders extraHeaders base,
      lower header.name = lower name := by
  have listed : lower name ∈ lowerNames base ∨
      lower name ∈ lowerNames (injected extraHeaders) := by
    unfold usedNames at used
    rw [← named] at used
    rcases List.mem_append.mp used with ofRequest | ofLine
    · obtain ⟨header, member, rfl⟩ := List.mem_map.mp ofRequest
      exact Or.inl (List.mem_map.mpr ⟨header, member, rfl⟩)
    · obtain ⟨header, member, rfl⟩ := List.mem_map.mp ofLine
      exact Or.inr (List.mem_map.mpr ⟨header, member, rfl⟩)
  rw [addExtraHeaders_eq]
  exact List.mem_map.mp (mem_lowerNames_assignLines listed)

theorem lower_strip_of_lower
    {left right : CppString} (same : lower left = lower right) :
    lower (strip blanks left) = lower (strip blanks right) := by
  rw [← strip_lower, ← strip_lower, same]

theorem strip_ne_nil_of_lower
    {left right : CppString} (same : lower left = lower right)
    (nonempty : strip blanks right ≠ []) : strip blanks left ≠ [] := by
  intro empty
  have trimmed := lower_strip_of_lower same
  rw [empty] at trimmed
  exact nonempty (List.map_eq_nil_iff.mp trimmed.symm)

/-- A header is read back if its name is more than blanks. -/
theorem mem_readBack
    (member : header ∈ addExtraHeaders extraHeaders base)
    (nonempty : strip blanks header.name ≠ []) :
    ⟨strip blanks header.name, strip blanks header.value⟩ ∈
      readBack extraHeaders body base :=
  List.mem_filterMap.mpr ⟨header, List.mem_append_left _ member,
    readHeader_eq_some_iff.mpr ⟨nonempty, rfl⟩⟩

/-! ### Injectable lines -/

theorem Injectable.ne_contentLength
    (injectable : Injectable method extraHeaders)
    (named : base.map SIPHeader.name = baseNames method)
    (member : header ∈ addExtraHeaders extraHeaders base) :
    lower (strip blanks header.name) ≠ lower "Content-Length" := by
  have different : sameName (strip blanks header.name) "Content-Length" =
      false := by
    rcases List.mem_append.mp (name_mem_usedNames named member) with
      ofRequest | ofLine
    · obtain ⟨bare, -, other⟩ := baseNames_bare method _ ofRequest
      rw [bare]
      exact other
    · obtain ⟨line, inLines, same⟩ := List.mem_map.mp ofLine
      rw [← same]
      exact injectable.notLength line inLines
  intro same
  rw [sameName_iff.mpr same] at different
  cases different

/-- Trimming does not bring two headers under one name. -/
theorem Injectable.readBack_apart
    (injectable : Injectable method extraHeaders)
    (named : base.map SIPHeader.name = baseNames method) :
    NamedApart (readBack extraHeaders body base) := by
  have apart : NamedApart (addExtraHeaders extraHeaders base) := by
    rw [addExtraHeaders_eq]
    exact (namedApart_base named).assignLines
  unfold NamedApart readBack
  rw [List.pairwise_filterMap, List.pairwise_append]
  refine ⟨apart.imp_of_mem ?_, List.pairwise_singleton _ _, ?_⟩
  · intro first second inFirst inSecond different readFirst ofFirst
      readSecond ofSecond same
    obtain ⟨nonempty, rfl⟩ := readHeader_eq_some_iff.mp ofFirst
    obtain ⟨-, rfl⟩ := readHeader_eq_some_iff.mp ofSecond
    exact different (sameName_iff.mp (injectable.trimmed _
      (name_mem_usedNames named inFirst) _ (name_mem_usedNames named inSecond)
      nonempty (sameName_iff.mpr same)))
  · intro first inFirst last isLast readFirst ofFirst readLast ofLast
    obtain rfl := List.mem_singleton.mp isLast
    rw [readHeader_contentLength, Option.some.injEq] at ofLast
    subst readLast
    obtain ⟨-, rfl⟩ := readHeader_eq_some_iff.mp ofFirst
    exact injectable.ne_contentLength named inFirst

theorem headersNamed_of_mem
    {message : SIPMessage} {name : CppString}
    (apart : NamedApart message.headers) (member : header ∈ message.headers)
    (same : lower header.name = lower name) :
    headersNamed message name = [header] := by
  refine filter_eq_singleton_of_pairwise ?_ member (sameName_iff.mpr same)
  refine apart.imp ?_
  intro first second different ofFirst ofSecond
  exact different ((sameName_iff.mp ofFirst).trans
    (sameName_iff.mp ofSecond).symm)

theorem getHeader_of_headersNamed
    {message : SIPMessage} {name value : CppString}
    (only : headersNamed message name = [⟨name, value⟩]) :
    message.getHeader name = value := by
  have narrowed : message.headers.filter (fun header => header.name = name) =
      (headersNamed message name).filter (fun header => header.name = name) :=
    by
      rw [headersNamed, List.filter_filter]
      refine List.filter_congr (fun header _ => ?_)
      by_cases same : header.name = name
      · simp [same, sameName_iff]
      · simp [same]
  rw [getHeader_eq_headD, getHeaders, narrowed, only]
  simp

/-- A line that is read is the last one of its name for the factory, too. -/
theorem split_injected
    {before after : List SIPHeader} {line : SIPHeader}
    (split : extraRead extraHeaders = before ++ line :: after)
    (others : ∀ later ∈ after, sameName later.name line.name = false) :
    ∃ front raw rest, injected extraHeaders = front ++ raw :: rest ∧
      readHeader raw = some line ∧
      ∀ later ∈ rest, lower later.name ≠ lower raw.name := by
  rw [extraRead_eq] at split
  obtain ⟨front, more, linesSplit, -, moreRead⟩ :=
    List.filterMap_eq_append_iff.mp split
  obtain ⟨skipped, raw, rest, rfl, -, rawRead, restRead⟩ :=
    List.filterMap_eq_cons_iff.mp moreRead
  refine ⟨front ++ skipped, raw, rest, by simp [linesSplit], rawRead, ?_⟩
  intro later inRest same
  obtain ⟨nonempty, rfl⟩ := readHeader_eq_some_iff.mp rawRead
  have trimmed := lower_strip_of_lower same
  have laterNonempty := strip_ne_nil_of_lower same nonempty
  have inAfter : ⟨strip blanks later.name, strip blanks later.value⟩ ∈
      after := by
    rw [← restRead]
    exact List.mem_filterMap.mpr ⟨later, inRest,
      readHeader_eq_some_iff.mpr ⟨laterNonempty, rfl⟩⟩
  have different := others _ inAfter
  rw [sameName_iff.mpr trimmed] at different
  cases different

/-- Injectable lines do what they say. -/
theorem Injectable.sound
    (injectable : Injectable method extraHeaders)
    (named : base.map SIPHeader.name = baseNames method)
    (startLine : CppString) :
    SoundRequest extraHeaders body
      (parseBody ⟨startLine, readBack extraHeaders body base, []⟩ body) := by
  have apart : NamedApart (readBack extraHeaders body base) :=
    injectable.readBack_apart named
  have sized : getHeader ⟨startLine, readBack extraHeaders body base, []⟩
      "Content-Length" = stdToString body.length :=
    getHeader_of_headersNamed
      (headersNamed_of_mem apart contentLength_mem_readBack rfl)
  rw [parseBody_of_contentLength sized]
  refine ⟨?_, sized, rfl, ?_⟩
  · intro name required
    rcases mem_baseNames_of_required method name required with
      ofRequest | rfl
    · rw [← named] at ofRequest
      obtain ⟨header, member, rfl⟩ := List.mem_map.mp
        ((names_addExtraHeaders extraHeaders base).subset ofRequest)
      rw [named] at ofRequest
      obtain ⟨bare, nonempty, -⟩ := baseNames_bare method _ ofRequest
      have inBack := @mem_readBack extraHeaders body base header member
        (bare.symm ▸ nonempty)
      rw [bare] at inBack
      exact ⟨_, headersNamed_of_mem apart inBack rfl⟩
    · exact ⟨_, headersNamed_of_mem apart contentLength_mem_readBack rfl⟩
  · intro before line after split _ others
    obtain ⟨front, raw, rest, linesSplit, rawRead, later⟩ :=
      split_injected split others
    obtain ⟨nonempty, rfl⟩ := readHeader_eq_some_iff.mp rawRead
    obtain ⟨kept, same, member⟩ := exists_mem_assignLines later base
    rw [← linesSplit, ← addExtraHeaders_eq] at member
    have trimmed := lower_strip_of_lower same
    have keptNonempty := strip_ne_nil_of_lower same nonempty
    have inBack := @mem_readBack extraHeaders body base ⟨kept, raw.value⟩
      member keptNonempty
    exact ⟨_, headersNamed_of_mem apart inBack trimmed⟩

/-! ### Lines that are not injectable -/

/-- Headers of one name that is read only once are one header. -/
theorem eq_of_read_once
    {headers : List SIPHeader} {test : SIPHeader → Bool} {only : SIPHeader}
    (once : (headers.filterMap readHeader).filter test = [only])
    (inFirst : first ∈ headers) (inSecond : second ∈ headers)
    {readFirst readSecond : SIPHeader}
    (ofFirst : readHeader first = some readFirst)
    (ofSecond : readHeader second = some readSecond)
    (firstPasses : test readFirst = true)
    (secondPasses : test readSecond = true) : first = second := by
  have apart := pairwise_of_filter_eq_singleton once
  rw [List.pairwise_filterMap] at apart
  by_contra different
  have symmetric : Std.Symm (fun one other : SIPHeader =>
      ∀ readOne, readHeader one = some readOne →
        ∀ readOther, readHeader other = some readOther →
          test readOne = true → ¬ test readOther = true) :=
    ⟨fun one other holds readOther ofOther readOne ofOne otherPasses
      onePasses => holds readOne ofOne readOther ofOther onePasses
        otherPasses⟩
  exact apart.forall inFirst inSecond different readFirst ofFirst readSecond
    ofSecond firstPasses secondPasses

section Sound

variable {message : SIPMessage}

/-- A sound request has no Content-Length among the assigned headers. -/
theorem SoundRequest.ne_contentLength
    (sound : SoundRequest extraHeaders body message)
    (headers : message.headers = readBack extraHeaders body base)
    (member : header ∈ addExtraHeaders extraHeaders base)
    (nonempty : strip blanks header.name ≠ []) :
    lower (strip blanks header.name) ≠ lower "Content-Length" := by
  obtain ⟨value, once⟩ := sound.required "Content-Length" (by decide)
  rw [headersNamed, headers] at once
  have apart := pairwise_of_filter_eq_singleton once
  rw [readBack, List.pairwise_filterMap, List.pairwise_append] at apart
  obtain ⟨-, -, across⟩ := apart
  intro same
  exact across header member _ (List.mem_singleton_self _) _
    (readHeader_eq_some_iff.mpr ⟨nonempty, rfl⟩) _
    (readHeader_contentLength body) (sameName_iff.mpr same)
    (sameName_iff.mpr rfl)

theorem SoundRequest.line_ne_contentLength
    (sound : SoundRequest extraHeaders body message)
    (headers : message.headers = readBack extraHeaders body base)
    (named : base.map SIPHeader.name = baseNames method)
    {line : SIPHeader} (listed : line ∈ injected extraHeaders) :
    lower (strip blanks line.name) ≠ lower "Content-Length" := by
  intro same
  have used : line.name ∈ usedNames method extraHeaders :=
    List.mem_append_right _ (List.mem_map_of_mem listed)
  obtain ⟨header, member, sameLine⟩ := exists_mem_of_usedName named used
  have trimmed := (lower_strip_of_lower sameLine).trans same
  have nonempty : strip blanks header.name ≠ [] := by
    intro empty
    rw [empty] at trimmed
    exact absurd trimmed (by decide)
  exact sound.ne_contentLength headers member nonempty trimmed

/-- The headers with the name of a line, without blanks, are one header. -/
theorem SoundRequest.eq_of_line
    (sound : SoundRequest extraHeaders body message)
    (headers : message.headers = readBack extraHeaders body base)
    (named : base.map SIPHeader.name = baseNames method)
    {line : SIPHeader} (listed : line ∈ injected extraHeaders)
    (nonempty : strip blanks line.name ≠ [])
    (inFirst : first ∈ addExtraHeaders extraHeaders base)
    (inSecond : second ∈ addExtraHeaders extraHeaders base)
    (ofFirst : lower (strip blanks first.name) =
      lower (strip blanks line.name))
    (ofSecond : lower (strip blanks second.name) =
      lower (strip blanks line.name)) :
    first = second := by
  have lineRead : ⟨strip blanks line.name, strip blanks line.value⟩ ∈
      extraRead extraHeaders := by
    rw [extraRead_eq]
    exact List.mem_filterMap.mpr ⟨line, listed,
      readHeader_eq_some_iff.mpr ⟨nonempty, rfl⟩⟩
  obtain ⟨before, last, after, split, isLast, others⟩ :=
    @exists_last _ (fun later =>
      sameName later.name (strip blanks line.name)) _ _ lineRead
      (sameName_iff.mpr rfl)
  have lastLower := sameName_iff.mp isLast
  have notLength : last.name ≠ "Content-Length".toList := by
    intro same
    rw [same] at lastLower
    exact sound.line_ne_contentLength headers named listed lastLower.symm
  have laterOthers : ∀ later ∈ after,
      sameName later.name last.name = false := by
    intro later inAfter
    have different := others later inAfter
    rw [← Bool.not_eq_true, sameName_iff] at different ⊢
    rw [lastLower]
    exact different
  obtain ⟨kept, once⟩ :=
    sound.lastWins before last after split notLength laterOthers
  have nonemptyOf : ∀ name, lower name = lower (strip blanks line.name) →
      name ≠ [] := by
    rintro name same rfl
    exact nonempty (List.map_eq_nil_iff.mp same.symm)
  rw [headersNamed, headers] at once
  exact eq_of_read_once once (List.mem_append_left _ inFirst)
    (List.mem_append_left _ inSecond)
    (readHeader_eq_some_iff.mpr ⟨nonemptyOf _ ofFirst, rfl⟩)
    (readHeader_eq_some_iff.mpr ⟨nonemptyOf _ ofSecond, rfl⟩)
    (sameName_iff.mpr (ofFirst.trans lastLower.symm))
    (sameName_iff.mpr (ofSecond.trans lastLower.symm))

/-- Only injectable lines do what they say. -/
theorem SoundRequest.injectable
    (sound : SoundRequest extraHeaders body message)
    (headers : message.headers = readBack extraHeaders body base)
    (named : base.map SIPHeader.name = baseNames method) :
    Injectable method extraHeaders := by
  constructor
  · intro line listed
    rw [← Bool.not_eq_true, sameName_iff]
    exact sound.line_ne_contentLength headers named listed
  · intro first firstUsed second secondUsed nonempty trimmed
    rw [sameName_iff] at trimmed ⊢
    obtain ⟨one, inOne, ofOne⟩ := exists_mem_of_usedName named firstUsed
    obtain ⟨other, inOther, ofOther⟩ :=
      exists_mem_of_usedName named secondUsed
    have oneTrimmed := lower_strip_of_lower ofOne
    have otherTrimmed := lower_strip_of_lower ofOther
    rcases List.mem_append.mp firstUsed with firstBase | firstLine
    · rcases List.mem_append.mp secondUsed with secondBase | secondLine
      · rw [(baseNames_bare method first firstBase).1,
          (baseNames_bare method second secondBase).1] at trimmed
        exact trimmed
      · obtain ⟨line, listed, rfl⟩ := List.mem_map.mp secondLine
        have lineNonempty : strip blanks line.name ≠ [] := by
          intro empty
          rw [empty] at trimmed
          exact nonempty (List.map_eq_nil_iff.mp trimmed)
        rw [← ofOne, ← ofOther, sound.eq_of_line headers named listed
          lineNonempty inOne inOther (oneTrimmed.trans trimmed) otherTrimmed]
    · obtain ⟨line, listed, rfl⟩ := List.mem_map.mp firstLine
      rw [← ofOne, ← ofOther, sound.eq_of_line headers named listed nonempty
        inOne inOther oneTrimmed (otherTrimmed.trans trimmed.symm)]

end Sound

end Reading

/-! ## The request -/

section Requests

variable {factory : SIPMessageFactory}
  {method fromUsername fromDomain toUsername toDomain callId : CppString}

/-- Building a request with these lines and parsing it gives a sound one. -/
def InjectsSoundly
    (factory : SIPMessageFactory)
    (method fromUsername fromDomain toUsername toDomain callId body
      extraHeaders : CppString) : Prop :=
  ∃ text next message,
    factory.build method fromUsername fromDomain toUsername toDomain callId
        body extraHeaders = .ok (text, next) ∧
      parse text = .ok message ∧ SoundRequest extraHeaders body message

/--
A request of any method, users, domains, Call-ID and body is sound after
parsing exactly if its extra lines are injectable.
-/
theorem injectsSoundly_iff
    (nonempty : method ≠ [])
    (word : ∀ char ∈ method, char.isAlpha = true)
    (unbroken : Unbroken factory fromUsername fromDomain toUsername toDomain
      callId)
    (body extraHeaders : CppString) :
    InjectsSoundly factory method fromUsername fromDomain toUsername toDomain
        callId body extraHeaders ↔
      Injectable method extraHeaders := by
  have methodUnbroken : '\n' ∉ method :=
    fun member => absurd (word '\n' member) (by decide)
  have named := names_baseHeaders factory method fromUsername fromDomain
    toUsername toDomain callId
  constructor
  · rintro ⟨text, next, message, built, parsed, sound⟩
    obtain ⟨startLine, -, read⟩ :=
      parse_request nonempty methodUnbroken unbroken built
    rw [parsed, Except.ok.injEq] at read
    refine sound.injectable ?_ named
    rw [read, parseBody_headers]
    rfl
  · intro injectable
    obtain ⟨text, next, built⟩ : ∃ text next,
        factory.build method fromUsername fromDomain toUsername toDomain
          callId body extraHeaders = .ok (text, next) := by
      rw [SIPMessageFactory.build, if_neg nonempty]
      exact ⟨_, _, rfl⟩
    obtain ⟨startLine, -, read⟩ :=
      parse_request nonempty methodUnbroken unbroken built
    exact ⟨text, next, _, built, read, injectable.sound named startLine⟩

/-- The factory of a client at one address. -/
def testFactory : SIPMessageFactory :=
  create "10.0.0.1" 5060 7

/-- Two lines of one name and one that replaces From are injectable. -/
theorem injectsSoundly_iff_note :
    InjectsSoundly testFactory "INVITE" "alice" "home" "bob" "home" "c1"
      "hi" "X-Note: 1\r\nfrom: carol\r\nx-note: 2" :=
  (injectsSoundly_iff (by decide) (by decide)
    ⟨by decide, by decide, by decide, by decide, by decide, by decide⟩ _
    _).mpr ⟨by decide +kernel, by decide +kernel⟩

/-- Content-Length and a name before a blank are written a second time. -/
theorem contentLength_injected :
    ¬ InjectsSoundly testFactory "INVITE" "alice" "home" "bob" "home" "c1"
        "hi" "Content-Length: 1" ∧
      ¬ InjectsSoundly testFactory "INVITE" "alice" "home" "bob" "home" "c1"
        "hi" "From : carol" := by
  constructor
  · rintro ⟨text, next, message, built, parsed, sound⟩
    have counted : ((testFactory.build "INVITE" "alice" "home" "bob" "home"
        "c1" "hi" "Content-Length: 1") >>= fun result =>
          parse result.1 >>= fun message =>
            pure (message.getHeader "Content-Length", message.body)) =
        .ok ("1".toList, "h".toList) := by
      decide +kernel
    rw [built, ok_bind, parsed, ok_bind, pure_eq_ok, Except.ok.injEq,
      Prod.mk.injEq] at counted
    exact absurd (counted.2.symm.trans sound.body) (by decide)
  · rintro ⟨text, next, message, built, parsed, sound⟩
    have counted : ((testFactory.build "INVITE" "alice" "home" "bob" "home"
        "c1" "hi" "From : carol") >>= fun result =>
          parse result.1 >>= fun message =>
            pure (headersNamed message "From").length) = .ok 2 := by
      decide +kernel
    rw [built, ok_bind, parsed, ok_bind, pure_eq_ok, Except.ok.injEq]
      at counted
    obtain ⟨value, once⟩ := sound.required "From" (by decide)
    rw [once, List.length_singleton] at counted
    exact absurd counted (by decide)

end Requests

end MinimalSip.Client
